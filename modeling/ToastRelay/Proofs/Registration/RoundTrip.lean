import ToastRelay.Proofs.Json.Members
import ToastRelay.Registration.File

/-!
# Saved registrations are read back

A registration is written as an object whose members are its fields, and the absent ones are left
out; registrations are written as an object whose members are their entries. Reading what was
written gives the same registrations, key by key and field by field.
-/

namespace ToastRelay
set_option autoImplicit false

open Reader

theorem isBlank_of_mem_space {c : Char} (h : c ∈ [' ']) : Cursor.isBlank c = true := by
  rw [List.mem_singleton.mp h]
  rfl

theorem takes_string {blanks : List Char} (hblanks : ∀ c ∈ blanks, Cursor.isBlank c = true)
    (s : String) (rest : List Char) :
    Reader.string.Takes s (blanks ++ Json.stringChars s ++ rest) rest := by
  apply (takes_stringChars .unfinishedValue hblanks s rest).bind
  simp only [if_true]
  exact (takes_step '"' _).bind (takes_stringBody s rest)

theorem takes_natural (n : UInt64) {rest : List Char} (hrest : EndsNumber rest) :
    Reader.natural.Takes n ((JsonNumber.natural n).text.toList ++ rest) rest := by
  obtain ⟨c, s, hdigits, hc, -⟩ := toDigits_ten_cons n.toNat
  have hnumber := takes_number hrest n
  rw [toList_text_natural, hdigits] at hnumber ⊢
  have hminus : some c ≠ some '-' := fun h => ne_of_isDigit hc rfl (Option.some.inj h)
  have hdigit : (some c).any Char.isDigit = true := hc
  apply (takes_next (Cursor.isBlank_of_isDigit hc) .unfinishedValue (s ++ rest)).bind
  rw [if_neg hminus, if_pos hdigit]
  exact hnumber.bind (takes_pure n rest)

theorem takes_optional {α : Type} {r : Reader α} {a : α} {c : Char} {s rest : List Char}
    (hblank : Cursor.isBlank c = false) (hnull : c ≠ 'n') (h : r.Takes a (c :: s) rest) :
    (optional r).Takes (some a) (' ' :: c :: s) rest := by
  have hskip := takes_skipBlanks (t := c :: s) (fun _ => isBlank_of_mem_space)
    (by simpa using hblank)
  refine hskip.bind (takes_get fun p => ?_)
  have hnext : List.head? (c :: s) ≠ some 'n' := by simpa using hnull
  rw [next?_mk, if_neg hnext]
  exact h.map some

theorem Record.takes_member {σ α : Type} {record : Record σ α} {field : Field σ} {name : String}
    {draft draft' : σ} {s rest : List Char}
    (hfind : record.fields.find? (·.name = name) = some field)
    (hgiven : field.given draft = false) (hread : (field.read draft).Takes draft' s rest)
    (steps : Nat) : (record.member steps name draft).Takes draft' (':' :: s) rest := by
  rw [Record.member, hfind]
  dsimp only
  rw [hgiven]
  exact (takes_colon s).bind hread

theorem Record.takes_read {σ α : Type} {record : Record σ α} {draft : σ} {a : α}
    {ms : List (String × Json)} {steps depth : Nat}
    (h : ReadsMembers (record.member steps) (depth + 1) record.blank ms draft)
    (hmake : record.make draft = .ok a) (hsteps : ms.length < steps) (rest : List Char) :
    (record.read steps).Takes a (' ' :: ((Json.object ms).indentedChars depth ++ rest)) rest := by
  obtain ⟨body, hbody, hmembers⟩ := takes_members h hsteps rest
  have hfinish : (record.finish draft).Takes a ('\x7d' :: rest) ('\x7d' :: rest) := by
    rw [Record.finish, hmake]
    exact takes_pure a _
  rw [hbody]
  apply (takes_nextBehindBlanks (s := [' ']) (fun _ => isBlank_of_mem_space) rfl _ body).bind
  simp only [Option.some.injEq, Char.reduceEq, if_false, if_true]
  refine (takes_step '\x7b' _).bind (takes_enclosed (hmembers.bind hfinish) ?_)
  exact takes_closeObject (s := []) (by simp) rest

namespace Registration

variable {d : Draft} (steps depth : Nat)

theorem readsMembers_id (hd : d.id = none) (s : String) :
    ReadsMembers (record.member steps) depth d [("id", .string s)] { d with id := some s } := by
  refine .cons (fun rest _ => ?_) (.nil _)
  refine Record.takes_member rfl (by simp [hd]) ?_ steps
  exact (takes_string (fun _ => isBlank_of_mem_space) s rest).bind (takes_pure _ rest)

theorem readsMembers_channel (hd : d.channel = none) (s : String) :
    ReadsMembers (record.member steps) depth d [("channel", .string s)]
      { d with channel := some s } := by
  refine .cons (fun rest _ => ?_) (.nil _)
  refine Record.takes_member rfl (by simp [hd]) ?_ steps
  exact (takes_string (fun _ => isBlank_of_mem_space) s rest).bind (takes_pure _ rest)

theorem readsMembers_expiry (hd : d.expiry = none) (expiry : Option UInt64) :
    ReadsMembers (record.member steps) depth d
      (expiry.toList.map fun n => ("expiry", .number (.natural n)))
      { d with expiry := expiry.map some } := by
  cases expiry with
  | none =>
    obtain ⟨id, channel, _, _⟩ := d
    subst hd
    exact .nil _
  | some n =>
    refine .cons (fun rest hrest => ?_) (.nil _)
    refine Record.takes_member rfl (by simp [hd]) ?_ steps
    obtain ⟨c, s, hdigits, hc, -⟩ := toDigits_ten_cons n.toNat
    have hnatural := takes_natural n hrest.endsNumber
    simp only [Json.indentedChars]
    rw [toList_text_natural, hdigits] at hnatural ⊢
    have hoptional := takes_optional (Cursor.isBlank_of_isDigit hc) (ne_of_isDigit hc rfl) hnatural
    exact hoptional.bind (takes_pure _ rest)

theorem readsMembers_name (hd : d.name = none) (name : Option String) :
    ReadsMembers (record.member steps) depth d
      (name.toList.map fun s => ("name", .string s)) { d with name := name.map some } := by
  cases name with
  | none =>
    obtain ⟨id, channel, _, _⟩ := d
    subst hd
    exact .nil _
  | some s =>
    refine .cons (fun rest _ => ?_) (.nil _)
    refine Record.takes_member rfl (by simp [hd]) ?_ steps
    have hblanks : ∀ c ∈ ([] : List Char), Cursor.isBlank c = true := by simp
    have hstring := takes_string hblanks s rest
    have hoptional := takes_optional (c := '"') rfl (by decide) hstring
    exact hoptional.bind (takes_pure _ rest)

theorem readsMembers (r : Registration) :
    ∃ ms, r.toJson = .object ms ∧ ms.length ≤ 4 ∧ ReadsMembers (record.member steps) depth
      record.blank ms ⟨some r.id, some r.channel, r.expiry.map some, r.name.map some⟩ := by
  refine ⟨_, rfl, ?_, ?_⟩
  · cases r.expiry <;> cases r.name <;> simp
  · have hid := readsMembers_id steps depth (d := record.blank) rfl r.id
    have hchannel := hid.append (readsMembers_channel steps depth rfl r.channel)
    have hexpiry := hchannel.append (readsMembers_expiry steps depth rfl r.expiry)
    exact hexpiry.append (readsMembers_name steps depth rfl r.name)

theorem make_draft (r : Registration) :
    record.make ⟨some r.id, some r.channel, r.expiry.map some, r.name.map some⟩ = .ok r := by
  obtain ⟨id, channel, expiry, name⟩ := r
  cases expiry <;> cases name <;> rfl

theorem takes_read (r : Registration) {steps : Nat} (hsteps : 4 < steps) (rest : List Char) :
    (record.read steps).Takes r (' ' :: (r.toJson.indentedChars depth ++ rest)) rest := by
  obtain ⟨ms, hms, hlength, hreads⟩ := readsMembers steps (depth + 1) r
  rw [hms]
  exact Record.takes_read hreads r.make_draft (Nat.lt_of_le_of_lt hlength hsteps) rest

end Registration

namespace Registrations

theorem readsMembers {steps : Nat} (depth : Nat) {entries : List (String × Registration)}
    {rs all : Registrations} (h : rs.entries ++ entries = all.entries)
    (hsteps : entries ≠ [] → 4 < steps) :
    ReadsMembers (fun key rs => do colon; return rs.insert key (← Registration.record.read steps))
      depth rs (entries.map fun (key, r) => (key, r.toJson)) all := by
  -- What has been entered and what is left make up the whole, which is in ascending order.
  induction entries generalizing rs with
  | nil =>
    rw [List.append_nil] at h
    rw [Dictionary.ext h]
    exact .nil all
  | cons e entries ih =>
    obtain ⟨key, r⟩ := e
    have hascending : Ascending (rs.entries ++ (key, r) :: entries) := h ▸ all.ascending
    have hlast : ∀ e ∈ rs.entries, e.1 < key := fun e he =>
      (List.pairwise_append.mp hascending).2.2 e he (key, r) List.mem_cons_self
    have hinsert : (rs.insert key r).entries ++ entries = all.entries := by
      change insertEntry key r rs.entries ++ entries = all.entries
      rw [insertEntry_of_forall_lt hlast, List.append_assoc, List.singleton_append, h]
    have hsteps : 4 < steps := hsteps (List.cons_ne_nil _ _)
    refine .cons (fun rest _ => ?_) (ih hinsert fun _ => hsteps)
    exact (takes_colon _).bind ((r.takes_read depth hsteps rest).bind (takes_pure _ rest))

/-- Registrations are read back from their text. -/
theorem ofText_toText (rs : Registrations) : ofText rs.toText = .ok rs := by
  have htext : rs.toText.toList = rs.toJson.indentedChars 0 := by
    rw [toText, Json.indented, String.toList_ofList]
  rw [ofText, htext, toJson]
  obtain ⟨hlength, hlong⟩ := length_lt_object 0 (rs.entries.map fun (key, r) => (key, r.toJson))
  have hempty : (Dictionary.empty : Registrations).entries ++ rs.entries = rs.entries := rfl
  have hobject := takes_object (readsMembers 1 hempty (by simpa using hlong)) hlength []
  rw [List.append_nil] at hobject
  apply whole_eq_ok
  obtain ⟨body, hbody⟩ := indentedObject_cons 0 (rs.entries.map fun (key, r) => (key, r.toJson))
  rw [hbody] at hobject ⊢
  apply (takes_next rfl _ body).bind
  simpa using hobject

theorem parse_toText (rs : Registrations) : RegistrationsFile.parse rs.toText = .ok rs := by
  obtain ⟨body, hbody⟩ := indentedObject_cons 0 (rs.entries.map fun (key, r) => (key, r.toJson))
  have hblank : Text.isBlankText rs.toText.toList = false := by
    rw [toText, Json.indented, String.toList_ofList, toJson, hbody]
    rfl
  rw [RegistrationsFile.parse, hblank]
  exact ofText_toText rs

end Registrations

end ToastRelay
