import ToastRelay.Proofs.Dictionary
import ToastRelay.Proofs.Json.SplitRecords
import ToastRelay.Registration

/-!
# What a registrations file says

A registration is written as an object in which its fields are given once at most and members with
other names are of no interest, or as a list of its fields. A registrations file is one object, each
member of which is such a registration under its key. What is read as registrations is written so.
-/

namespace ToastRelay
set_option autoImplicit false

open Json Reader

namespace Registration

section Fields
variable {α : Type} {name : String} {P : α → List Char → Prop} {ms : List (String × List Char)}

/-- The field of that name is given by one member, or by none. -/
def FieldOf (name : String) (P : α → List Char → Prop) (ms : List (String × List Char)) :
    Option α → Prop
  | none => ms.filter (·.1 = name) = []
  | some a => ∃ v, ms.filter (·.1 = name) = [(name, v)] ∧ P a v

theorem FieldOf.concat {o : Option α} {m : String × List Char} (h : FieldOf name P ms o)
    (hm : m.1 ≠ name) : FieldOf name P (ms ++ [m]) o := by
  have hfilter : (ms ++ [m]).filter (·.1 = name) = ms.filter (·.1 = name) := by
    simp [List.filter_append, hm]
  cases o with
  | none => exact hfilter.trans h
  | some a =>
    obtain ⟨v, hv, ha⟩ := h
    exact ⟨v, hfilter.trans hv, ha⟩

theorem fieldOf_concat {a : α} {v : List Char} (h : ms.filter (·.1 = name) = []) (ha : P a v) :
    FieldOf name P (ms ++ [(name, v)]) (some a) :=
  ⟨v, by simp [List.filter_append, h], ha⟩

theorem FieldOf.isValue {o : Option α} (h : FieldOf name P ms o)
    (hP : ∀ a v, P a v → IsValue v) {v : List Char} (hv : (name, v) ∈ ms) : IsValue v := by
  have hmem : (name, v) ∈ ms.filter (·.1 = name) := List.mem_filter.mpr ⟨hv, by simp⟩
  cases o with
  | none =>
    rw [show ms.filter (·.1 = name) = [] from h] at hmem
    exact absurd hmem List.not_mem_nil
  | some a =>
    obtain ⟨w, hw, ha⟩ := h
    rw [hw, List.mem_singleton] at hmem
    obtain ⟨-, rfl⟩ := Prod.mk.inj hmem
    exact hP a v ha

end Fields

def fieldNames : List String := ["id", "channel", "expiry", "name"]

variable {r : Registration} {d d' : Draft} {name : String} {v : List Char}
  {ms : List (String × List Char)}

/-- What the text of a field enters into a draft. -/
inductive Enters (d : Draft) (name : String) (v : List Char) : Draft → Prop where
  | id {s : String} (hname : name = "id") (h : IsString s v) :
      Enters d name v { d with id := some s }
  | channel {s : String} (hname : name = "channel") (h : IsString s v) :
      Enters d name v { d with channel := some s }
  | expiry {n : Option UInt64} (hname : name = "expiry") (h : IsOptional IsNatural n v) :
      Enters d name v { d with expiry := some n }
  | name {s : Option String} (hname : name = "name") (h : IsOptional IsString s v) :
      Enters d name v { d with name := some s }

theorem Enters.inversion (h : Enters d name v d') :
    (name = "id" → ∃ s, IsString s v ∧ d' = { d with id := some s }) ∧
    (name = "channel" → ∃ s, IsString s v ∧ d' = { d with channel := some s }) ∧
    (name = "expiry" → ∃ n, IsOptional IsNatural n v ∧ d' = { d with expiry := some n }) ∧
    (name = "name" → ∃ s, IsOptional IsString s v ∧ d' = { d with name := some s }) := by
  cases h with
  | id hname hv =>
    subst hname
    exact ⟨fun _ => ⟨_, hv, rfl⟩, by simp, by simp, by simp⟩
  | channel hname hv =>
    subst hname
    exact ⟨by simp, fun _ => ⟨_, hv, rfl⟩, by simp, by simp⟩
  | expiry hname hv =>
    subst hname
    exact ⟨by simp, by simp, fun _ => ⟨_, hv, rfl⟩, by simp⟩
  | name hname hv =>
    subst hname
    exact ⟨by simp, by simp, by simp, fun _ => ⟨_, hv, rfl⟩⟩

theorem Enters.behind {s : List Char} (h : Enters d name v d') (hs : Blanks s) :
    Enters d name (s ++ v) d' := by
  cases h with
  | id hname h => exact .id hname (h.behind hs)
  | channel hname h => exact .channel hname (h.behind hs)
  | expiry hname h => exact .expiry hname (h.behind hs fun _ h => h.behind hs)
  | name hname h => exact .name hname (h.behind hs fun _ h => h.behind hs)

/-- The draft that members give, where each field is given once at most. -/
structure Gathered (ms : List (String × List Char)) (d : Draft) : Prop where
  id : FieldOf "id" IsString ms d.id
  channel : FieldOf "channel" IsString ms d.channel
  expiry : FieldOf "expiry" (IsOptional IsNatural) ms d.expiry
  name : FieldOf "name" (IsOptional IsString) ms d.name
  others : ∀ m ∈ ms, m.1 ∉ fieldNames → IsValue m.2

theorem Gathered.skip (h : Gathered ms d) (hname : name ∉ fieldNames) (hv : IsValue v) :
    Gathered (ms ++ [(name, v)]) d := by
  have hne : ∀ field ∈ fieldNames, name ≠ field := fun field hfield heq => hname (heq ▸ hfield)
  exact {
    id := h.id.concat (hne _ (by decide))
    channel := h.channel.concat (hne _ (by decide))
    expiry := h.expiry.concat (hne _ (by decide))
    name := h.name.concat (hne _ (by decide))
    others := List.forall_mem_append.mpr ⟨h.others, by simpa using fun _ => hv⟩ }

theorem Gathered.enter (h : Gathered ms d) (hnew : ms.filter (·.1 = name) = [])
    (hd : Enters d name v d') : Gathered (ms ++ [(name, v)]) d' := by
  have hothers : name ∈ fieldNames →
      ∀ m ∈ ms ++ [(name, v)], m.1 ∉ fieldNames → IsValue m.2 := by
    intro hname
    refine List.forall_mem_append.mpr ⟨h.others, fun m hm hnot => absurd ?_ hnot⟩
    rwa [List.mem_singleton.mp hm]
  obtain ⟨hid, hchannel, hexpiry, hname', -⟩ := h
  cases hd with
  | id hname hv =>
    subst hname
    exact ⟨fieldOf_concat hnew hv, hchannel.concat (by simp), hexpiry.concat (by simp),
      hname'.concat (by simp), hothers (by decide)⟩
  | channel hname hv =>
    subst hname
    exact ⟨hid.concat (by simp), fieldOf_concat hnew hv, hexpiry.concat (by simp),
      hname'.concat (by simp), hothers (by decide)⟩
  | expiry hname hv =>
    subst hname
    exact ⟨hid.concat (by simp), hchannel.concat (by simp), fieldOf_concat hnew hv,
      hname'.concat (by simp), hothers (by decide)⟩
  | name hname hv =>
    subst hname
    exact ⟨hid.concat (by simp), hchannel.concat (by simp), hexpiry.concat (by simp),
      fieldOf_concat hnew hv, hothers (by decide)⟩

theorem mem_fields_cases {field : Field Draft} (h : field ∈ record.fields) :
    (∀ d s, (field.read d).Splits s fun d' v _ => Enters d field.name v d') ∧
    ∀ {ms d}, Gathered ms d → field.given d = false → ms.filter (·.1 = field.name) = [] := by
  have hnone : ∀ {α : Type} {P : α → List Char → Prop} {name : String}
      {ms : List (String × List Char)} {o : Option α}, FieldOf name P ms o → o.isSome = false →
      ms.filter (·.1 = name) = [] := by
    intro α P name ms o h ho
    cases o with
    | none => exact h
    | some a => cases ho
  simp only [record, List.mem_cons, List.not_mem_nil, or_false] at h
  rcases h with rfl | rfl | rfl | rfl
  · refine ⟨fun d s => ?_, fun h hgiven => hnone h.id hgiven⟩
    exact splits_string.bind fun a t u _ ha => splits_pure (by simpa using Enters.id rfl ha)
  · refine ⟨fun d s => ?_, fun h hgiven => hnone h.channel hgiven⟩
    exact splits_string.bind fun a t u _ ha => splits_pure (by simpa using Enters.channel rfl ha)
  · refine ⟨fun d s => ?_, fun h hgiven => hnone h.expiry hgiven⟩
    refine (splits_optional (fun _ => splits_natural) fun _ _ _ ht h => h.behind ht).bind ?_
    exact fun a t u _ ha => splits_pure (by simpa using Enters.expiry rfl ha)
  · refine ⟨fun d s => ?_, fun h hgiven => hnone h.name hgiven⟩
    refine (splits_optional (fun _ => splits_string) fun _ _ _ ht h => h.behind ht).bind ?_
    exact fun a t u _ ha => splits_pure (by simpa using Enters.name rfl ha)

theorem means : record.Means (fun field d v d' => Enters d field.name v d') Gathered where
  read field hfield := (mem_fields_cases hfield).1
  blanks hs h := h.behind hs
  none := ⟨rfl, rfl, rfl, rfl, by simp⟩
  skip h hname hv := by
    refine h.skip (fun hmem => ?_) hv
    obtain ⟨field, hfield, hfield'⟩ := List.mem_map.mp (show _ ∈ record.fields.map (·.name) from hmem)
    exact hname field hfield hfield'
  give h hfield hgiven hv := h.enter ((mem_fields_cases hfield).2 h hgiven) hv

theorem make_eq_ok_iff : record.make d = .ok r ↔ d.id = some r.id ∧ d.channel = some r.channel ∧
    r.expiry = d.expiry.getD none ∧ r.name = d.name.getD none := by
  obtain ⟨id, channel, expiry, name⟩ := d
  obtain ⟨id', channel', expiry', name'⟩ := r
  cases id <;> cases channel <;> simp [record, @eq_comm _ (Option.getD _ _)]

/-! ## What is said of a registration -/

/-- The members of an object say a registration: its identifier and its channel are given once, its
other fields once or not at all, and every other member has some value. -/
structure SaidBy (r : Registration) (ms : List (String × List Char)) : Prop where
  id : FieldOf "id" IsString ms (some r.id)
  channel : FieldOf "channel" IsString ms (some r.channel)
  expiry : ∃ expiry, FieldOf "expiry" (IsOptional IsNatural) ms expiry ∧ r.expiry = expiry.getD none
  name : ∃ name, FieldOf "name" (IsOptional IsString) ms name ∧ r.name = name.getD none
  others : ∀ m ∈ ms, m.1 ∉ fieldNames → IsValue m.2

/-- The items of a list say a registration: they are its fields, of which those that may be absent
may be left off the end. -/
inductive ListedBy (r : Registration) : List (List Char) → Prop where
  | two {id channel : List Char} (hid : IsString r.id id) (hchannel : IsString r.channel channel)
      (hexpiry : r.expiry = none) (hname : r.name = none) : ListedBy r [id, channel]
  | three {id channel expiry : List Char} (hid : IsString r.id id)
      (hchannel : IsString r.channel channel) (hexpiry : IsOptional IsNatural r.expiry expiry)
      (hname : r.name = none) : ListedBy r [id, channel, expiry]
  | four {id channel expiry name : List Char} (hid : IsString r.id id)
      (hchannel : IsString r.channel channel) (hexpiry : IsOptional IsNatural r.expiry expiry)
      (hname : IsOptional IsString r.name name) : ListedBy r [id, channel, expiry, name]

inductive Written (r : Registration) : List Char → Prop where
  | object {before inside : List Char} {ms : List (String × List Char)} (hbefore : Blanks before)
      (hms : Separated (IsMember Spelled) true ms inside) (h : r.SaidBy ms) :
      Written r (before ++ '\x7b' :: (inside ++ ['\x7d']))
  | list {before inside : List Char} {items : List (List Char)} (hbefore : Blanks before)
      (hitems : Separated Eq true items inside) (h : r.ListedBy items) :
      Written r (before ++ '[' :: (inside ++ [']']))

theorem Gathered.saidBy (h : Gathered ms d) (hr : record.make d = .ok r) : r.SaidBy ms := by
  obtain ⟨hid, hchannel, hexpiry, hname⟩ := make_eq_ok_iff.mp hr
  exact ⟨hid ▸ h.id, hchannel ▸ h.channel, ⟨_, h.expiry, hexpiry⟩, ⟨_, h.name, hname⟩, h.others⟩

theorem listedBy_of_listed {items : List (List Char)} (h : Record.Listed
    (fun field d v d' => Enters d field.name v d') record.fields items record.blank d)
    (hr : record.make d = .ok r) : r.ListedBy items := by
  obtain ⟨hid, hchannel, hexpiry, hname⟩ := make_eq_ok_iff.mp hr
  -- The first two fields are there.
  cases h with
  | missing hmissing => cases hmissing
  | item henters more =>
  obtain ⟨id, hid', rfl⟩ := henters.inversion.1 rfl
  cases more with
  | missing hmissing => cases hmissing
  | item henters more =>
  obtain ⟨channel, hchannel', rfl⟩ := henters.inversion.2.1 rfl
  cases more with
  | missing _ more =>
    cases more with
    | missing _ more =>
      cases more
      obtain rfl := Option.some.inj hid
      obtain rfl := Option.some.inj hchannel
      exact .two hid' hchannel' hexpiry hname
  | item henters more =>
    obtain ⟨expiry, hexpiry', rfl⟩ := henters.inversion.2.2.1 rfl
    cases more with
    | missing _ more =>
      cases more
      obtain rfl := Option.some.inj hid
      obtain rfl := Option.some.inj hchannel
      obtain rfl : r.expiry = expiry := hexpiry
      exact .three hid' hchannel' hexpiry' hname
    | item henters more =>
      obtain ⟨name, hname', rfl⟩ := henters.inversion.2.2.2 rfl
      cases more
      obtain rfl := Option.some.inj hid
      obtain rfl := Option.some.inj hchannel
      obtain rfl : r.expiry = expiry := hexpiry
      obtain rfl : r.name = name := hname
      exact .four hid' hchannel' hexpiry' hname'

theorem splits_read {steps : Nat} {s : List Char} (hsteps : s.length ≤ steps) :
    (record.read steps).Splits s fun r t _ => r.Written t := by
  refine (means.splits_read hsteps).mono ?_
  rintro r t - - h
  cases h with
  | object hbefore hms hd hr => exact .object hbefore hms (hd.saidBy hr)
  | list hbefore hitems hd hr => exact .list hbefore hitems (listedBy_of_listed hd hr)

theorem SaidBy.isValue (h : r.SaidBy ms) : ∀ m ∈ ms, IsValue m.2 := by
  rintro ⟨name, v⟩ hm
  by_cases hname : name ∈ fieldNames
  · obtain ⟨expiry, hexpiry, -⟩ := h.expiry
    obtain ⟨name', hname', -⟩ := h.name
    simp only [fieldNames, List.mem_cons, List.not_mem_nil, or_false] at hname
    rcases hname with rfl | rfl | rfl | rfl
    · exact h.id.isValue (fun _ _ h => h.isValue) hm
    · exact h.channel.isValue (fun _ _ h => h.isValue) hm
    · exact hexpiry.isValue (fun _ _ h => h.isValue fun _ h => h.isValue) hm
    · exact hname'.isValue (fun _ _ h => h.isValue fun _ h => h.isValue) hm
  · exact h.others _ hm hname

theorem ListedBy.isValue {items : List (List Char)} (h : r.ListedBy items) :
    ∀ item ∈ items, IsValue item := by
  have hnumber : ∀ {v}, IsOptional IsNatural r.expiry v → IsValue v := fun h =>
    h.isValue fun _ h => h.isValue
  have hstring : ∀ {v}, IsOptional IsString r.name v → IsValue v := fun h =>
    h.isValue fun _ h => h.isValue
  cases h with
  | two hid hchannel => simpa using ⟨hid.isValue, hchannel.isValue⟩
  | three hid hchannel hexpiry => simpa using ⟨hid.isValue, hchannel.isValue, hnumber hexpiry⟩
  | four hid hchannel hexpiry hname =>
    simpa using ⟨hid.isValue, hchannel.isValue, hnumber hexpiry, hstring hname⟩

theorem Written.isValue (h : r.Written v) : IsValue v := by
  cases h with
  | object hbefore hms h =>
    obtain ⟨members, hmembers, hvalues⟩ := separated_isName hms h.isValue
    exact .blanks hbefore (.object hvalues hmembers)
  | list hbefore hitems h => exact .blanks hbefore (.list h.isValue hitems)

end Registration

namespace Registrations

/-- The members of an object with the entries that they say. -/
def Entered (ms : List (String × List Char)) (entries : List (String × Registration)) : Prop :=
  List.Forall₂ (fun m e => m.1 = e.1 ∧ e.2.Written m.2) ms entries

/-- The text of a registrations file that has entries, in their order. -/
def WrittenAs (entries : List (String × Registration)) (s : List Char) : Prop :=
  ∃ ms, IsObjectOf Spelled ms s ∧ Entered ms entries

variable {ms : List (String × List Char)} {entries : List (String × Registration)} {s : List Char}

theorem Entered.concat {m : String × List Char} {r : Registration} (h : Entered ms entries)
    (hr : r.Written m.2) : Entered (ms ++ [m]) (entries ++ [(m.1, r)]) := by
  induction h with
  | nil => exact .cons ⟨rfl, hr⟩ .nil
  | cons h _ ih => exact .cons h ih

theorem Entered.isValue (h : Entered ms entries) : ∀ m ∈ ms, IsValue m.2 := by
  induction h with
  | nil => exact fun _ h => absurd h List.not_mem_nil
  | cons h _ ih => exact List.forall_mem_cons.mpr ⟨h.2.isValue, ih⟩

theorem WrittenAs.isObjectText (h : WrittenAs entries s) : IsObjectText s := by
  obtain ⟨ms, hms, hentries⟩ := h
  exact hms.exists_isName hentries.isValue

def Collected (ms : List (String × List Char)) (rs : Registrations) : Prop :=
  ∃ entries, Entered ms entries ∧ rs = Dictionary.ofList entries

theorem splits_member {steps : Nat} (hsteps : s.length ≤ steps) {rs : Registrations}
    (h : Collected ms rs) (key : String) : (do
      colon
      return rs.insert key (← Registration.record.read steps) : Reader Registrations).Splits s
        fun rs' t _ => ∃ v, BehindName v t ∧ Collected (ms ++ [(key, v)]) rs' := by
  obtain ⟨entries, hentries, rfl⟩ := h
  refine splits_colon.bind ?_
  rintro - t u hs ⟨between, hbetween, rfl⟩
  have hlength : u.length ≤ steps := Nat.le_trans (length_le_of_append hs) hsteps
  refine (Registration.splits_read hlength).bind fun r v _ _ hr => splits_pure ⟨v, ?_, ?_⟩
  · exact ⟨between, hbetween, by simp⟩
  · exact ⟨entries ++ [(key, r)], hentries.concat hr, (Dictionary.ofList_concat entries (key, r)).symm⟩

theorem splits_reader {steps : Nat} (hsteps : s.length ≤ steps) :
    (reader steps).Splits s fun rs t _ => ∃ before ms inside, Blanks before ∧
      Separated (IsMember Spelled) true ms inside ∧ Collected ms rs ∧
      t = before ++ '\x7b' :: (inside ++ ['\x7d']) := by
  refine (splits_nextBehindBlanks _).bind ?_
  rintro next before u hs ⟨hbefore, c, v, rfl, rfl⟩
  refine splits_ite (fun hc => ?_) fun _ => (gives_wrongKind _).splits
  obtain rfl := Option.some.inj hc
  have hlength : v.length < steps := Nat.lt_of_lt_of_le (length_lt_of_append hs) hsteps
  have hempty : Collected [] Dictionary.empty := ⟨[], .nil, rfl⟩
  have hmembers := splits_members (I := Collected) (fun ms rs key u hu h => splits_member hu h key)
    true hempty hlength (Nat.le_of_lt hlength)
  refine splits_step_bind (splits_enclosed hmembers ?_)
  rintro rs t u - ⟨ms, hms, hrs⟩
  refine splits_closeObject.mono ?_
  rintro - t' - - ⟨blanks, hblanks, rfl⟩
  exact ⟨before, ms, t ++ blanks, hbefore, hms.append_blanks hblanks, hrs, by simp⟩

/-- What is read as registrations is written as entries of which the last one of each key counts. -/
theorem writtenAs_of_ofText {text : String} {rs : Registrations} (h : ofText text = .ok rs) :
    ∃ entries, WrittenAs entries text.toList ∧ rs = Dictionary.ofList entries := by
  obtain ⟨c, after, hread, hafter, hrest⟩ := exists_of_whole h
  obtain ⟨t, u, htext, ⟨before, ms, inside, hbefore, hms, ⟨entries, hentries, hrs⟩, rfl⟩, q, rfl⟩ :=
    splits_reader (by simp) _ rs c hread
  obtain rfl : u = after := (List.map_inj_right fun _ _ h => Text.Piece.char.inj h).mp hrest
  have hobject : IsObjectOf Spelled ms text.toList :=
    ⟨before, inside, u, hbefore, hms, hafter, by rw [htext]; simp⟩
  exact ⟨entries, ⟨ms, hobject, hentries⟩, hrs⟩

end Registrations

end ToastRelay
