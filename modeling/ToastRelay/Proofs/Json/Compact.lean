import ToastRelay.Proofs.Json.Members
import ToastRelay.Proofs.Text.Utf8

/-!
# A value in compact form is read back

Texts, lists of such values and objects of such members are written without blanks, with a comma
before every item or member but the first. They are read back from what is written, whatever the
texts are, as long as no more containers stand inside one another than may be opened.
-/

namespace ToastRelay
set_option autoImplicit false

namespace Json

/-- A value of texts, lists and objects that can be read where `depth` containers may be opened, the
text around it counted as one. -/
inductive IsTextual : Nat → Json → Prop where
  | string {depth : Nat} (s : String) : IsTextual (depth + 1) (.string s)
  | array {depth : Nat} {items : List Json} (textual : ∀ v ∈ items, IsTextual (depth + 1) v) :
      IsTextual (depth + 2) (.array items)
  | object {depth : Nat} {members : List (String × Json)} (ascending : Ascending members)
      (textual : ∀ e ∈ members, IsTextual (depth + 1) e.2) : IsTextual (depth + 2) (.object members)

theorem IsTextual.begins {depth : Nat} {v : Json} (h : IsTextual depth v) :
    ∃ c s, v.compactChars = c :: s ∧ Cursor.isBlank c = false ∧ c ≠ ']' := by
  cases h with
  | string s => exact ⟨'"', _, rfl, rfl, by decide⟩
  | array textual => exact ⟨'[', _, rfl, rfl, by decide⟩
  | object ascending textual => exact ⟨'\x7b', _, rfl, rfl, by decide⟩

def separator (first : Bool) : List Char := if first then [] else [',']

def itemsFrom : Bool → List Json → List Char
  | _, [] => []
  | first, v :: vs => separator first ++ (v.compactChars ++ itemsFrom false vs)

def membersFrom : Bool → List (String × Json) → List Char
  | _, [] => []
  | first, (k, v) :: ms =>
    separator first ++ (stringChars k ++ ':' :: (v.compactChars ++ membersFrom false ms))

theorem compactItems_eq (vs : List Json) : compactItems vs = itemsFrom true vs := by
  induction vs with
  | nil => rfl
  | cons v vs ih =>
    cases vs with
    | nil => simp [compactItems, itemsFrom, separator]
    | cons w vs =>
      rw [compactItems, ih]
      · rfl
      · exact List.cons_ne_nil _ _

theorem compactMembers_eq (ms : List (String × Json)) :
    compactMembers ms = membersFrom true ms := by
  induction ms with
  | nil => rfl
  | cons e ms ih =>
    obtain ⟨k, v⟩ := e
    cases ms with
    | nil => simp [compactMembers, membersFrom, separator]
    | cons e ms =>
      rw [compactMembers, ih, List.append_assoc, List.cons_append]
      · rfl
      · exact List.cons_ne_nil _ _

theorem length_le_itemsFrom (first : Bool) (vs : List Json) :
    vs.length ≤ (itemsFrom first vs).length + 1 := by
  have hmore : ∀ vs : List Json, vs.length ≤ (itemsFrom false vs).length := by
    intro vs
    induction vs with
    | nil => exact Nat.zero_le _
    | cons v vs ih =>
      rw [itemsFrom, separator, if_neg Bool.false_ne_true, List.length_append, List.length_append,
        List.length_cons, List.length_singleton]
      omega
  cases vs with
  | nil => exact Nat.zero_le _
  | cons v vs =>
    have := hmore vs
    simp only [itemsFrom, List.length_cons, List.length_append]
    omega

theorem length_le_membersFrom (first : Bool) (ms : List (String × Json)) :
    ms.length ≤ (membersFrom first ms).length := by
  induction ms generalizing first with
  | nil => exact Nat.zero_le _
  | cons e ms ih =>
    have := ih false
    simp only [membersFrom, List.length_cons, List.length_append]
    omega

theorem length_le_of_mem_items (first : Bool) {vs : List Json} {v : Json} (h : v ∈ vs) :
    v.compactChars.length ≤ (itemsFrom first vs).length := by
  induction vs generalizing first with
  | nil => cases h
  | cons w vs ih =>
    simp only [itemsFrom, List.length_append]
    rcases List.mem_cons.mp h with rfl | h
    · omega
    · have := ih false h
      omega

theorem length_le_of_mem_members (first : Bool) {ms : List (String × Json)} {e : String × Json}
    (h : e ∈ ms) : e.2.compactChars.length ≤ (membersFrom first ms).length := by
  induction ms generalizing first with
  | nil => cases h
  | cons e' ms ih =>
    simp only [membersFrom, List.length_append, List.length_cons]
    rcases List.mem_cons.mp h with rfl | h
    · omega
    · have := ih false h
      omega

end Json

namespace Reader

open Json

variable {steps depth : Nat}

theorem takes_hasItem {c : Char} (hblank : Cursor.isBlank c = false) (hc : c ≠ ']') (first : Bool)
    (s : List Char) : (hasItem first).Takes true (separator first ++ c :: s) (c :: s) := by
  have hnext : some c ≠ some ']' := fun h => hc (Option.some.inj h)
  cases first with
  | true =>
    apply (takes_next hblank _ s).bind
    rw [if_neg hnext, if_pos rfl]
    exact takes_pure true _
  | false =>
    apply (takes_next rfl _ (c :: s)).bind
    simp only [Option.some.injEq, Char.reduceEq, if_false, if_true, Bool.false_eq_true]
    apply (takes_step ',' _).bind
    apply (takes_next hblank _ s).bind
    rw [if_neg hnext]
    exact takes_pure true _

theorem takes_hasItem_none (first : Bool) (s : List Char) :
    (hasItem first).Takes false (']' :: s) (']' :: s) :=
  (takes_next rfl _ s).bind (takes_pure false _)

theorem takes_closeList (s : List Char) : closeList.Takes () (']' :: s) s :=
  (takes_next rfl _ s).bind (takes_step ']' s)

def valueItem (steps depth : Nat) (found : List Json) : Reader (List Json) := do
  return (← value steps depth) :: found

theorem takes_items {n : Nat} {vs : List Json}
    (h : ∀ v ∈ vs, ∀ rest, (value n (depth + 1)).Takes v (v.compactChars ++ rest) rest)
    (htextual : ∀ v ∈ vs, v.IsTextual (depth + 1)) (hsteps : vs.length < steps) (first : Bool)
    (found : List Json) (rest : List Char) :
    (items (valueItem n (depth + 1)) steps first found).Takes (vs.reverse ++ found)
      (itemsFrom first vs ++ ']' :: rest) (']' :: rest) := by
  induction vs generalizing steps first found with
  | nil =>
    obtain ⟨steps, rfl⟩ := Nat.exists_eq_add_of_lt hsteps
    exact (takes_hasItem_none first rest).bind (takes_pure found _)
  | cons v vs ih =>
    obtain ⟨steps, rfl⟩ := Nat.exists_eq_succ_of_ne_zero (Nat.ne_zero_of_lt hsteps)
    obtain ⟨hv, hvs⟩ := List.forall_mem_cons.mp h
    obtain ⟨hvtextual, hvstextual⟩ := List.forall_mem_cons.mp htextual
    obtain ⟨c, s, hchars, hblank, hc⟩ := hvtextual.begins
    have hitem : (valueItem n (depth + 1) found).Takes (v :: found)
        (v.compactChars ++ (itemsFrom false vs ++ ']' :: rest))
        (itemsFrom false vs ++ ']' :: rest) :=
      (hv _).bind (takes_pure _ _)
    rw [itemsFrom, List.append_assoc, List.append_assoc, List.reverse_cons, List.append_assoc,
      List.singleton_append]
    rw [hchars] at hitem ⊢
    apply (takes_hasItem hblank hc first _).bind
    rw [if_pos rfl]
    exact hitem.bind (ih hvs hvstextual (Nat.lt_of_succ_lt_succ hsteps) false (v :: found))

theorem isBlank_of_mem_nil {c : Char} (h : c ∈ ([] : List Char)) : Cursor.isBlank c = true :=
  absurd h List.not_mem_nil

theorem takes_memberName (first : Bool) (k : String) (rest : List Char) :
    (memberName first).Takes (some k) (separator first ++ (stringChars k ++ rest)) rest := by
  cases first with
  | true => exact takes_memberName_first (fun _ => isBlank_of_mem_nil) k rest
  | false => exact takes_memberName_next (fun _ => isBlank_of_mem_nil) k rest

theorem takes_valueMembers {n : Nat} {ms : List (String × Json)}
    (h : ∀ e ∈ ms, ∀ rest, (value n (depth + 1)).Takes e.2 (e.2.compactChars ++ rest) rest)
    (found : List (String × Json)) (hascending : Ascending (found ++ ms))
    (hsteps : ms.length < steps) (first : Bool) (rest : List Char) :
    (members (valueMember n (depth + 1)) steps first found).Takes (found ++ ms)
      (membersFrom first ms ++ '\x7d' :: rest) ('\x7d' :: rest) := by
  induction ms generalizing steps first found with
  | nil =>
    obtain ⟨steps, rfl⟩ := Nat.exists_eq_add_of_lt hsteps
    rw [List.append_nil]
    exact (takes_memberName_none first (fun _ => isBlank_of_mem_nil) rest).bind (takes_pure found _)
  | cons e ms ih =>
    obtain ⟨steps, rfl⟩ := Nat.exists_eq_succ_of_ne_zero (Nat.ne_zero_of_lt hsteps)
    obtain ⟨k, v⟩ := e
    obtain ⟨hv, hms⟩ := List.forall_mem_cons.mp h
    have hlast : ∀ e ∈ found, e.1 < k := fun e he =>
      (List.pairwise_append.mp hascending).2.2 e he (k, v) List.mem_cons_self
    have hinsert : insertEntry k v found ++ ms = found ++ (k, v) :: ms := by
      rw [insertEntry_of_forall_lt hlast, List.append_assoc, List.singleton_append]
    have hmore := ih hms (insertEntry k v found) (hinsert ▸ hascending)
      (Nat.lt_of_succ_lt_succ hsteps) false
    rw [hinsert] at hmore
    rw [membersFrom, List.append_assoc, List.append_assoc, List.cons_append, List.append_assoc]
    have hmember : (valueMember n (depth + 1) k found).Takes (insertEntry k v found)
        (':' :: (v.compactChars ++ (membersFrom false ms ++ '\x7d' :: rest)))
        (membersFrom false ms ++ '\x7d' :: rest) :=
      (takes_colon _).bind ((hv _).bind (takes_pure _ _))
    exact (takes_memberName first k _).bind (hmember.bind hmore)

/-- A value is read back from its compact form, whatever follows it. -/
theorem takes_value_compact {v : Json} (h : v.IsTextual depth) {steps : Nat}
    (hsteps : v.compactChars.length ≤ steps) (rest : List Char) :
    (value steps depth).Takes v (v.compactChars ++ rest) rest := by
  induction h generalizing rest with
  | string s => exact takes_value_string (fun _ => isBlank_of_mem_nil) s rest
  | @array depth vs htextual ih =>
    have hchars : ∀ rest, (Json.array vs).compactChars ++ rest =
        '[' :: (itemsFrom true vs ++ ']' :: rest) := by
      simp [compactChars, compactItems_eq]
    have hlength : (Json.array vs).compactChars.length = (itemsFrom true vs).length + 2 := by
      simp [compactChars, compactItems_eq]
    have hcount := length_le_itemsFrom true vs
    have hread : ∀ v ∈ vs, ∀ rest,
        (value steps (depth + 1)).Takes v (v.compactChars ++ rest) rest := fun v hv =>
      ih v hv (by have := length_le_of_mem_items true hv; omega)
    have hitems := takes_items hread htextual (show vs.length < steps by omega) true [] rest
    rw [List.append_nil] at hitems
    have hlist : (list steps (valueItem steps (depth + 1)) []).Takes vs.reverse
        ('[' :: (itemsFrom true vs ++ ']' :: rest)) rest :=
      (takes_step '[' _).bind (takes_enclosed hitems (takes_closeList rest))
    rw [hchars]
    apply (takes_next rfl _ _).bind
    refine hlist.bind ?_
    rw [List.reverse_reverse]
    exact takes_pure _ rest
  | @object depth ms hascending htextual ih =>
    have hchars : ∀ rest, (Json.object ms).compactChars ++ rest =
        '\x7b' :: (membersFrom true ms ++ '\x7d' :: rest) := by
      simp [compactChars, compactMembers_eq]
    have hlength : (Json.object ms).compactChars.length = (membersFrom true ms).length + 2 := by
      simp [compactChars, compactMembers_eq]
    have hcount := length_le_membersFrom true ms
    have hread : ∀ e ∈ ms, ∀ rest,
        (value steps (depth + 1)).Takes e.2 (e.2.compactChars ++ rest) rest := fun e he =>
      ih e he (by have := length_le_of_mem_members true he; omega)
    have hmembers := takes_valueMembers hread [] hascending (show ms.length < steps by omega) true
      rest
    have hclose : closeObject.Takes () ('\x7d' :: rest) rest :=
      takes_closeObject (s := []) (fun _ => isBlank_of_mem_nil) rest
    have hobject : (object steps (valueMember steps (depth + 1)) []).Takes ms
        ('\x7b' :: (membersFrom true ms ++ '\x7d' :: rest)) rest :=
      (takes_step '\x7b' _).bind (takes_enclosed hmembers hclose)
    rw [hchars]
    apply (takes_next rfl _ _).bind
    exact hobject.bind (takes_pure _ rest)

end Reader

theorem Json.ofBytes_compact {v : Json} (h : v.IsTextual Reader.depthLimit) :
    Json.ofBytes (Text.encode v.compact) = .ok v := by
  rw [Json.ofBytes, Text.pieces_encode, Json.compact, String.toList_ofList]
  have htakes := Reader.takes_value_compact h (Nat.le_refl v.compactChars.length) []
  rw [List.append_nil] at htakes
  exact Reader.whole_eq_ok htakes

end ToastRelay
