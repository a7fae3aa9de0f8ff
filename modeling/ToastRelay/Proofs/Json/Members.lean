import ToastRelay.Proofs.Json.Numbers
import ToastRelay.Proofs.Json.Strings

/-!
# A written object is read back

The indented form of an object puts every member behind a line end and a comma before every member
but the first. If a reader of members takes each of them in turn, the reader of the object takes the
whole.
-/

namespace ToastRelay
set_option autoImplicit false

namespace Reader

variable {σ : Type} {member : String → σ → Reader σ} {depth : Nat} {s t : σ} {k : String} {v : Json}
  {ms : List (String × Json)}

theorem isBlank_of_mem_newLine {c : Char} (h : c ∈ Json.newLine depth) :
    Cursor.isBlank c = true := by
  rcases List.mem_cons.mp h with rfl | h
  · rfl
  · rw [List.eq_of_mem_replicate h]
    rfl

theorem takes_stringChars (f : Fault) {blanks : List Char}
    (hblanks : ∀ c ∈ blanks, Cursor.isBlank c = true) (k : String) (rest : List Char) :
    (nextBehindBlanks f).Takes (some '"') (blanks ++ Json.stringChars k ++ rest)
      ('"' :: (k.toList.flatMap Json.escapedChar ++ '"' :: rest)) := by
  have hchars : blanks ++ Json.stringChars k ++ rest =
      blanks ++ '"' :: (k.toList.flatMap Json.escapedChar ++ '"' :: rest) := by
    simp [Json.stringChars]
  rw [hchars]
  exact takes_nextBehindBlanks hblanks rfl f _

theorem takes_value_string {steps depth : Nat} {blanks : List Char}
    (hblanks : ∀ c ∈ blanks, Cursor.isBlank c = true) (s : String) (rest : List Char) :
    (value steps (depth + 1)).Takes (.string s) (blanks ++ Json.stringChars s ++ rest) rest := by
  refine (takes_stringChars _ hblanks s rest).bind ?_
  exact (takes_step '"' _).bind ((takes_stringBody s rest).map Json.string)

def valueMember (steps depth : Nat) (name : String) (found : List (String × Json)) :
    Reader (List (String × Json)) := do
  colon
  return insertEntry name (← value steps depth) found

theorem takes_memberName_first {blanks : List Char}
    (hblanks : ∀ c ∈ blanks, Cursor.isBlank c = true) (k : String) (rest : List Char) :
    (memberName true).Takes (some k) (blanks ++ Json.stringChars k ++ rest) rest := by
  apply (takes_stringChars _ hblanks k rest).bind
  simp only [Option.some.injEq, Char.reduceEq, if_false, if_true, pure_bind]
  apply (takes_step '"' _).bind
  exact (takes_stringBody k rest).map some

theorem takes_memberName_next {blanks : List Char}
    (hblanks : ∀ c ∈ blanks, Cursor.isBlank c = true) (k : String) (rest : List Char) :
    (memberName false).Takes (some k) (',' :: (blanks ++ Json.stringChars k ++ rest)) rest := by
  apply (takes_next rfl _ _).bind
  simp only [Option.some.injEq, Char.reduceEq, if_false, if_true, Bool.false_eq_true]
  apply (takes_step ',' _).bind
  apply (takes_stringChars _ hblanks k rest).bind
  simp only [if_true]
  apply (takes_step '"' _).bind
  exact (takes_stringBody k rest).map some

theorem takes_memberName_none (first : Bool) {blanks : List Char}
    (hblanks : ∀ c ∈ blanks, Cursor.isBlank c = true) (rest : List Char) :
    (memberName first).Takes none (blanks ++ '\x7d' :: rest) ('\x7d' :: rest) :=
  (takes_nextBehindBlanks hblanks rfl _ rest).bind (takes_pure none _)

def EndsMember (rest : List Char) : Prop := ∃ c more, rest = c :: more ∧ (c = ',' ∨ c = '\n')

theorem EndsMember.endsNumber {rest : List Char} (h : EndsMember rest) : EndsNumber rest := by
  obtain ⟨c, more, rfl, hc⟩ := h
  intro d hd
  obtain rfl : c = d := by simpa using hd
  rcases hc with rfl | rfl <;> decide

/-- A reader of members takes these, one after another, from one state to another. -/
inductive ReadsMembers (member : String → σ → Reader σ) (depth : Nat) :
    σ → List (String × Json) → σ → Prop where
  | nil (s : σ) : ReadsMembers member depth s [] s
  | cons {s t u : σ} {k : String} {v : Json} {ms : List (String × Json)}
      (first : ∀ rest, EndsMember rest →
        (member k s).Takes t (':' :: ' ' :: (v.indentedChars depth ++ rest)) rest)
      (more : ReadsMembers member depth t ms u) : ReadsMembers member depth s ((k, v) :: ms) u

theorem ReadsMembers.append {u : σ} {ms' : List (String × Json)}
    (h : ReadsMembers member depth s ms t) (h' : ReadsMembers member depth t ms' u) :
    ReadsMembers member depth s (ms ++ ms') u := by
  induction h with
  | nil s => exact h'
  | cons first _ ih => exact .cons first (ih h')

def moreMembers (depth : Nat) : List (String × Json) → List Char
  | [] => []
  | m :: ms => ',' :: Json.indentedMembers depth (m :: ms)

theorem indentedMembers_cons (depth : Nat) (k : String) (v : Json) (ms : List (String × Json)) :
    Json.indentedMembers depth ((k, v) :: ms) = Json.newLine depth ++ Json.stringChars k ++
      ':' :: ' ' :: (v.indentedChars depth ++ moreMembers depth ms) := by
  cases ms <;> simp [Json.indentedMembers, moreMembers]

theorem length_le_moreMembers (depth : Nat) (ms : List (String × Json)) :
    ms.length ≤ (moreMembers depth ms).length := by
  induction ms with
  | nil => simp [moreMembers]
  | cons m ms ih =>
    rw [moreMembers, indentedMembers_cons]
    simp only [List.length_cons, List.length_append]
    omega

theorem length_lt_object (depth : Nat) (ms : List (String × Json)) :
    ms.length < ((Json.object ms).indentedChars depth).length ∧
      (ms ≠ [] → 4 < ((Json.object ms).indentedChars depth).length) := by
  cases ms with
  | nil => simp [Json.indentedChars]
  | cons m ms =>
    have hmore := length_le_moreMembers (depth + 1) ms
    rw [Json.indentedChars, indentedMembers_cons]
    simp only [List.length_cons, List.length_append, Json.newLine, Json.stringChars,
      List.length_replicate]
    omega

theorem endsMember_moreMembers (depth d : Nat) (ms : List (String × Json)) (rest : List Char) :
    EndsMember (moreMembers depth ms ++ Json.newLine d ++ rest) := by
  cases ms with
  | nil => exact ⟨'\n', _, rfl, Or.inr rfl⟩
  | cons => exact ⟨',', _, rfl, Or.inl rfl⟩

theorem takes_members_next (h : ReadsMembers member depth s ms t) {steps : Nat}
    (hsteps : ms.length < steps) (d : Nat) (rest : List Char) :
    (members member steps false s).Takes t
      (moreMembers depth ms ++ Json.newLine d ++ '\x7d' :: rest) ('\x7d' :: rest) := by
  induction h generalizing steps with
  | nil s =>
    obtain ⟨steps, rfl⟩ := Nat.exists_eq_add_of_lt hsteps
    exact (takes_memberName_none false (fun _ => isBlank_of_mem_newLine) rest).bind (takes_pure s _)
  | @cons s t u k v ms first _ ih =>
    obtain ⟨steps, rfl⟩ := Nat.exists_eq_succ_of_ne_zero (Nat.ne_zero_of_lt hsteps)
    have hchars : moreMembers depth ((k, v) :: ms) ++ Json.newLine d ++ '\x7d' :: rest =
        ',' :: (Json.newLine depth ++ Json.stringChars k ++ ':' :: ' ' :: (v.indentedChars depth ++
          (moreMembers depth ms ++ Json.newLine d ++ '\x7d' :: rest))) := by
      simp [moreMembers, indentedMembers_cons]
    rw [hchars]
    apply (takes_memberName_next (fun _ => isBlank_of_mem_newLine) k _).bind
    exact (first _ (endsMember_moreMembers depth d ms _)).bind (ih (Nat.lt_of_succ_lt_succ hsteps))

theorem indentedObject_cons (depth : Nat) (ms : List (String × Json)) :
    ∃ body, (Json.object ms).indentedChars depth = '\x7b' :: body := by
  cases ms <;> exact ⟨_, rfl⟩

theorem takes_members (h : ReadsMembers member (depth + 1) s ms t) {steps : Nat}
    (hsteps : ms.length < steps) (rest : List Char) :
    ∃ body, (Json.object ms).indentedChars depth ++ rest = '\x7b' :: body ∧
      (members member steps true s).Takes t body ('\x7d' :: rest) := by
  obtain ⟨steps, rfl⟩ := Nat.exists_eq_succ_of_ne_zero (Nat.ne_zero_of_lt hsteps)
  cases h with
  | nil s =>
    refine ⟨'\x7d' :: rest, by simp [Json.indentedChars], ?_⟩
    have hblanks : ∀ c ∈ ([] : List Char), Cursor.isBlank c = true := by simp
    exact (takes_memberName_none true hblanks rest).bind (takes_pure s _)
  | @cons s u t k v ms first more =>
    refine ⟨Json.newLine (depth + 1) ++ Json.stringChars k ++
      ':' :: ' ' :: (v.indentedChars (depth + 1) ++
        (moreMembers (depth + 1) ms ++ Json.newLine depth ++ '\x7d' :: rest)), ?_, ?_⟩
    · simp [Json.indentedChars, indentedMembers_cons]
    · apply (takes_memberName_first (fun _ => isBlank_of_mem_newLine) k _).bind
      apply (first _ (endsMember_moreMembers (depth + 1) depth ms ('\x7d' :: rest))).bind
      exact takes_members_next more (Nat.lt_of_succ_lt_succ hsteps) depth rest

/-- The reader of an object takes its indented form. -/
theorem takes_object (h : ReadsMembers member (depth + 1) s ms t) {steps : Nat}
    (hsteps : ms.length < steps) (rest : List Char) :
    (object steps member s).Takes t ((Json.object ms).indentedChars depth ++ rest) rest := by
  obtain ⟨body, hbody, hmembers⟩ := takes_members h hsteps rest
  rw [hbody]
  refine (takes_step '\x7b' _).bind (takes_enclosed hmembers ?_)
  exact takes_closeObject (s := []) (by simp) rest

end Reader

end ToastRelay
