import ToastRelay.Proofs.Json.Ascending
import ToastRelay.Proofs.Json.Grammar

/-!
# What a reader accepts

A reader that gives a value has taken a part of the text off and left the rest. What is said here is
what that part must have been, so that a text that is no JSON is nowhere accepted. It says nothing of
whether a reader gives a value.
-/

namespace ToastRelay
set_option autoImplicit false

open Json

namespace Reader

variable {α β : Type} {r : Reader α} {a : α} {s : List Char}
  {P Q : α → List Char → List Char → Prop} {R : β → List Char → List Char → Prop}

theorem length_le_of_append {s t u : List Char} (h : s = t ++ u) : u.length ≤ s.length := by
  rw [h, List.length_append]
  exact Nat.le_add_left _ _

theorem length_lt_of_append {s t u : List Char} {c : Char} (h : s = t ++ c :: u) :
    u.length < s.length := by
  have hle := length_le_of_append h
  rw [List.length_cons] at hle
  exact hle

/-- If the reader gives something for the text, then it has split it into what it took and what it
left, and of these and what it gives something is true. -/
def Splits (r : Reader α) (s : List Char) (P : α → List Char → List Char → Prop) : Prop :=
  ∀ p a c, r ⟨p, s.map .char⟩ = .ok a c → ∃ t u, s = t ++ u ∧ P a t u ∧ ∃ q, c = ⟨q, u.map .char⟩

theorem Splits.mono (h : r.Splits s P) (hPQ : ∀ a t u, s = t ++ u → P a t u → Q a t u) :
    r.Splits s Q := by
  intro p a c hok
  obtain ⟨t, u, hs, hP, hc⟩ := h p a c hok
  exact ⟨t, u, hs, hPQ a t u hs hP, hc⟩

theorem splits_pure (h : P a [] s) : (pure a : Reader α).Splits s P := by
  intro p a' c hok
  cases hok
  exact ⟨[], s, rfl, h, p, rfl⟩

theorem Gives.splits (h : Gives (fun _ => False) r) : r.Splits s P :=
  fun _ _ _ hok => (h _ _ _ hok).elim

theorem splits_failHere (f : Fault) : (failHere f : Reader α).Splits s P :=
  (gives_failHere f).splits

theorem splits_failNext (f : Fault) : (failNext f : Reader α).Splits s P :=
  (gives_failNext f).splits

theorem splits_fail (f : Fault) : (fail f : Reader α).Splits s P := by
  intro p a c hok
  cases hok

theorem Splits.bind {f : α → Reader β} (h : r.Splits s P)
    (hf : ∀ a t u, s = t ++ u → P a t u → (f a).Splits u fun b t' u' => R b (t ++ t') u') :
    (r >>= f).Splits s R := by
  intro p b c hok
  obtain ⟨a, c₁, hr, hok⟩ := exists_of_bind_eq_ok hok
  obtain ⟨t, u, rfl, hP, q, rfl⟩ := h p a c₁ hr
  obtain ⟨t', u', rfl, hR, hc⟩ := hf a t u rfl hP q b c hok
  exact ⟨t ++ t', u', (List.append_assoc t t' u').symm, hR, hc⟩

theorem splits_failNext_bind (f : Fault) {g : α → Reader β} : (failNext f >>= g).Splits s R :=
  (splits_failNext (P := fun _ _ _ => False) f).bind fun _ _ _ _ h => h.elim

theorem Splits.map {f : α → β} (h : r.Splits s P) (hf : ∀ a t u, s = t ++ u → P a t u → R (f a) t u) :
    (f <$> r).Splits s R := by
  intro p b c hok
  obtain ⟨a, hr, rfl⟩ := exists_of_map_eq_ok hok
  obtain ⟨t, u, hs, hP, hc⟩ := h p a c hr
  exact ⟨t, u, hs, hf a t u hs hP, hc⟩

theorem splits_get {f : Cursor → Reader β} (h : ∀ p, (f ⟨p, s.map .char⟩).Splits s R) :
    (get >>= f).Splits s R := fun p => h p p

theorem splits_ite {c : Prop} [Decidable c] {r' : Reader α} (h : c → r.Splits s P)
    (h' : ¬ c → r'.Splits s P) : (if c then r else r').Splits s P := by
  split
  · next hc => exact h hc
  · next hc => exact h' hc

theorem splits_step {c : Char} {P : Unit → List Char → List Char → Prop} (h : P () [c] s) :
    step.Splits (c :: s) P := by
  intro p a q hok
  cases hok
  exact ⟨[c], s, rfl, h, _, rfl⟩

theorem splits_step_bind {c : Char} {f : Unit → Reader β}
    (h : (f ()).Splits s fun b t u => R b (c :: t) u) : (step >>= f).Splits (c :: s) R := by
  refine (splits_step (P := fun _ t u => t = [c] ∧ u = s) ⟨rfl, rfl⟩).bind ?_
  rintro - t u - ⟨rfl, rfl⟩
  exact h

theorem splits_enclosed {close : Reader Unit} (h : r.Splits s P)
    (hclose : ∀ a t u, s = t ++ u → P a t u → close.Splits u fun _ t' u' => Q a (t ++ t') u') :
    (enclosed r close).Splits s Q := by
  intro p a c hok
  obtain ⟨c₁, hr, hok⟩ := exists_of_enclosed_eq_ok hok
  obtain ⟨t, u, rfl, hP, q, rfl⟩ := h p a c₁ hr
  obtain ⟨t', u', rfl, hQ, hc⟩ := hclose a t u rfl hP q () c hok
  exact ⟨t ++ t', u', (List.append_assoc t t' u').symm, hQ, hc⟩

/-! ## Blanks, words and marks -/

theorem splits_skipBlanks : skipBlanks.Splits s fun _ t _ => Blanks t := by
  intro p a c hok
  cases hok
  obtain ⟨t, ht, hrest⟩ := Cursor.exists_of_dropWhileFrom Cursor.isBlank p (s.map .char)
  obtain ⟨t', u, rfl, hmap, hu⟩ := List.map_eq_append_iff.mp hrest
  obtain rfl : t' = t := (List.map_inj_right fun _ _ h => Text.Piece.char.inj h).mp hmap
  exact ⟨t', u, rfl, ht, _, congrArg (Cursor.mk _) hu.symm⟩

theorem splits_nextBehindBlanks (f : Fault) :
    (nextBehindBlanks f).Splits s fun next t u => Blanks t ∧ ∃ c v, u = c :: v ∧ next = some c := by
  refine splits_skipBlanks.bind fun _ t u _ ht => splits_get fun p => ?_
  refine splits_ite (fun _ => splits_failNext f) fun hend => splits_pure ?_
  cases u with
  | nil => exact absurd rfl hend
  | cons c v => exact ⟨by simpa using ht, c, v, rfl, rfl⟩

theorem splits_word (w : List Char) : (word w).Splits s fun _ t _ => t = w := by
  induction w generalizing s with
  | nil => exact splits_pure rfl
  | cons expected w ih =>
    refine splits_get fun p => splits_ite (fun _ => splits_failHere _) fun _ => ?_
    refine splits_ite (fun hnext => ?_) fun _ => splits_failNext _
    rw [next?_mk] at hnext
    obtain ⟨s, rfl⟩ := List.head?_eq_some_iff.mp hnext
    exact splits_step_bind (ih.mono fun _ t _ _ ht => congrArg _ ht)

/-- What closes a container or follows a name: blanks and the character. -/
def Mark (c : Char) (s : List Char) : Prop := ∃ blanks, Blanks blanks ∧ s = blanks ++ [c]

theorem splits_colon : colon.Splits s fun _ t _ => Mark ':' t := by
  refine (splits_nextBehindBlanks _).bind ?_
  rintro next t u - ⟨ht, c, v, rfl, rfl⟩
  refine splits_ite (fun hc => ?_) fun _ => splits_failNext _
  obtain rfl := Option.some.inj hc
  exact splits_step ⟨t, ht, rfl⟩

theorem splits_closeObject : closeObject.Splits s fun _ t _ => Mark '\x7d' t := by
  refine (splits_nextBehindBlanks _).bind ?_
  rintro next t u - ⟨ht, c, v, rfl, rfl⟩
  refine splits_ite (fun hc => ?_) fun _ => ?_
  · obtain rfl := Option.some.inj hc
    exact splits_step ⟨t, ht, rfl⟩
  · exact splits_ite (fun _ => splits_failNext _) fun _ => splits_failNext _

theorem splits_closeList : closeList.Splits s fun _ t _ => Mark ']' t := by
  refine (splits_nextBehindBlanks _).bind ?_
  rintro next t u - ⟨ht, c, v, rfl, rfl⟩
  refine splits_ite (fun hc => ?_) fun _ => splits_ite (fun _ => ?_) fun _ => splits_failNext _
  · obtain rfl := Option.some.inj hc
    exact splits_step ⟨t, ht, rfl⟩
  · -- Behind a comma that closes nothing there is only the choice between two faults.
    refine Gives.splits (gives_bind fun _ => gives_bind fun _ => gives_bind fun c => ?_)
    split
    · exact gives_failNext _
    · exact gives_failNext _

/-- What stands in front of an item, and the blanks of it that belong to the item. -/
inductive Lead : Bool → List Char → List Char → Prop where
  | first {blanks : List Char} (h : Blanks blanks) : Lead true blanks blanks
  | next {before blanks : List Char} (hbefore : Blanks before) (h : Blanks blanks) :
      Lead false (before ++ ',' :: blanks) blanks

theorem Lead.blanks {first : Bool} {t blanks : List Char} (h : Lead first t blanks) :
    Blanks blanks := by
  cases h with
  | first h => exact h
  | next _ h => exact h

theorem Lead.head_ne {t blanks u v : List Char} (h : Lead false t blanks) : t ++ u ≠ ']' :: v := by
  cases h with
  | @next before _ hbefore _ =>
    cases before with
    | nil => simp
    | cons c before =>
      have hc : Cursor.isBlank c = true := hbefore c List.mem_cons_self
      intro heq
      obtain rfl : c = ']' := (List.cons.inj heq).1
      cases hc

theorem Lead.cons {Item : α → List Char → Prop} {first : Bool} {as : List α}
    {lead blanks t : List Char} (h : Lead first lead blanks) (hitem : Item a (blanks ++ s))
    (more : Separated Item false as t) : Separated Item first (a :: as) (lead ++ (s ++ t)) := by
  cases h with
  | first h =>
    rw [← List.append_assoc]
    exact .first hitem more
  | next hbefore h =>
    rw [List.append_assoc, List.cons_append, ← List.append_assoc blanks]
    exact .next hbefore hitem more

theorem splits_hasItem (first : Bool) : (hasItem first).Splits s fun more t u =>
    if more then ∃ blanks, Lead first t blanks else Blanks t ∧ ∃ v, u = ']' :: v := by
  refine (splits_nextBehindBlanks _).bind ?_
  rintro next t u - ⟨ht, c, v, rfl, rfl⟩
  refine splits_ite (fun hc => ?_) fun _ => ?_
  · obtain rfl := Option.some.inj hc
    exact splits_pure ⟨by simpa using ht, v, rfl⟩
  cases first with
  | true => exact splits_pure ⟨t, by simpa using Lead.first ht⟩
  | false =>
    refine splits_ite (fun h => absurd h Bool.false_ne_true) fun _ => ?_
    refine splits_ite (fun hc => ?_) fun _ => splits_failNext _
    obtain rfl := Option.some.inj hc
    refine splits_step_bind ((splits_nextBehindBlanks _).bind ?_)
    rintro next t' u - ⟨ht', d, v, rfl, rfl⟩
    refine splits_ite (fun _ => splits_failNext _) fun _ => splits_pure ⟨t', ?_⟩
    simpa using Lead.next ht ht'

end Reader

end ToastRelay
