import ToastRelay.Json.Record
import ToastRelay.Proofs.Json.SplitStrings

/-!
# Which values are passed over

A value that is passed over is a value of the grammar, however deep its containers are. What is still
to come while it is passed over is told by the brackets that are open, and as every bracket and every
item takes a character, the steps that a reader is given for a text are never used up.
-/

namespace ToastRelay
set_option autoImplicit false

open Json Text

theorem Cursor.exists_of_countDigitsFrom (s : List Char) (count : Nat) (p : Position) :
    ∃ t u q, s = t ++ u ∧ (∀ c ∈ t, c.isDigit = true) ∧ u.head?.all (!Char.isDigit ·) = true ∧
      countDigitsFrom count p (s.map .char) = (count + t.length, ⟨q, u.map .char⟩) := by
  induction s generalizing count p with
  | nil => exact ⟨[], [], p, rfl, fun _ h => absurd h List.not_mem_nil, rfl, rfl⟩
  | cons c s ih =>
    by_cases hc : c.isDigit = true
    · obtain ⟨t, u, q, rfl, ht, hu, hcount⟩ := ih (count + 1) (p.after (.char c))
      refine ⟨c :: t, u, q, rfl, List.forall_mem_cons.mpr ⟨hc, ht⟩, hu, ?_⟩
      rw [List.map_cons, countDigitsFrom, if_pos hc, hcount, List.length_cons]
      simp only [Prod.mk.injEq, and_true]
      omega
    · refine ⟨[], c :: s, p, rfl, fun _ h => absurd h List.not_mem_nil, by simp [hc], ?_⟩
      rw [List.map_cons, countDigitsFrom, if_neg hc]
      rfl

namespace Reader

variable {s : List Char}

/-! ## Numbers -/

theorem splits_countDigits : countDigits.Splits s fun n t u =>
    n = t.length ∧ (∀ c ∈ t, c.isDigit = true) ∧ u.head?.all (!Char.isDigit ·) = true := by
  intro p n c hok
  obtain ⟨t, u, q, rfl, ht, hu, hcount⟩ := Cursor.exists_of_countDigitsFrom s 0 p
  have hcount' : countDigits ⟨p, (t ++ u).map .char⟩ = .ok t.length ⟨q, u.map .char⟩ := by
    simp only [countDigits, hcount, Nat.zero_add]
  rw [hcount'] at hok
  cases hok
  exact ⟨t, u, rfl, ⟨rfl, ht, hu⟩, q, rfl⟩

theorem splits_skipDigits {c : Char} (hc : c.isDigit = true) :
    skipDigits.Splits (c :: s) fun _ t _ =>
      ∃ more, t = c :: more ∧ ∀ d ∈ t, d.isDigit = true := by
  refine splits_countDigits.bind fun n t u hs h => splits_pure ?_
  obtain ⟨-, ht, hu⟩ := h
  cases t with
  | nil =>
    obtain rfl : u = c :: s := hs.symm
    simp [hc] at hu
  | cons d t =>
    obtain ⟨rfl, -⟩ := List.cons.inj hs
    exact ⟨t, by simp, by simpa using ht⟩

theorem exists_cons_of_any {accepts : Char → Bool} (h : s.head?.any accepts = true) :
    ∃ c t, s = c :: t ∧ accepts c = true := by
  cases s with
  | nil => cases h
  | cons c t => exact ⟨c, t, rfl, h⟩

theorem splits_skipExponent {mark : Char} (hmark : mark = 'e' ∨ mark = 'E') :
    skipExponent.Splits (mark :: s) fun _ t _ => IsExponent t := by
  refine splits_step_bind (splits_get fun p => ?_)
  -- The digits are passed over whatever sign stands in front of them.
  have hdigits : ∀ sign u, (sign = [] ∨ sign = ['+'] ∨ sign = ['-']) →
      (do
        let c ← get
        if c.next?.any Char.isDigit then skipDigits
        else if c.atEnd then failHere .invalidNumber
        else failNext .invalidNumber : Reader Unit).Splits u
          fun _ t _ => IsExponent (mark :: (sign ++ t)) := by
    intro sign u hsign
    refine splits_get fun p => splits_ite (fun hdigit => ?_) fun _ =>
      splits_ite (fun _ => splits_failHere _) fun _ => splits_failNext _
    rw [next?_mk] at hdigit
    obtain ⟨c, u, rfl, hc⟩ := exists_cons_of_any hdigit
    refine (splits_skipDigits hc).mono ?_
    rintro - t - - ⟨more, rfl, ht⟩
    exact .digits hmark hsign ⟨List.cons_ne_nil c more, ht⟩
  refine splits_ite (fun hsign => ?_) fun _ => hdigits [] s (Or.inl rfl)
  rw [next?_mk, Bool.or_eq_true, decide_eq_true_eq, decide_eq_true_eq] at hsign
  rcases hsign with hsign | hsign
  · obtain ⟨s, rfl⟩ := List.head?_eq_some_iff.mp hsign
    exact splits_step_bind (hdigits ['+'] s (Or.inr (Or.inl rfl)))
  · obtain ⟨s, rfl⟩ := List.head?_eq_some_iff.mp hsign
    exact splits_step_bind (hdigits ['-'] s (Or.inr (Or.inr rfl)))

theorem splits_skipExponentOrEnd : skipExponentOrEnd.Splits s fun _ t _ => IsExponent t := by
  refine splits_get fun p => splits_ite (fun hmark => ?_) fun _ => splits_pure .none
  rw [next?_mk, Cursor.isExponentMark, Bool.or_eq_true, decide_eq_true_eq, decide_eq_true_eq]
    at hmark
  rcases hmark with hmark | hmark
  · obtain ⟨s, rfl⟩ := List.head?_eq_some_iff.mp hmark
    exact splits_skipExponent (Or.inl rfl)
  · obtain ⟨s, rfl⟩ := List.head?_eq_some_iff.mp hmark
    exact splits_skipExponent (Or.inr rfl)

theorem splits_skipFraction : skipFraction.Splits ('.' :: s) fun _ t _ =>
    ∃ fraction exponent, IsFraction fraction ∧ IsExponent exponent ∧ t = fraction ++ exponent := by
  refine splits_step_bind (splits_countDigits.bind fun n t u _ h => ?_)
  obtain ⟨rfl, ht, -⟩ := h
  refine splits_ite (fun _ => splits_failNext _) fun hsome => ?_
  refine splits_skipExponentOrEnd.mono fun _ t' _ _ hexponent => ?_
  exact ⟨'.' :: t, t', .digits ⟨fun h => hsome (by rw [h]; rfl), ht⟩, hexponent, rfl⟩

theorem splits_skipNumber : skipNumber.Splits s fun _ t _ => IsUnsigned t := by
  refine splits_get fun p => ?_
  have hend : ∀ whole u, IsWhole whole → (do
      if (← get).next? = some '.' then skipFraction else skipExponentOrEnd : Reader Unit).Splits u
        fun _ t _ => IsUnsigned (whole ++ t) := by
    intro whole u hwhole
    refine splits_get fun p => splits_ite (fun hpoint => ?_) fun _ => ?_
    · rw [next?_mk] at hpoint
      obtain ⟨u, rfl⟩ := List.head?_eq_some_iff.mp hpoint
      refine splits_skipFraction.mono ?_
      rintro - t - - ⟨fraction, exponent, hfraction, hexponent, rfl⟩
      exact ⟨whole, fraction, exponent, hwhole, hfraction, hexponent, rfl⟩
    · refine splits_skipExponentOrEnd.mono fun _ t _ _ hexponent => ?_
      exact ⟨whole, [], t, hwhole, .none, hexponent, rfl⟩
  refine splits_ite (fun hzero => ?_) fun hzero => splits_ite (fun hdigit => ?_) fun _ =>
    splits_failNext_bind _
  · rw [next?_mk] at hzero
    obtain ⟨s, rfl⟩ := List.head?_eq_some_iff.mp hzero
    refine splits_step_bind (splits_get fun p => splits_ite (fun _ => splits_failNext_bind _) ?_)
    exact fun _ => hend ['0'] s .zero
  · rw [next?_mk] at hzero hdigit
    obtain ⟨c, s, rfl, hc⟩ := exists_cons_of_any hdigit
    refine (splits_skipDigits hc).bind ?_
    rintro - t u - ⟨more, rfl, ht⟩
    exact hend (c :: more) u (.digits (fun h => hzero (by rw [h]; rfl)) ht)

/-! ## Containers -/

/-- What stands inside a bracket, from the first item on or from the comma behind an item on. -/
def Inside : Bracket → Bool → List Char → Prop
  | .list, first, s => ∃ items, (∀ item ∈ items, IsValue item) ∧ Separated Eq first items s
  | .object, first, s =>
    ∃ members, (∀ m ∈ members, IsValue m.2) ∧ Separated (IsMember IsName) first members s

/-- What an item begins with: in an object, its name and the colon. -/
def Beginning : Bracket → List Char → Prop
  | .list, s => s = []
  | .object, s => ∃ before name between, Blanks before ∧ IsStringBody name ∧ Blanks between ∧
    s = before ++ '"' :: (name ++ '"' :: (between ++ [':']))

theorem inside_of_blanks (bracket : Bracket) (first : Bool) (hs : Blanks s) :
    Inside bracket first s := by
  cases bracket with
  | list => exact ⟨[], fun _ h => absurd h List.not_mem_nil, .none hs⟩
  | object => exact ⟨[], fun _ h => absurd h List.not_mem_nil, .none hs⟩

theorem Lead.inside {bracket : Bracket} {first : Bool} {lead blanks beginning v : List Char}
    (h : Lead first lead blanks) (hbeginning : Beginning bracket beginning) (hv : IsValue v)
    (hs : Inside bracket false s) : Inside bracket first (lead ++ (beginning ++ (v ++ s))) := by
  cases bracket with
  | list =>
    obtain rfl : beginning = [] := hbeginning
    obtain ⟨items, hitems, hs⟩ := hs
    exact ⟨(blanks ++ v) :: items, List.forall_mem_cons.mpr ⟨.blanks h.blanks hv, hitems⟩,
      h.cons (s := v) rfl hs⟩
  | object =>
    obtain ⟨before, name, between, hbefore, hname, hbetween, rfl⟩ := hbeginning
    obtain ⟨members, hmembers, hs⟩ := hs
    refine ⟨(name, v) :: members, List.forall_mem_cons.mpr ⟨hv, hmembers⟩, ?_⟩
    have hmember : IsMember IsName (name, v)
        (blanks ++ (before ++ '"' :: (name ++ '"' :: (between ++ ':' :: v)))) :=
      ⟨blanks ++ before, name, between, h.blanks.append hbefore, ⟨rfl, hname⟩, hbetween, by simp⟩
    simpa using h.cons hmember hs

def opening : Bracket → Char
  | .list => '['
  | .object => '\x7b'

theorem isValue_of_inside {bracket : Bracket} (h : Inside bracket true s) :
    IsValue (opening bracket :: (s ++ [closing bracket])) := by
  cases bracket with
  | list =>
    obtain ⟨items, hitems, hs⟩ := h
    exact .list hitems hs
  | object =>
    obtain ⟨members, hmembers, hs⟩ := h
    exact .object hmembers hs

/-- What closes the brackets that are open, the innermost first. Only the innermost one can be
without an item so far. -/
def Closes : List Bracket → Bool → List Char → Prop
  | [], _, s => s = []
  | bracket :: opened, first, s => ∃ inside more, Inside bracket first inside ∧
    Closes opened false more ∧ s = inside ++ closing bracket :: more

def ClosesBehindValue (opened : List Bracket) (s : List Char) : Prop :=
  ∃ v more, IsValue v ∧ Closes opened false more ∧ s = v ++ more

theorem splits_skipName (bracket : Bracket) :
    (skipName bracket).Splits s fun _ t _ => Beginning bracket t := by
  cases bracket with
  | list => exact splits_pure rfl
  | object =>
    refine (splits_nextBehindBlanks _).bind ?_
    rintro next t u - ⟨ht, c, v, rfl, rfl⟩
    refine splits_ite (fun hc => ?_) fun _ => splits_failNext _
    obtain rfl := Option.some.inj hc
    refine splits_step_bind (splits_skipStringBody.bind ?_)
    rintro - name u - ⟨name, hname, rfl⟩
    refine splits_colon.mono ?_
    rintro - t' - - ⟨between, hbetween, rfl⟩
    exact ⟨t, name, between, ht, hname, hbetween, by simp⟩

section Skip
variable {steps : Nat} {opened : List Bracket}

theorem splits_skipPending_value
    (ih : ∀ u : List Char, u.length < s.length → ∀ opened afterItem,
      (skipPending steps opened (.itemOrEnd afterItem)).Splits u
        fun _ t _ => Closes opened (!afterItem) t) (opened : List Bracket) :
    (skipPending (steps + 1) opened .value).Splits s fun _ t _ => ClosesBehindValue opened t := by
  refine (splits_nextBehindBlanks _).bind ?_
  rintro next blanks u hs ⟨hblanks, c, v, rfl, rfl⟩
  -- A container is passed over with what is pending around it, ...
  have hcontainer : ∀ bracket, (skipPending steps (bracket :: opened) (.itemOrEnd false)).Splits v
      fun _ t _ => ClosesBehindValue opened (blanks ++ opening bracket :: t) := by
    intro bracket
    refine (ih v (length_lt_of_append hs) (bracket :: opened) false).mono ?_
    rintro - t - - ⟨inside, more, hinside, hmore, rfl⟩
    exact ⟨_, more, .blanks hblanks (isValue_of_inside hinside), hmore, by simp⟩
  -- ... and another value in front of what is pending.
  have hother : ∀ t u, c :: v = t ++ u → t ≠ [] → IsValue t →
      (skipPending steps opened (.itemOrEnd true)).Splits u
        fun _ t' _ => ClosesBehindValue opened (blanks ++ (t ++ t')) := by
    intro t u hu hsome ht
    obtain ⟨d, t, rfl⟩ := List.exists_cons_of_ne_nil hsome
    have hlength : u.length < s.length := by
      have hv : v = t ++ u := (List.cons.inj hu).2
      exact Nat.lt_of_le_of_lt (length_le_of_append hv) (length_lt_of_append hs)
    refine (ih u hlength opened true).mono fun _ more _ _ hmore => ?_
    exact ⟨_, more, .blanks hblanks ht, hmore, (List.append_assoc _ _ _).symm⟩
  have hword : ∀ w : String, w ∈ ["null", "true", "false"] → ∀ more, w.toList = c :: more →
      (word more >>= fun _ => skipPending steps opened (.itemOrEnd true)).Splits v
        fun _ t' _ => ClosesBehindValue opened (blanks ++ (c :: t')) := by
    intro w hw more hmore
    refine (splits_word more).bind ?_
    rintro - t u hv rfl
    exact hother (c :: t) u (by rw [hv]; rfl) (List.cons_ne_nil _ _) (hmore ▸ .word hw)
  dsimp only
  split
  · next hc =>
    obtain rfl := Option.some.inj hc
    exact splits_step_bind (hcontainer .list)
  · next hc =>
    obtain rfl := Option.some.inj hc
    exact splits_step_bind (hcontainer .object)
  · split
    · next hc =>
      obtain rfl := Option.some.inj hc
      exact splits_step_bind (hword "null" (by simp) _ rfl)
    · next hc =>
      obtain rfl := Option.some.inj hc
      exact splits_step_bind (hword "true" (by simp) _ rfl)
    · next hc =>
      obtain rfl := Option.some.inj hc
      exact splits_step_bind (hword "false" (by simp) _ rfl)
    · next hc =>
      obtain rfl := Option.some.inj hc
      refine splits_step_bind (splits_skipNumber.bind fun _ t u hv ht => ?_)
      exact hother ('-' :: t) u (by rw [hv]; rfl) (List.cons_ne_nil _ _) (.negative ht)
    · next hc =>
      obtain rfl := Option.some.inj hc
      refine splits_step_bind (splits_skipStringBody.bind ?_)
      rintro - t u hv ⟨body, hbody, rfl⟩
      exact hother ('"' :: (body ++ ['"'])) u (by rw [hv]; rfl) (List.cons_ne_nil _ _)
        (.string hbody)
    · refine splits_ite (fun _ => ?_) fun _ => splits_failNext_bind _
      refine splits_skipNumber.bind fun _ t u hv ht => ?_
      exact hother t u hv ht.ne_nil (.number ht)

theorem splits_skipPending_itemOrEnd
    (ihEnd : ∀ u : List Char, u.length < s.length → ∀ opened,
      (skipPending steps opened (.itemOrEnd true)).Splits u fun _ t _ => Closes opened false t)
    (ihValue : ∀ u : List Char, u.length ≤ s.length → ∀ opened,
      (skipPending steps opened .value).Splits u fun _ t _ => ClosesBehindValue opened t)
    (opened : List Bracket) (afterItem : Bool) :
    (skipPending (steps + 1) opened (.itemOrEnd afterItem)).Splits s
      fun _ t _ => Closes opened (!afterItem) t := by
  cases opened with
  | nil => exact splits_pure rfl
  | cons bracket opened =>
    refine (splits_nextBehindBlanks _).bind ?_
    rintro next blanks u hs ⟨hblanks, c, v, rfl, rfl⟩
    -- An item begins behind a comma or is the first one.
    have hitem : ∀ lead blanks' u, Lead (!afterItem) lead blanks' → u.length ≤ s.length →
        (skipName bracket >>= fun _ => skipPending steps (bracket :: opened) .value).Splits u
          fun _ t _ => Closes (bracket :: opened) (!afterItem) (lead ++ t) := by
      intro lead blanks' u hlead hu
      refine (splits_skipName bracket).bind fun _ beginning u' hu' hbeginning => ?_
      have hlength : u'.length ≤ s.length := Nat.le_trans (length_le_of_append hu') hu
      refine (ihValue u' hlength (bracket :: opened)).mono ?_
      rintro - t - - ⟨item, more, hitem, ⟨inside, rest, hinside, hrest, rfl⟩, rfl⟩
      exact ⟨_, rest, hlead.inside hbeginning hitem hinside, hrest, by simp⟩
    refine splits_ite (fun hc => ?_) fun _ => ?_
    · obtain rfl := Option.some.inj hc
      refine splits_step_bind ((ihEnd v (length_lt_of_append hs) opened).mono ?_)
      exact fun _ more _ _ hmore => ⟨blanks, more, inside_of_blanks bracket _ hblanks, hmore, rfl⟩
    · cases afterItem with
      | true =>
        refine splits_ite (fun _ => ?_) fun h => absurd rfl h
        refine splits_ite (fun hc => ?_) fun _ => splits_failNext _
        obtain rfl := Option.some.inj hc
        refine splits_step_bind ((hitem (blanks ++ [',']) [] v (.next hblanks blanks_nil)
          (Nat.le_of_lt (length_lt_of_append hs))).mono ?_)
        intro _ t _ _ ht
        simpa using ht
      | false =>
        refine splits_ite (fun h => absurd h Bool.false_ne_true) fun _ => ?_
        exact hitem blanks blanks (c :: v) (.first hblanks) (length_le_of_append hs)

/-- The steps suffice: a value takes fewer than it has characters twice. -/
theorem splits_skipPending (steps : Nat) (s : List Char) (opened : List Bracket) :
    (2 * s.length < steps →
      (skipPending steps opened .value).Splits s fun _ t _ => ClosesBehindValue opened t) ∧
    ∀ afterItem, 2 * s.length + 1 < steps →
      (skipPending steps opened (.itemOrEnd afterItem)).Splits s
        fun _ t _ => Closes opened (!afterItem) t := by
  induction steps generalizing s opened with
  | zero => exact ⟨fun h => absurd h (Nat.not_lt_zero _), fun _ h => absurd h (Nat.not_lt_zero _)⟩
  | succ steps ih =>
    constructor
    · intro hsteps
      exact splits_skipPending_value (fun u hu opened afterItem =>
        (ih u opened).2 afterItem (by omega)) opened
    · intro afterItem hsteps
      refine splits_skipPending_itemOrEnd (fun u hu opened => (ih u opened).2 true (by omega))
        (fun u hu opened => (ih u opened).1 (by omega)) opened afterItem

end Skip

theorem splits_skipValue {steps : Nat} (h : s.length ≤ steps) :
    (skipValue steps).Splits s fun _ t _ => IsValue t := by
  refine ((splits_skipPending (2 * steps + 2) s []).1 (by omega)).mono ?_
  rintro - t - - ⟨v, more, hv, rfl, rfl⟩
  rwa [List.append_nil]

end Reader

end ToastRelay
