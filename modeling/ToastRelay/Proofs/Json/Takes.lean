import ToastRelay.Json.Reader

/-!
# What a reader takes

A reader takes characters off a text when it gives a value and leaves what follows them, wherever
the cursor stands. What is taken by readers one after another is put together here, so that a reader
can be followed over a text without a word about positions.
-/

namespace ToastRelay
set_option autoImplicit false

open Text

/-- From every position, the reader gives the value and gets from one text to the other. -/
def Reader.Takes {α : Type} (r : Reader α) (a : α) (before after : List Char) : Prop :=
  ∀ p, ∃ q, r ⟨p, before.map .char⟩ = .ok a ⟨q, after.map .char⟩

namespace Reader

variable {α β : Type} {r : Reader α} {a : α} {b : β} {s t u : List Char}

theorem takes_pure (a : α) (s : List Char) : Takes (pure a) a s s := fun p => ⟨p, rfl⟩

theorem Takes.bind {f : α → Reader β} (h : r.Takes a s t) (hf : (f a).Takes b t u) :
    (r >>= f).Takes b s u := by
  intro p
  obtain ⟨q, hq⟩ := h p
  obtain ⟨q', hq'⟩ := hf q
  refine ⟨q', ?_⟩
  rw [← hq']
  change EStateM.bind r f _ = _
  rw [EStateM.bind, hq]

theorem Takes.map (f : α → β) (h : r.Takes a s t) : (f <$> r).Takes (f a) s t := by
  intro p
  obtain ⟨q, hq⟩ := h p
  refine ⟨q, ?_⟩
  change EStateM.map f r _ = _
  rw [EStateM.map, hq]

theorem takes_get {f : Cursor → Reader β} (h : ∀ p, (f ⟨p, s.map .char⟩).Takes b s t) :
    (get >>= f).Takes b s t := fun p => h p p

theorem takes_step (c : Char) (s : List Char) : step.Takes () (c :: s) s :=
  fun p => ⟨p.after (.char c), rfl⟩

@[simp] theorem next?_mk (p : Position) (s : List Char) :
    (Cursor.mk p (s.map .char)).next? = s.head? := by cases s <;> rfl

@[simp] theorem atEnd_mk (p : Position) (s : List Char) :
    (Cursor.mk p (s.map .char)).atEnd = s.isEmpty := by cases s <;> rfl

theorem dropWhileFrom_append {accepts : Char → Bool} (hs : ∀ c ∈ s, accepts c = true)
    (ht : t.head?.all (!accepts ·)) (p : Position) :
    ∃ q, Cursor.dropWhileFrom accepts p ((s ++ t).map .char) = ⟨q, t.map .char⟩ := by
  induction s generalizing p with
  | nil =>
    cases t with
    | nil => exact ⟨p, rfl⟩
    | cons c t =>
      have hc : accepts c = false := by simpa using ht
      refine ⟨p, ?_⟩
      simp [Cursor.dropWhileFrom, hc]
  | cons c s ih =>
    obtain ⟨hc, hs⟩ := List.forall_mem_cons.mp hs
    obtain ⟨q, hq⟩ := ih hs (p.after (.char c))
    refine ⟨q, ?_⟩
    rw [← hq]
    simp [Cursor.dropWhileFrom, hc]

theorem takes_skipBlanks (hs : ∀ c ∈ s, Cursor.isBlank c = true)
    (ht : t.head?.all (!Cursor.isBlank ·)) : skipBlanks.Takes () (s ++ t) t := by
  intro p
  obtain ⟨q, hq⟩ := dropWhileFrom_append hs ht p
  refine ⟨q, ?_⟩
  rw [← hq]
  rfl

theorem takes_nextBehindBlanks {c : Char} (hs : ∀ c ∈ s, Cursor.isBlank c = true)
    (hc : Cursor.isBlank c = false) (f : Fault) (t : List Char) :
    (nextBehindBlanks f).Takes (some c) (s ++ c :: t) (c :: t) := by
  refine (takes_skipBlanks hs (by simpa using hc)).bind (takes_get fun p => ?_)
  exact takes_pure (some c) _

theorem takes_next {c : Char} (hc : Cursor.isBlank c = false) (f : Fault) (t : List Char) :
    (nextBehindBlanks f).Takes (some c) (c :: t) (c :: t) :=
  takes_nextBehindBlanks (s := []) (fun _ h => absurd h List.not_mem_nil) hc f t

theorem takes_enclosed {close : Reader Unit} (h : r.Takes a s t) (hclose : close.Takes () t u) :
    (enclosed r close).Takes a s u := by
  intro p
  obtain ⟨q, hq⟩ := h p
  obtain ⟨q', hq'⟩ := hclose q
  refine ⟨q', ?_⟩
  simp only [enclosed, hq, hq']

theorem takes_colon (s : List Char) : colon.Takes () (':' :: s) s :=
  (takes_next rfl _ s).bind (takes_step ':' s)

theorem takes_closeObject (hs : ∀ c ∈ s, Cursor.isBlank c = true) (t : List Char) :
    closeObject.Takes () (s ++ '\x7d' :: t) t :=
  (takes_nextBehindBlanks hs rfl _ t).bind (takes_step '\x7d' t)

/-- A text that a reader takes up to blanks holds its value. -/
theorem whole_eq_ok_of_blanks {r : Nat → Reader α} (h : (r s.length).Takes a s t)
    (ht : ∀ c ∈ t, Cursor.isBlank c = true) : whole r (s.map .char) = .ok a := by
  have hblanks : skipBlanks.Takes () t [] := by
    simpa using takes_skipBlanks (t := []) ht rfl
  have hfinish : finish.Takes () t [] := hblanks.bind (takes_get fun p => takes_pure () _)
  have hwhole : Takes (do let a ← r s.length; finish; pure a) a s [] :=
    h.bind (hfinish.bind (takes_pure a []))
  obtain ⟨q, hq⟩ := hwhole ⟨1, 0⟩
  simp only [whole, List.length_map, Cursor.ofPieces, hq]

theorem whole_eq_ok {r : Nat → Reader α} (h : (r s.length).Takes a s []) :
    whole r (s.map .char) = .ok a :=
  whole_eq_ok_of_blanks h fun _ h => absurd h List.not_mem_nil

end Reader

end ToastRelay
