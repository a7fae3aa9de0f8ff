import Mathlib.Data.List.Basic
import ToastRelay.Proofs.Json.SplitValues

/-!
# Which records are accepted

A field is read from the text of its value, the members of an object are read from their names and
these texts, and the items of a list from these texts alone. What the members are read into is told
by an invariant, which every member has to keep.
-/

namespace ToastRelay
set_option autoImplicit false

open Json

namespace Reader

variable {α σ : Type} {s : List Char}

theorem gives_wrongKind (expected : String) :
    Gives (fun _ => False) (wrongKind expected : Reader α) := by
  refine gives_bind fun c => ?_
  dsimp only
  split
  · exact gives_bind fun _ => gives_bind fun _ => gives_failHere _
  · exact gives_bind fun _ => gives_bind fun _ => gives_failHere _
  · exact gives_bind fun _ => gives_bind fun _ => gives_failHere _
  · exact gives_bind fun _ => gives_bind fun _ => gives_failHere _
  · exact gives_bind fun _ => gives_bind fun _ => gives_failHere _
  · exact gives_failHere _
  · exact gives_failHere _
  · split
    · exact gives_bind fun _ => gives_failHere _
    · exact gives_failNext _

theorem splits_string : string.Splits s fun a t _ => IsString a t := by
  refine (splits_nextBehindBlanks _).bind ?_
  rintro next t u - ⟨ht, c, v, rfl, rfl⟩
  refine splits_ite (fun hc => ?_) fun _ => (gives_wrongKind _).splits
  obtain rfl := Option.some.inj hc
  refine splits_step_bind (splits_stringBody.mono ?_)
  rintro a t' u - ⟨body, hbody, rfl⟩
  exact ⟨t, body, ht, hbody, rfl⟩

theorem splits_natural : natural.Splits s fun n t _ => IsNatural n t := by
  refine (splits_nextBehindBlanks _).bind ?_
  rintro next t u - ⟨ht, c, v, rfl, rfl⟩
  refine splits_ite (fun _ => ?_) fun _ => splits_ite (fun _ => ?_) fun _ =>
    (gives_wrongKind _).splits
  · -- Behind a minus stands no natural number.
    refine Gives.splits (gives_bind fun _ => ?_)
    intro q n c' hok
    obtain ⟨x, c₁, hx, hok⟩ := exists_of_bind_eq_ok hok
    cases x with
    | natural n => exact gives_number_true _ _ _ hx n rfl
    | negative size => cases hok
    | float x => cases hok
  · intro q n c' hok
    obtain ⟨x, c₁, hx, hok⟩ := exists_of_bind_eq_ok hok
    cases x with
    | natural n' =>
      cases hok
      obtain ⟨digits, w, hdigits, hmap, hw⟩ := List.map_eq_append_iff.mp (number_eq_natural hx)
      obtain rfl := (List.map_inj_right fun _ _ h => Text.Piece.char.inj h).mp hmap
      exact ⟨_, w, hdigits, ⟨t, ht, rfl⟩, c'.position, congrArg (Cursor.mk _) hw.symm⟩
    | negative size => cases hok
    | float x => cases hok

theorem splits_optional {r : Reader α} {P : α → List Char → Prop}
    (h : ∀ u, r.Splits u fun a t _ => P a t)
    (hP : ∀ a {t u}, Blanks t → P a u → P a (t ++ u)) :
    (optional r).Splits s fun a? t _ => IsOptional P a? t := by
  refine splits_skipBlanks.bind fun _ t u _ ht => splits_get fun p => ?_
  refine splits_ite (fun hnext => ?_) fun _ => (h u).map fun a t' _ _ ha => .some (hP a ht ha)
  rw [next?_mk] at hnext
  obtain ⟨u, rfl⟩ := List.head?_eq_some_iff.mp hnext
  refine splits_step_bind ((splits_word _).bind ?_)
  rintro - t' u' - rfl
  refine splits_pure (.none ⟨t, ht, ?_⟩)
  simp

def BehindName (v s : List Char) : Prop := ∃ between, Blanks between ∧ s = between ++ ':' :: v

theorem splits_members {member : String → σ → Reader σ}
    {I : List (String × List Char) → σ → Prop} {longest : Nat}
    (hmember : ∀ ms a name u, u.length ≤ longest → I ms a → (member name a).Splits u
      fun b t _ => ∃ v, BehindName v t ∧ I (ms ++ [(name, v)]) b)
    {steps : Nat} (first : Bool) {ms : List (String × List Char)} {a : σ} (ha : I ms a)
    (hsteps : s.length < steps) (hlongest : s.length ≤ longest) :
    (members member steps first a).Splits s fun b t _ =>
      ∃ more, Separated (IsMember Spelled) first more t ∧ I (ms ++ more) b := by
  -- Every member takes a character, so that the steps are not used up before the members are.
  induction steps generalizing s first ms a with
  | zero => exact absurd hsteps (Nat.not_lt_zero _)
  | succ steps ih =>
    refine (splits_memberName first).bind ?_
    rintro (_ | name) t u hs hname
    · refine splits_pure ⟨[], ?_, by simpa using ha⟩
      rw [List.append_nil]
      exact .none hname
    · obtain ⟨lead, blanks, body, hlead, hbody, rfl⟩ := hname
      have hlength : u.length < s.length := by
        rw [List.append_assoc] at hs
        exact Nat.lt_of_le_of_lt (length_le_of_append rfl) (length_lt_of_append hs)
      refine (hmember ms a name u (by omega) ha).bind ?_
      rintro b t u' hu ⟨v, ⟨between, hbetween, rfl⟩, hb⟩
      have hlength' : u'.length ≤ u.length := length_le_of_append hu
      refine (ih false hb (by omega) (by omega)).mono ?_
      rintro c t' - - ⟨more, hmore, hc⟩
      refine ⟨(name, v) :: more, ?_, by simpa using hc⟩
      have hitem : IsMember Spelled (name, v)
          (blanks ++ '"' :: (body ++ '"' :: (between ++ ':' :: v))) :=
        ⟨blanks, body, between, hlead.blanks, hbody, hbetween, rfl⟩
      simpa using hlead.cons hitem hmore

end Reader

namespace Record

open Reader

variable {σ α : Type} {record : Record σ α} {s : List Char} {draft : σ}

theorem splits_member {Q : List Char → σ → Prop} {name : String} {steps : Nat}
    (hskip : (∀ field ∈ record.fields, field.name ≠ name) → ∀ v, IsValue v → Q v draft)
    (hfield : ∀ field ∈ record.fields, field.name = name → field.given draft = false →
      ∀ u, (field.read draft).Splits u fun d v _ => Q v d) (hsteps : s.length ≤ steps) :
    (record.member steps name draft).Splits s fun d t _ => ∃ v, BehindName v t ∧ Q v d := by
  rw [member]
  split
  · next hnone =>
    refine splits_colon.bind ?_
    rintro - t u hs ⟨between, hbetween, rfl⟩
    have hlength : u.length ≤ steps := Nat.le_trans (length_le_of_append hs) hsteps
    refine (splits_skipValue hlength).bind fun _ v _ _ hv => splits_pure ⟨v, ?_, ?_⟩
    · exact ⟨between, hbetween, by simp⟩
    · exact hskip (by simpa using hnone) v hv
  · next field hfound =>
    have hname : field.name = name := by simpa using List.find?_some hfound
    refine splits_ite (fun _ => splits_fail _) fun hgiven => splits_colon.bind ?_
    rintro - t u - ⟨between, hbetween, rfl⟩
    have hread := hfield field (List.mem_of_find?_eq_some hfound) hname (by simpa using hgiven) u
    exact hread.mono fun d v _ _ hQ => ⟨v, ⟨between, hbetween, by simp⟩, hQ⟩

/-- Fields in their order, of which those that may be missing may be left off the end. -/
inductive Listed (Reads : Field σ → σ → List Char → σ → Prop) :
    List (Field σ) → List (List Char) → σ → σ → Prop where
  | nil (d : σ) : Listed Reads [] [] d d
  | missing {field : Field σ} {fields : List (Field σ)} {d d' : σ}
      (h : field.mayBeMissing = true) (more : Listed Reads fields [] d d') :
      Listed Reads (field :: fields) [] d d'
  | item {field : Field σ} {fields : List (Field σ)} {v : List Char} {items : List (List Char)}
      {d d' d'' : σ} (h : Reads field d v d') (more : Listed Reads fields items d' d'') :
      Listed Reads (field :: fields) (v :: items) d d''

theorem splits_inOrder_end (Reads : Field σ → σ → List Char → σ → Prop)
    (fields : List (Field σ)) (n : Nat) (draft : σ) (v : List Char) :
    (record.inOrder fields (n + 1) draft).Splits (']' :: v) fun d t _ =>
      Listed Reads fields [] draft d ∧ t = [] := by
  induction fields generalizing n with
  | nil => exact splits_pure ⟨.nil draft, rfl⟩
  | cons field fields ih =>
    refine (splits_hasItem _).bind ?_
    rintro (_ | _) t u hs h
    · obtain ⟨ht, w, rfl⟩ := h
      obtain rfl : t = [] := by
        cases t with
        | nil => rfl
        | cons c t =>
          have hc : Cursor.isBlank c = true := ht c List.mem_cons_self
          obtain rfl : ']' = c := (List.cons.inj hs).1
          cases hc
      refine splits_ite (fun h => absurd h Bool.false_ne_true) fun _ => ?_
      refine splits_ite (fun hmissing => ?_) fun _ => splits_fail _
      obtain rfl := (List.cons.inj hs).2
      exact (ih (n + 1)).mono fun d t _ _ h => ⟨.missing hmissing h.1, h.2⟩
    · obtain ⟨blanks, hlead⟩ := h
      exact absurd hs.symm hlead.head_ne

/-- How the texts of fields and members bear on the draft of a record: what a field reads from the
text of its value, and an invariant that the members so far and the draft stand in. -/
structure Means (record : Record σ α) (Reads : Field σ → σ → List Char → σ → Prop)
    (I : List (String × List Char) → σ → Prop) : Prop where
  read : ∀ field ∈ record.fields, ∀ d s, (field.read d).Splits s fun d' v _ => Reads field d v d'
  blanks : ∀ {field d d' s v}, Blanks s → Reads field d v d' → Reads field d (s ++ v) d'
  none : I [] record.blank
  skip : ∀ {ms d name v}, I ms d → (∀ field ∈ record.fields, field.name ≠ name) → IsValue v →
    I (ms ++ [(name, v)]) d
  give : ∀ {ms d field v d'}, I ms d → field ∈ record.fields → field.given d = false →
    Reads field d v d' → I (ms ++ [(field.name, v)]) d'

variable {Reads : Field σ → σ → List Char → σ → Prop} {I : List (String × List Char) → σ → Prop}

theorem Means.splits_inOrder (h : record.Means Reads I) {fields : List (Field σ)}
    (hfields : ∀ field ∈ fields, field ∈ record.fields) (n : Nat) :
    (record.inOrder fields n draft).Splits s fun d t _ =>
      ∃ items, Separated Eq (n = 0) items t ∧ Listed Reads fields items draft d := by
  induction fields generalizing n s draft with
  | nil => exact splits_pure ⟨[], .none blanks_nil, .nil draft⟩
  | cons field fields ih =>
    obtain ⟨hfield, hfields⟩ := List.forall_mem_cons.mp hfields
    refine (splits_hasItem _).bind ?_
    rintro (_ | _) t u - hitem
    · obtain ⟨ht, w, rfl⟩ := hitem
      refine splits_ite (fun h => absurd h Bool.false_ne_true) fun _ => ?_
      refine splits_ite (fun hmissing => ?_) fun _ => splits_fail _
      refine (splits_inOrder_end Reads fields n draft w).mono ?_
      rintro d t' - - ⟨hlisted, rfl⟩
      exact ⟨[], .none (by simpa using ht), .missing hmissing hlisted⟩
    · obtain ⟨blanks, hlead⟩ := hitem
      refine (h.read field hfield draft u).bind fun d v u' _ hv => ?_
      refine (ih hfields (n + 1)).mono ?_
      rintro d' t' - - ⟨items, hitems, hlisted⟩
      refine ⟨(blanks ++ v) :: items, ?_, .item (h.blanks hlead.blanks hv) hlisted⟩
      exact hlead.cons (s := v) rfl (by simpa using hitems)

theorem Means.splits_members (h : record.Means Reads I) {steps : Nat} (hsteps : s.length < steps) :
    (members (record.member steps) steps true record.blank).Splits s fun d t _ =>
      ∃ ms, Separated (IsMember Spelled) true ms t ∧ I ms d := by
  refine (Reader.splits_members ?_ true h.none hsteps (Nat.le_of_lt hsteps)).mono ?_
  · intro ms d name u hu hI
    refine splits_member (Q := fun v d' => I (ms ++ [(name, v)]) d') ?_ ?_ hu
    · exact fun hname v hv => h.skip hI hname hv
    · rintro field hfield rfl hgiven u'
      exact (h.read field hfield d u').mono fun d' v _ _ hv => h.give hI hfield hgiven hv
  · exact fun d t _ _ hms => hms

theorem splits_finish {r : Reader σ} {P : σ → List Char → Prop} (h : r.Splits s fun d t _ => P d t) :
    (r >>= fun d => record.finish d).Splits s
      fun a t _ => ∃ d, P d t ∧ record.make d = .ok a := by
  refine h.bind fun d t u _ hd => ?_
  dsimp only [finish]
  split
  · next a hmake => exact splits_pure ⟨d, by simpa using hd, hmake⟩
  · exact splits_fail _

/-- A record is read from an object or from a list, with blanks in front of it. -/
inductive IsRecord (record : Record σ α) (Reads : Field σ → σ → List Char → σ → Prop)
    (I : List (String × List Char) → σ → Prop) (a : α) : List Char → Prop where
  | object {before inside : List Char} {ms : List (String × List Char)} {d : σ}
      (hbefore : Blanks before) (hms : Separated (IsMember Spelled) true ms inside) (hd : I ms d)
      (ha : record.make d = .ok a) :
      IsRecord record Reads I a (before ++ '\x7b' :: (inside ++ ['\x7d']))
  | list {before inside : List Char} {items : List (List Char)} {d : σ} (hbefore : Blanks before)
      (hitems : Separated Eq true items inside) (hd : Listed Reads record.fields items record.blank d)
      (ha : record.make d = .ok a) :
      IsRecord record Reads I a (before ++ '[' :: (inside ++ [']']))

theorem Means.splits_read (h : record.Means Reads I) {steps : Nat} (hsteps : s.length ≤ steps) :
    (record.read steps).Splits s fun a t _ => IsRecord record Reads I a t := by
  refine (splits_nextBehindBlanks _).bind ?_
  rintro next before u hs ⟨hbefore, c, v, rfl, rfl⟩
  refine splits_ite (fun hc => ?_) fun _ => splits_ite (fun hc => ?_) fun _ =>
    (gives_wrongKind _).splits
  · obtain rfl := Option.some.inj hc
    have hitems : (record.inOrder record.fields 0 record.blank).Splits v _ :=
      h.splits_inOrder (fun _ h => h) 0
    refine splits_step_bind (splits_enclosed (splits_finish hitems) ?_)
    rintro a t u - ⟨d, ⟨items, hitems, hlisted⟩, ha⟩
    refine splits_closeList.mono ?_
    rintro - t' - - ⟨blanks, hblanks, rfl⟩
    simpa using IsRecord.list hbefore (hitems.append_blanks hblanks) hlisted ha
  · obtain rfl := Option.some.inj hc
    have hlength : v.length < steps := Nat.lt_of_lt_of_le (length_lt_of_append hs) hsteps
    refine splits_step_bind (splits_enclosed (splits_finish (h.splits_members hlength)) ?_)
    rintro a t u - ⟨d, ⟨ms, hms, hd⟩, ha⟩
    refine splits_closeObject.mono ?_
    rintro - t' - - ⟨blanks, hblanks, rfl⟩
    simpa using IsRecord.object hbefore (hms.append_blanks hblanks) hd ha

end Record

end ToastRelay
