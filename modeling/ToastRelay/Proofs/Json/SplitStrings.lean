import ToastRelay.Proofs.Json.Splits
import ToastRelay.Proofs.Json.Strings

/-!
# Which strings a reader accepts

A string that is read is spelled by the characters up to its closing quotation mark, and a string
that is passed over has such characters as a string may have.
-/

namespace ToastRelay
set_option autoImplicit false

open Json Text

namespace Cursor

variable {s : List Char} {p : Position}

theorem letterEscapes_of_plainEscape {c d : Char} (h : plainEscape c = some d) :
    (c, d) ∈ letterEscapes := by
  unfold plainEscape at h
  repeat' split at h
  all_goals first
    | subst_vars; cases h; decide
    | cases h

theorem badDigits_ne_ok {position : Position} {ps : List Piece} {n : Nat} :
    fourDigits.badDigits position ps ≠ .ok n := by
  unfold fourDigits.badDigits
  split
  · exact fun h => nomatch h
  · exact fun h => nomatch h

theorem exists_of_fourDigits {n : Nat} (h : fourDigits p (s.map .char) = .ok n) :
    ∃ digits u, s = digits ++ u ∧ IsFourDigits digits ∧ n = numberOf 16 digits := by
  unfold fourDigits at h
  split at h
  · next a b c d r hs =>
    split at h
    · next hdigits =>
      cases h
      obtain ⟨digits, u, rfl, hd, -⟩ := List.map_eq_append_iff.mp
        (show s.map Piece.char = [a, b, c, d].map Piece.char ++ r from hs)
      obtain rfl : digits = [a, b, c, d] :=
        (List.map_inj_right fun _ _ h => Piece.char.inj h).mp hd
      refine ⟨_, u, rfl, ⟨rfl, ?_⟩, rfl⟩
      simpa [and_assoc] using hdigits
    · exact absurd h badDigits_ne_ok
  · exact absurd h badDigits_ne_ok

theorem exists_of_numberEscape {c : Char} {n : Nat}
    (h : numberEscape p (s.map .char) = .ok (c, n)) :
    ∃ t u, s = t ++ u ∧ t.length = n ∧ Spells c ('\\' :: 'u' :: t) := by
  unfold numberEscape at h
  simp only [bind, Except.bind] at h
  split at h
  · cases h
  next high hhigh =>
  obtain ⟨digits, u, rfl, hdigits, rfl⟩ := exists_of_fourDigits hhigh
  split at h
  · cases h
  next hlone =>
  simp only [Bool.and_eq_true, decide_eq_true_eq, not_and, Nat.not_le] at hlone
  split at h
  · next hsingle =>
    simp only [Bool.or_eq_true, decide_eq_true_eq] at hsingle
    cases h
    exact ⟨digits, u, rfl, hdigits.1, .number hdigits (by omega)⟩
  next hpair =>
  simp only [Bool.or_eq_true, decide_eq_true_eq, not_or, Nat.not_lt] at hpair
  rw [List.map_append, ← hdigits.1, ← List.length_map (f := Piece.char), List.drop_left] at h
  split at h
  · next rest hu =>
    obtain ⟨marks, u, rfl, hmarks, rfl⟩ := List.map_eq_append_iff.mp
      (show u.map Piece.char = ['\\', 'u'].map Piece.char ++ rest from hu)
    obtain rfl := (List.map_inj_right fun _ _ h => Piece.char.inj h).mp hmarks
    split at h
    · cases h
    next low hlow =>
    obtain ⟨digits', u, rfl, hdigits', rfl⟩ := exists_of_fourDigits hlow
    split at h
    · cases h
    next hsecond =>
    simp only [Bool.or_eq_true, decide_eq_true_eq, not_or, Nat.not_lt] at hsecond
    obtain ⟨rfl, rfl⟩ := Prod.mk.inj (Except.ok.inj h)
    refine ⟨digits ++ '\\' :: 'u' :: digits', u, by simp, ?_, ?_⟩
    · simp [hdigits.1, hdigits'.1]
    · exact .pair hdigits hdigits' (by omega) (by omega)
  all_goals cases h

theorem exists_of_escape {c : Char} {n : Nat} (h : escape p (s.map .char) = .ok (c, n)) :
    ∃ t u, s = t ++ u ∧ t.length = n ∧ Spells c ('\\' :: t) := by
  unfold escape at h
  split at h
  · cases h
  · next r hs =>
    obtain ⟨a, s, rfl, ha, rfl⟩ := List.map_eq_cons_iff.mp hs
    obtain rfl := Piece.char.inj ha
    cases hnumber : numberEscape (p.after (.char 'u')) (s.map .char) with
    | error e =>
      rw [hnumber] at h
      cases h
    | ok found =>
      obtain ⟨t, u, rfl, hlength, hspells⟩ := exists_of_numberEscape hnumber
      rw [hnumber] at h
      cases h
      exact ⟨'u' :: t, u, rfl, congrArg (· + 1) hlength, hspells⟩
  · next a r _ hs =>
    obtain ⟨b, s, rfl, hb, rfl⟩ := List.map_eq_cons_iff.mp hs
    obtain rfl := Piece.char.inj hb
    split at h
    · next d hd =>
      cases h
      exact ⟨[b], s, rfl, rfl, .letter (letterEscapes_of_plainEscape hd)⟩
    · cases h
  · cases h

theorem exists_of_escapeLength {n : Nat} (h : escapeLength p (s.map .char) = .ok n) :
    ∃ t u, s = t ++ u ∧ t.length = n ∧
      ∀ v, IsStringBody v → IsStringBody ('\\' :: (t ++ v)) := by
  unfold escapeLength at h
  split at h
  · next r hs =>
    obtain ⟨a, s, rfl, ha, rfl⟩ := List.map_eq_cons_iff.mp hs
    obtain rfl := Piece.char.inj ha
    cases hdigits : fourDigits (p.after (.char 'u')) (s.map .char) with
    | error e =>
      rw [hdigits] at h
      cases h
    | ok number =>
      obtain ⟨digits, u, rfl, hfour, -⟩ := exists_of_fourDigits hdigits
      rw [hdigits] at h
      cases h
      exact ⟨'u' :: digits, u, rfl, congrArg (· + 1) hfour.1, fun v hv => .number hfour hv⟩
  · cases hescape : escape p (s.map .char) with
    | error e =>
      rw [hescape] at h
      cases h
    | ok found =>
      obtain ⟨t, u, rfl, hlength, hspells⟩ := exists_of_escape hescape
      rw [hescape] at h
      cases h
      exact ⟨t, u, rfl, hlength, fun v hv => hspells.append hv⟩

/-- A string that is read is spelled up to its closing quotation mark. -/
theorem exists_of_stringFrom {found : List Char} {string : String} {c : Cursor}
    (h : stringFrom 0 found true p (s.map .char) = .ok string c) :
    ∃ body u cs, s = body ++ '"' :: u ∧ SpellsAll cs body ∧
      string = String.ofList (found.reverse ++ cs) ∧ ∃ q, c = ⟨q, u.map .char⟩ := by
  induction hlength : s.length using Nat.strongRecOn generalizing s found p with
  | ind length ih =>
    subst hlength
    cases s with
    | nil => cases h
    | cons a s =>
      rw [List.map_cons, stringFrom, if_neg (Nat.lt_irrefl 0)] at h
      split at h
      · next ha =>
        cases h
        exact ⟨[], s, [], by rw [ha]; rfl, .nil, by rw [List.append_nil], _, rfl⟩
      · next hquote =>
        split at h
        · next ha =>
          -- The text of an escape is passed over, and the reading goes on behind it.
          split at h
          · next d n hescape =>
            obtain ⟨t, u, rfl, rfl, hspells⟩ := exists_of_escape hescape
            obtain ⟨q, hq⟩ := stringFrom_skip t u (d :: found) (p.after (.char a))
            rw [hq] at h
            obtain ⟨body, v, cs, rfl, hcs, rfl, hc⟩ := ih u.length
              (Nat.lt_succ_of_le (Reader.length_le_of_append rfl)) h rfl
            exact ⟨'\\' :: (t ++ body), v, d :: cs, by simp [ha], .cons hspells hcs, by simp, hc⟩
          · cases h
        · next hbackslash =>
          split at h
          · cases h
          · next hcontrol =>
            obtain ⟨body, v, cs, rfl, hcs, rfl, hc⟩ := ih s.length (by simp) h rfl
            have hplain : IsPlain a := ⟨hquote, hbackslash, Nat.le_of_not_lt hcontrol⟩
            exact ⟨a :: body, v, a :: cs, rfl, .cons (.plain hplain) hcs, by simp, hc⟩

theorem skipStringFrom_skip (s t : List Char) (p : Position) :
    ∃ q, skipStringFrom s.length p ((s ++ t).map .char) = skipStringFrom 0 q (t.map .char) := by
  induction s generalizing p with
  | nil => exact ⟨p, rfl⟩
  | cons c s ih =>
    obtain ⟨q, hq⟩ := ih (p.after (.char c))
    refine ⟨q, ?_⟩
    rw [← hq]
    simp [skipStringFrom]

theorem exists_of_skipStringFrom {a : Unit} {c : Cursor}
    (h : skipStringFrom 0 p (s.map .char) = .ok a c) :
    ∃ body u, s = body ++ '"' :: u ∧ IsStringBody body ∧ ∃ q, c = ⟨q, u.map .char⟩ := by
  induction hlength : s.length using Nat.strongRecOn generalizing s p with
  | ind length ih =>
    subst hlength
    cases s with
    | nil => cases h
    | cons a s =>
      rw [List.map_cons, skipStringFrom, if_neg (Nat.lt_irrefl 0)] at h
      split at h
      · next ha =>
        cases h
        exact ⟨[], s, by rw [ha]; rfl, .nil, _, rfl⟩
      · next hquote =>
        split at h
        · next ha =>
          split at h
          · next n hescape =>
            obtain ⟨t, u, rfl, rfl, hbody⟩ := exists_of_escapeLength hescape
            obtain ⟨q, hq⟩ := skipStringFrom_skip t u (p.after (.char a))
            rw [hq] at h
            obtain ⟨body, v, rfl, hv, hc⟩ := ih u.length
              (Nat.lt_succ_of_le (Reader.length_le_of_append rfl)) h rfl
            exact ⟨'\\' :: (t ++ body), v, by simp [ha], hbody body hv, hc⟩
          · cases h
        · next hbackslash =>
          split at h
          · cases h
          · next hcontrol =>
            obtain ⟨body, v, rfl, hv, hc⟩ := ih s.length (by simp) h rfl
            have hplain : IsPlain a := ⟨hquote, hbackslash, Nat.le_of_not_lt hcontrol⟩
            exact ⟨a :: body, v, rfl, .plain hplain hv, hc⟩

end Cursor

namespace Reader

variable {s : List Char}

theorem splits_stringBody : stringBody.Splits s fun string t _ =>
    ∃ body, Spelled string body ∧ t = body ++ ['"'] := by
  intro p string c h
  obtain ⟨body, u, cs, rfl, hcs, rfl, hc⟩ := Cursor.exists_of_stringFrom h
  refine ⟨body ++ ['"'], u, by simp, ⟨body, ?_, rfl⟩, hc⟩
  simpa [Spelled] using hcs

theorem splits_skipStringBody : skipStringBody.Splits s fun _ t _ =>
    ∃ body, IsStringBody body ∧ t = body ++ ['"'] := by
  intro p a c h
  obtain ⟨body, u, rfl, hbody, hc⟩ := Cursor.exists_of_skipStringFrom h
  exact ⟨body ++ ['"'], u, by simp, ⟨body, hbody, rfl⟩, hc⟩

/-- What is read up to the end of a member's name, or to the end of the members. -/
def UpToName (first : Bool) : Option String → List Char → Prop
  | none, t => Blanks t
  | some name, t => ∃ lead blanks body, Lead first lead blanks ∧ Spelled name body ∧
    t = lead ++ '"' :: (body ++ ['"'])

theorem splits_name {first : Bool} {lead blanks : List Char} (hlead : Lead first lead blanks)
    (c : Char) : (if some c = some '"' then do step; some <$> stringBody
      else if some c = some '\x7d' then failNext .trailingComma
      else failNext .keyNotString : Reader (Option String)).Splits (c :: s)
        fun name? t _ => UpToName first name? (lead ++ t) := by
  refine splits_ite (fun hc => ?_) fun _ => splits_ite (fun _ => splits_failNext _) fun _ =>
    splits_failNext _
  obtain rfl := Option.some.inj hc
  refine splits_step_bind (splits_stringBody.map ?_)
  rintro name t u - ⟨body, hbody, rfl⟩
  exact ⟨lead, blanks, body, hlead, hbody, rfl⟩

theorem splits_memberName (first : Bool) :
    (memberName first).Splits s fun name? t _ => UpToName first name? t := by
  refine (splits_nextBehindBlanks _).bind ?_
  rintro next t u - ⟨ht, c, v, rfl, rfl⟩
  have hnone : UpToName first none (t ++ []) := by simpa [UpToName] using ht
  refine splits_ite (fun _ => splits_pure hnone) fun _ => ?_
  cases first with
  | true => exact splits_name (.first ht) c
  | false =>
    refine splits_ite (fun h => absurd h Bool.false_ne_true) fun _ => ?_
    refine splits_ite (fun hc => ?_) fun _ => splits_failNext_bind _
    obtain rfl := Option.some.inj hc
    refine splits_step_bind ((splits_nextBehindBlanks _).bind ?_)
    rintro next t' u - ⟨ht', d, v, rfl, rfl⟩
    refine (splits_name (.next ht ht') d).mono ?_
    intro name? t'' u' _ hname
    simpa using hname

end Reader

end ToastRelay
