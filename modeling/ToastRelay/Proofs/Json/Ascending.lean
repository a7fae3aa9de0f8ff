import ToastRelay.Proofs.Json.Naturals

/-!
# Objects that are read

Every member that is read is put where its name belongs, in place of one with the same name. So the
members of all objects in a value that was read ascend, and each of these objects is a dictionary.
-/

namespace ToastRelay
set_option autoImplicit false

namespace Reader

variable {α σ : Type} {P : σ → Prop}

theorem exists_of_enclosed_eq_ok {inside : Reader α} {close : Reader Unit} {a : α} {c c' : Cursor}
    (h : enclosed inside close c = .ok a c') :
    ∃ c₁, inside c = .ok a c₁ ∧ close c₁ = .ok () c' := by
  rw [enclosed] at h
  cases hinside : inside c with
  | ok b c₁ =>
    rw [hinside] at h
    dsimp only at h
    cases hclose : close c₁ with
    | ok u c₂ =>
      rw [hclose] at h
      cases h
      exact ⟨c₁, rfl, hclose⟩
    | error e c₂ =>
      rw [hclose] at h
      cases h
  | error e c₁ =>
    rw [hinside] at h
    dsimp only at h
    split at h
    · cases h
    · split at h
      · cases h
      · cases h

theorem gives_enclosed {P : α → Prop} {inside : Reader α} (h : Gives P inside)
    (close : Reader Unit) : Gives P (enclosed inside close) := by
  intro c a c' hok
  obtain ⟨c₁, hinside, -⟩ := exists_of_enclosed_eq_ok hok
  exact h c a c₁ hinside

theorem gives_bind_of {β : Type} {P : α → Prop} {Q : β → Prop} {r : Reader β} {f : β → Reader α}
    (hr : Gives Q r) (hf : ∀ b, Q b → Gives P (f b)) : Gives P (r >>= f) := by
  intro c a c' hok
  obtain ⟨b, c₁, hb, hok⟩ := exists_of_bind_eq_ok hok
  exact hf b (hr c b c₁ hb) c₁ a c' hok

theorem gives_members {member : String → σ → Reader σ}
    (h : ∀ name s, P s → Gives P (member name s)) (steps : Nat) (first : Bool) {s : σ} (hs : P s) :
    Gives P (members member steps first s) := by
  induction steps generalizing first s with
  | zero => exact gives_pure hs
  | succ steps ih =>
    refine gives_bind fun name => ?_
    cases name with
    | none => exact gives_pure hs
    | some name => exact gives_bind_of (h name s hs) fun s' hs' => ih false hs'

theorem gives_items {item : σ → Reader σ} (h : ∀ s, P s → Gives P (item s)) (steps : Nat)
    (first : Bool) {s : σ} (hs : P s) : Gives P (items item steps first s) := by
  induction steps generalizing first s with
  | zero => exact gives_pure hs
  | succ steps ih =>
    refine gives_bind fun more => ?_
    split
    · exact gives_bind_of (h s hs) fun s' hs' => ih false hs'
    · exact gives_pure hs

end Reader

/-- The members of all objects in a value ascend. -/
inductive Json.Ascends : Json → Prop where
  | null : Ascends .null
  | bool (b : Bool) : Ascends (.bool b)
  | number (n : JsonNumber) : Ascends (.number n)
  | string (s : String) : Ascends (.string s)
  | array {vs : List Json} (items : ∀ v ∈ vs, Ascends v) : Ascends (.array vs)
  | object {ms : List (String × Json)} (ascending : Ascending ms)
      (members : ∀ e ∈ ms, Ascends e.2) : Ascends (.object ms)

namespace Reader

theorem gives_value (steps depth : Nat) : Gives Json.Ascends (value steps depth) := by
  induction depth with
  | zero => exact gives_failNext _
  | succ depth ih =>
    refine gives_bind fun next => ?_
    split
    · exact gives_bind fun _ => gives_bind fun _ => gives_pure .null
    · exact gives_bind fun _ => gives_bind fun _ => gives_pure (.bool true)
    · exact gives_bind fun _ => gives_bind fun _ => gives_pure (.bool false)
    · exact gives_bind fun _ => gives_bind fun n => gives_pure (.number n)
    · exact gives_bind fun _ => gives_bind fun s => gives_pure (.string s)
    · split
      · exact gives_failNext _
      · have hitems : Gives (fun found : List Json => ∀ v ∈ found, v.Ascends)
            (items (fun found => do return (← value steps depth) :: found) steps true []) := by
          refine gives_items (fun found hfound => ?_) steps true (by simp)
          exact gives_bind_of ih fun v hv => gives_pure (List.forall_mem_cons.mpr ⟨hv, hfound⟩)
        refine gives_bind_of (gives_bind fun _ => gives_enclosed hitems closeList) fun found h => ?_
        exact gives_pure (.array fun v hv => h v (List.mem_reverse.mp hv))
    · split
      · exact gives_failNext _
      · have hmembers : Gives (fun found => Ascending found ∧ ∀ e ∈ found, e.2.Ascends)
            (members (fun name found => do
              colon
              return insertEntry name (← value steps depth) found) steps true []) := by
          refine gives_members (fun name found hfound => ?_) steps true ⟨.nil, by simp⟩
          refine gives_bind fun _ => gives_bind_of ih fun v hv => gives_pure ?_
          refine ⟨ascending_insertEntry hfound.1 name v, fun e he => ?_⟩
          rcases mem_insertEntry he with rfl | he
          · exact hv
          · exact hfound.2 e he
        refine gives_bind_of (gives_bind fun _ => gives_enclosed hmembers closeObject)
          fun found h => ?_
        exact gives_pure (.object h.1 h.2)
    · split
      · exact gives_bind fun n => gives_pure (.number n)
      · exact gives_failNext _

end Reader

theorem Json.ascends_of_ofBytes {bytes : Bytes} {v : Json} (h : Json.ofBytes bytes = .ok v) :
    v.Ascends := by
  obtain ⟨c, -, hvalue, -⟩ := Reader.exists_of_whole h
  exact Reader.gives_value _ _ _ _ _ hvalue

theorem Json.exists_dictionary_of_ofBytes {bytes : Bytes} {members : List (String × Json)}
    (h : Json.ofBytes bytes = .ok (.object members)) :
    ∃ d : Dictionary Json, d.entries = members := by
  cases Json.ascends_of_ofBytes h with
  | object ascending _ => exact ⟨⟨members, ascending⟩, rfl⟩

end ToastRelay
