import Mathlib.Data.List.Basic
import ToastRelay.Proofs.Dictionary
import ToastRelay.Proofs.Registry.Change

/-!
# Who carries an identifier

An identifier can be carried by several registrations, since a loaded file may keep a registration
under any key. Entering a registration puts it under its identifier as key and leaves every other
key alone; removing an identifier takes away the first registration that carries it. Both make the
best of it when every registration is kept under the identifier that it carries.
-/

namespace ToastRelay
set_option autoImplicit false

namespace Registrations

variable {rs : Registrations} {id : String} {e : String × Registration}

/-- The entries whose registrations carry an identifier. -/
def carriers (rs : Registrations) (id : String) : List (String × Registration) :=
  rs.entries.filter (·.2.id = id)

/-- Every registration is kept under the identifier that it carries. -/
def WellKeyed (rs : Registrations) : Prop := ∀ e ∈ rs.entries, e.1 = e.2.id

theorem mem_carriers_iff : e ∈ rs.carriers id ↔ e ∈ rs.entries ∧ e.2.id = id := by
  rw [carriers, List.mem_filter, decide_eq_true_eq]

theorem carriers_eq_nil_iff : rs.carriers id = [] ↔ ∀ e ∈ rs.entries, e.2.id ≠ id := by
  rw [carriers, List.filter_eq_nil_iff]
  simp

theorem filter_eraseP {α : Type} (p : α → Bool) (l : List α) :
    (l.eraseP p).filter p = (l.filter p).tail := by
  induction l with
  | nil => rfl
  | cons a l ih =>
    by_cases hp : p a = true
    · rw [List.eraseP_cons_of_pos hp, List.filter_cons_of_pos hp, List.tail_cons]
    · rw [List.eraseP_cons_of_neg hp, List.filter_cons_of_neg hp, List.filter_cons_of_neg hp, ih]

/-- Removing an identifier takes away the first of its carriers. -/
theorem carriers_erase (h : Registry.entryWithId? rs id = some e) :
    Registrations.carriers (rs.erase e.1) id = (rs.carriers id).tail := by
  have hentries : (rs.erase e.1).entries = rs.entries.eraseP (·.2.id = id) :=
    Dictionary.erase_find? h
  rw [carriers, hentries]
  exact filter_eraseP _ _

theorem carriers_eq_singleton_iff :
    rs.carriers id = [e] ↔ e ∈ rs.carriers id ∧ ∀ e' ∈ rs.carriers id, e' = e := by
  have hascending : Ascending (rs.carriers id) := rs.ascending.filter _
  revert hascending
  generalize rs.carriers id = entries
  intro hascending
  constructor
  · rintro rfl
    simp
  · rintro ⟨he, hall⟩
    cases entries with
    | nil => exact absurd he List.not_mem_nil
    | cons a entries =>
      obtain ⟨rfl, hentries⟩ := List.forall_mem_cons.mp hall
      cases entries with
      | nil => rfl
      | cons b entries =>
        have hlt : a.1 < b.1 := (List.pairwise_cons.mp hascending).1 b List.mem_cons_self
        rw [hentries b List.mem_cons_self] at hlt
        exact absurd hlt (String.lt_irrefl _)

theorem WellKeyed.carriers (h : rs.WellKeyed) (he : e ∈ rs.carriers id) :
    rs.carriers id = [e] := by
  refine carriers_eq_singleton_iff.mpr ⟨he, fun e' he' => ?_⟩
  obtain ⟨hmem, hid⟩ := mem_carriers_iff.mp he
  obtain ⟨hmem', hid'⟩ := mem_carriers_iff.mp he'
  apply Dictionary.eq_of_mem hmem' hmem
  rw [h e' hmem', h e hmem, hid', hid]

theorem entryWithId?_eq_none_iff : Registry.entryWithId? rs id = none ↔ rs.carriers id = [] := by
  rw [carriers_eq_nil_iff, Registry.entryWithId?, List.find?_eq_none]
  simp

theorem plan_remove_eq_none_iff : (Change.remove id).plan rs = none ↔ rs.carriers id = [] := by
  rw [Change.plan, Option.map_eq_none_iff, entryWithId?_eq_none_iff]

variable {c : Change} {o : Outcome} {next : Registrations}

theorem WellKeyed.plan (h : rs.WellKeyed) (hplan : c.plan rs = some (o, next)) :
    next.WellKeyed := by
  cases c with
  | enter registration =>
    obtain ⟨-, rfl⟩ := Prod.mk.inj (Option.some.inj hplan)
    intro e he
    rcases Dictionary.mem_insert_iff.mp he with rfl | ⟨_, he⟩
    · rfl
    · exact h e he
  | remove id =>
    obtain ⟨key, registration, -, -, rfl⟩ := Change.plan_remove hplan
    exact fun e he => h e (Dictionary.mem_erase_iff.mp he).2

theorem carriers_plan_eq_nil (h : rs.carriers id = [])
    (hc : ∀ registration, c = .enter registration → registration.id ≠ id)
    (hplan : c.plan rs = some (o, next)) : next.carriers id = [] := by
  rw [carriers_eq_nil_iff] at h ⊢
  cases c with
  | enter registration =>
    obtain ⟨-, rfl⟩ := Prod.mk.inj (Option.some.inj hplan)
    intro e he
    rcases Dictionary.mem_insert_iff.mp he with rfl | ⟨_, he⟩
    · exact hc registration rfl
    · exact h e he
  | remove id' =>
    obtain ⟨key, registration, -, -, rfl⟩ := Change.plan_remove hplan
    exact fun e he => h e (Dictionary.mem_erase_iff.mp he).2

end Registrations

end ToastRelay
