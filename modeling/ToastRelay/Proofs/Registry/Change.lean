import ToastRelay.Proofs.Registration.File
import ToastRelay.Registry

/-!
# Changes of the registry

A registration is entered or removed by the same three moves: the new registrations are planned, the
store saves them, and they take the place of the old ones if it did. What is to be known about a
change follows from its plan and from two facts about stores: registrations that were saved are
loaded again, and a save that fails leaves what is loaded as it is.
-/

namespace ToastRelay
set_option autoImplicit false

def SaveMode.fault? : SaveMode → Option SaveFault
  | .succeed => none
  | .fail causes => some (.failed causes)
  | .crash => some .crashed

theorem MemoryStore.save_eq (m : MemoryStore) (next : Registrations) :
    m.save next = match m.mode.fault? with
      | none => (.ok (), { m with durable := next, saves := m.saves + 1 })
      | some f => (.error f, { m with saves := m.saves + 1 }) := by
  rw [save]
  cases m.mode <;> rfl

namespace Store

variable {store store' : Store} {next : Registrations}

theorem saved_memory {m : MemoryStore} (h : m.mode.fault? = none) (next : Registrations) :
    (memory m).save next = (.ok (), .memory { m with durable := next, saves := m.saves + 1 }) := by
  rw [save, MemoryStore.save_eq, h]

theorem saved_file {files files' : FileTree} {path : String}
    (h : RegistrationsFile.save files path next = (.ok (), files')) :
    (file files path).save next = (.ok (), .file files' path) := by
  rw [save, h]
  rfl

theorem saved_cases (h : store.save next = (.ok (), store')) :
    (∃ m, store = .memory m ∧ m.mode.fault? = none ∧
      store' = .memory { m with durable := next, saves := m.saves + 1 }) ∨
    ∃ files path files', store = .file files path ∧
      RegistrationsFile.save files path next = (.ok (), files') ∧ store' = .file files' path := by
  cases store with
  | memory m =>
    rw [save, MemoryStore.save_eq] at h
    cases hfault : m.mode.fault? with
    | none =>
      rw [hfault] at h
      cases h
      exact Or.inl ⟨m, rfl, hfault, rfl⟩
    | some f =>
      rw [hfault] at h
      cases h
  | file files path =>
    rw [save] at h
    rcases hsave : RegistrationsFile.save files path next with ⟨result, files'⟩
    rw [hsave] at h
    cases result with
    | error e => cases h
    | ok u =>
      cases h
      exact Or.inr ⟨files, path, files', rfl, hsave, rfl⟩

theorem load_of_saved (h : store.save next = (.ok (), store')) : store'.load = .ok next := by
  rcases saved_cases h with ⟨m, rfl, -, rfl⟩ | ⟨files, path, files', rfl, hsave, rfl⟩
  · rfl
  · exact RegistrationsFile.load_of_saved hsave

theorem load_of_not_saved {f : SaveFault} (h : store.save next = (.error f, store')) :
    store'.load = store.load := by
  cases store with
  | memory m =>
    rw [save, MemoryStore.save_eq] at h
    cases hfault : m.mode.fault? with
    | none =>
      rw [hfault] at h
      cases h
    | some f =>
      rw [hfault] at h
      cases h
      rfl
  | file files path =>
    rw [save] at h
    rcases hsave : RegistrationsFile.save files path next with ⟨result, files'⟩
    rw [hsave] at h
    cases result with
    | ok u => cases h
    | error e =>
      cases h
      exact RegistrationsFile.load_of_not_saved hsave

end Store

/-- What the registry can be asked to change. -/
inductive Change where
  | enter (registration : Registration)
  | remove (id : String)
  deriving DecidableEq

inductive Outcome where
  | entered
  | removed (registration : Registration)
  /-- There was nothing to remove. -/
  | absent
  | notSaved (f : SaveFault)
  deriving DecidableEq

def Outcome.isSaved : Outcome → Bool
  | .entered => true
  | .removed _ => true
  | _ => false

/-- The registrations that a change is to lead to, and its outcome once they are saved. -/
def Change.plan (rs : Registrations) : Change → Option (Outcome × Registrations)
  | .enter registration => some (.entered, rs.insert registration.id registration)
  | .remove id => (Registry.entryWithId? rs id).map fun (key, registration) =>
    (.removed registration, rs.erase key)

theorem Change.isSaved_of_plan {rs next : Registrations} {c : Change} {o : Outcome}
    (h : c.plan rs = some (o, next)) : o.isSaved = true := by
  cases c with
  | enter registration =>
    cases h
    rfl
  | remove id =>
    obtain ⟨e, -, he⟩ := Option.map_eq_some_iff.mp h
    cases he
    rfl

theorem Change.plan_remove {rs next : Registrations} {id : String} {o : Outcome}
    (h : (Change.remove id).plan rs = some (o, next)) :
    ∃ key registration, Registry.entryWithId? rs id = some (key, registration) ∧
      o = .removed registration ∧ next = rs.erase key := by
  obtain ⟨e, he, hplan⟩ := Option.map_eq_some_iff.mp h
  obtain ⟨ho, hnext⟩ := Prod.mk.inj hplan
  exact ⟨e.1, e.2, he, ho.symm, hnext.symm⟩

namespace Registry

variable {r : Registry} {c : Change}

theorem mem_of_entryWithId? {rs : Registrations} {id : String} {e : String × Registration}
    (h : entryWithId? rs id = some e) : e ∈ rs.entries ∧ e.2.id = id :=
  ⟨List.mem_of_find?_eq_some h, by simpa using List.find?_some h⟩

def make (r : Registry) : Change → Outcome × Registry
  | .enter registration =>
    match r.upsert registration with
    | (.ok (), r) => (.entered, r)
    | (.error f, r) => (.notSaved f, r)
  | .remove id =>
    match r.remove id with
    | (.ok none, r) => (.absent, r)
    | (.ok (some registration), r) => (.removed registration, r)
    | (.error f, r) => (.notSaved f, r)

/-- A change with nothing to do does nothing, and every other one saves its plan. -/
theorem make_eq (r : Registry) (c : Change) :
    r.make c = match c.plan r.registrations with
      | none => (.absent, r)
      | some (outcome, next) =>
        match r.commit next with
        | (.ok (), r) => (outcome, r)
        | (.error f, r) => (.notSaved f, r) := by
  cases c with
  | enter registration => rfl
  | remove id =>
    simp only [make, remove, Change.plan]
    cases entryWithId? r.registrations id with
    | none => rfl
    | some e =>
      obtain ⟨key, registration⟩ := e
      simp only [Option.map_some]
      cases r.commit (r.registrations.erase key) with
      | mk result r' => cases result <;> rfl

theorem make_cases (r : Registry) (c : Change) :
    (c.plan r.registrations = none ∧ r.make c = (.absent, r)) ∨
    (∃ outcome next store, c.plan r.registrations = some (outcome, next) ∧
      r.store.save next = (.ok (), store) ∧ r.make c = (outcome, ⟨next, store⟩)) ∨
    (∃ outcome next f store, c.plan r.registrations = some (outcome, next) ∧
      r.store.save next = (.error f, store) ∧
      r.make c = (.notSaved f, ⟨r.registrations, store⟩)) := by
  rw [make_eq]
  cases hplan : c.plan r.registrations with
  | none => exact Or.inl ⟨rfl, rfl⟩
  | some p =>
    obtain ⟨outcome, next⟩ := p
    refine Or.inr ?_
    rcases hsave : r.store.save next with ⟨result, store⟩
    cases result with
    | ok u => exact Or.inl ⟨outcome, next, store, rfl, hsave, by simp only [commit, hsave]⟩
    | error f => exact Or.inr ⟨outcome, next, f, store, rfl, hsave, by simp only [commit, hsave]⟩

theorem plan_of_isSaved (h : (r.make c).1.isSaved = true) :
    c.plan r.registrations = some ((r.make c).1, (r.make c).2.registrations) := by
  rcases r.make_cases c with ⟨_, hmake⟩ | ⟨outcome, next, store, hplan, _, hmake⟩ |
    ⟨outcome, next, f, store, _, _, hmake⟩
  · rw [hmake] at h
    cases h
  · rw [hmake, hplan]
  · rw [hmake] at h
    cases h

theorem kept_of_not_isSaved (h : (r.make c).1.isSaved = false) :
    (r.make c).2.registrations = r.registrations ∧ (r.make c).2.store.load = r.store.load := by
  rcases r.make_cases c with ⟨_, hmake⟩ | ⟨outcome, next, store, hplan, _, hmake⟩ |
    ⟨outcome, next, f, store, _, hsave, hmake⟩
  · rw [hmake]
    exact ⟨rfl, rfl⟩
  · rw [hmake, Change.isSaved_of_plan hplan] at h
    cases h
  · rw [hmake]
    exact ⟨rfl, Store.load_of_not_saved hsave⟩

/-- The store holds the registrations of the registry. -/
def Synced (r : Registry) : Prop := r.store.load = .ok r.registrations

theorem synced_of_load {store : Store} (h : load store = .ok r) : r.Synced ∧ r.store = store := by
  rw [load] at h
  cases hload : store.load with
  | error e => rw [hload] at h; cases h
  | ok registrations =>
    rw [hload] at h
    cases h
    exact ⟨hload, rfl⟩

theorem Synced.load (h : r.Synced) : Registry.load r.store = .ok r := by
  rw [Registry.load, show r.store.load = .ok r.registrations from h]
  rfl

theorem synced_of_isSaved (h : (r.make c).1.isSaved = true) : (r.make c).2.Synced := by
  rcases r.make_cases c with ⟨_, hmake⟩ | ⟨outcome, next, store, _, hsave, hmake⟩ |
    ⟨outcome, next, f, store, _, _, hmake⟩
  · rw [hmake] at h
    cases h
  · rw [hmake]
    exact Store.load_of_saved hsave
  · rw [hmake] at h
    cases h

theorem Synced.make (h : r.Synced) (c : Change) : (r.make c).2.Synced := by
  cases hsaved : (r.make c).1.isSaved with
  | true => exact synced_of_isSaved hsaved
  | false =>
    obtain ⟨hkept, hload⟩ := kept_of_not_isSaved hsaved
    rw [Synced, hkept, hload]
    exact h

end Registry

end ToastRelay
