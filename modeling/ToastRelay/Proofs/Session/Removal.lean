import ToastRelay.Proofs.Registry.Carriers
import ToastRelay.Proofs.Session.Run

/-!
# Removing an identifier

A removal takes away the first registration that carries the identifier, and no other. The
identifier is gone when that was the only one, as it always is if the registrations that were loaded
are kept under the identifiers that they carry; a file that keeps a second one under another key
leaves it in place. An identifier that is gone stays so, and no toast goes out for it, until it is
entered again.
-/

namespace ToastRelay
set_option autoImplicit false

namespace Session

variable {s : Session} {xs : List SessionStep} {id : String}

theorem wellKeyed_run (hs : s.service.registry.Synced)
    (hkeys : s.service.registry.registrations.WellKeyed) (hxs : ∀ x ∈ xs, x.isEdit = false) :
    (s.run xs).service.registry.registrations.WellKeyed := by
  apply registrations_run (P := Registrations.WellKeyed) hs hkeys hxs
  intro x _ c rs o next _ hplan hrs
  exact hrs.plan hplan

theorem carriers_run_eq_nil (hs : s.service.registry.Synced)
    (hnone : s.service.registry.registrations.carriers id = [])
    (hxs : ∀ x ∈ xs, x.isEdit = false)
    (hid : ∀ x ∈ xs, ∀ registration, x.change? = some (.enter registration) →
      registration.id ≠ id) : (s.run xs).service.registry.registrations.carriers id = [] := by
  apply registrations_run (P := fun rs => rs.carriers id = []) hs hnone hxs
  intro x hx c rs o next hchange hplan hrs
  refine Registrations.carriers_plan_eq_nil hrs ?_ hplan
  rintro registration rfl
  exact hid x hx registration hchange

theorem result_of_carriers_eq_nil {x : SessionStep} (hx : x.change? = some (.remove id))
    (hnone : s.service.registry.registrations.carriers id = []) :
    (s.step x).1 = x.report .absent := by
  rw [result_step hx, Registry.make_eq, Registrations.plan_remove_eq_none_iff.mpr hnone]

theorem toast_of_carriers_eq_nil (hnone : s.service.registry.registrations.carriers id = [])
    {x : SessionStep} {o : Outgoing} (ho : o ∈ (s.step x).2.surroundings.received)
    (htoast : o.notificationType = some "wns/toast") :
    ∃ e ∈ s.service.registry.registrations.entries,
      e.2.id ≠ id ∧ Web.Uri.ofText e.2.channel = .ok o.uri := by
  obtain ⟨e, he, huri⟩ := toChannelOf_of_received s x o ho htoast
  exact ⟨e, he, Registrations.carriers_eq_nil_iff.mp hnone e he, huri⟩

end Session

/-- A reported removal takes away the first carrier and nothing else. If none is left, the
identifier is gone until it is entered again. -/
theorem removal_takes_first_carrier {settings : Settings} {store : Store}
    {surroundings : Surroundings} {s₀ : Session}
    (h : Session.start settings store surroundings = .ok s₀) (xs : List SessionStep)
    {x : SessionStep} {id : String} {removed : Registration}
    (hx : x.change? = some (.remove id))
    (hresult : ((s₀.run xs).step x).1 = x.report (.removed removed)) :
    let before := (s₀.run xs).service.registry.registrations
    let s := ((s₀.run xs).step x).2
    let after := s.service.registry.registrations
    before.carriers id ≠ [] ∧
    after.entries = before.entries.eraseP (fun e => e.2.id = id) ∧
    after.carriers id = (before.carriers id).tail ∧
    (after.carriers id = [] ↔ (before.carriers id).length = 1) ∧
    (s₀.service.registry.registrations.WellKeyed → (∀ y ∈ xs, y.isEdit = false) →
      after.carriers id = []) ∧
    (after.carriers id = [] → ∀ ys, (∀ y ∈ ys, y.isEdit = false) →
      (∀ y ∈ ys, ∀ registration, y.change? = some (.enter registration) →
        registration.id ≠ id) →
      let t := s.run ys
      t.service.registry.registrations.carriers id = [] ∧
      (∀ y, y.change? = some (.remove id) → (t.step y).1 = y.report .absent) ∧
      ∀ y, ∀ o ∈ (t.step y).2.surroundings.received, o.notificationType = some "wns/toast" →
        ∃ e ∈ t.service.registry.registrations.entries,
          e.2.id ≠ id ∧ Web.Uri.ofText e.2.channel = .ok o.uri) := by
  intro before s after
  -- The removal was saved, so the registry is synced again, whatever was done to the files before.
  obtain ⟨hsynced, e, hentry, hafter⟩ := Session.registrations_of_removed hx hresult
  have hmem : e ∈ before.carriers id :=
    Registrations.mem_carriers_iff.mpr (Registry.mem_of_entryWithId? hentry)
  have htail : after.carriers id = (before.carriers id).tail := by
    change Registrations.carriers (Session.step _ _).2.service.registry.registrations id = _
    rw [hafter]
    exact Registrations.carriers_erase hentry
  have hne : before.carriers id ≠ [] := List.ne_nil_of_mem hmem
  refine ⟨hne, ?_, htail, ?_, ?_, ?_⟩
  · change (Session.step _ _).2.service.registry.registrations.entries = _
    rw [hafter]
    exact Dictionary.erase_find? hentry
  · rw [htail]
    cases hcarriers : before.carriers id with
    | nil => exact absurd hcarriers hne
    | cons a carriers => simp
  · intro hkeys hxs
    have hsynced₀ := (Registry.synced_of_load (Session.start_eq_ok h)).1
    rw [htail, (Session.wellKeyed_run hsynced₀ hkeys hxs).carriers hmem, List.tail_cons]
  · intro hnone ys hys hid
    have hnone' := Session.carriers_run_eq_nil hsynced hnone hys hid
    refine ⟨hnone', ?_, ?_⟩
    · intro y hy
      exact Session.result_of_carriers_eq_nil hy hnone'
    · intro y o ho htoast
      exact Session.toast_of_carriers_eq_nil hnone' ho htoast

def twoDevices : Registrations := Dictionary.ofList
  [("dev", ⟨"dev", "https://wns.example/1", none, none⟩),
    ("other", ⟨"other", "https://wns.example/2", some 7, some "PC"⟩)]

theorem entries_twoDevices : twoDevices.entries =
    [("dev", ⟨"dev", "https://wns.example/1", none, none⟩),
      ("other", ⟨"other", "https://wns.example/2", some 7, some "PC"⟩)] :=
  Dictionary.entries_ofList_of_ascending (List.pairwise_pair.mpr (by decide))

/-- A device that is removed does not come back by itself, and the other one stays. -/
theorem removal_takes_first_carrier_single :
    let store : Store := .memory ⟨twoDevices, 0, .succeed⟩
    ∀ settings surroundings, ∃ s, Session.start settings store surroundings = .ok s ∧
      (s.step (.remove "dev")).1 = .found (some ⟨"dev", "https://wns.example/1", none, none⟩) ∧
      (s.step (.remove "dev")).2.service.registry.registrations.entries =
        [("other", ⟨"other", "https://wns.example/2", some 7, some "PC"⟩)] ∧
      ∀ ys, (∀ y ∈ ys, y.isEdit = false) →
        (∀ y ∈ ys, ∀ registration, y.change? = some (.enter registration) →
          registration.id ≠ "dev") →
        (((s.step (.remove "dev")).2.run ys).step (.remove "dev")).1 = .found none := by
  intro store settings surroundings
  have hload : store.load = .ok twoDevices := rfl
  obtain ⟨s, hs, hservice⟩ := Session.start_of_load hload settings surroundings
  have hresult : (s.step (.remove "dev")).1 =
      .found (some ⟨"dev", "https://wns.example/1", none, none⟩) := by
    obtain ⟨_, service, _, _⟩ := s
    subst hservice
    rfl
  have hregistrations : s.service.registry.registrations = twoDevices := by
    rw [hservice]
    rfl
  have hkeys : s.service.registry.registrations.WellKeyed := by
    intro e he
    rw [hregistrations, entries_twoDevices] at he
    simp only [List.mem_cons, List.not_mem_nil, or_false] at he
    rcases he with rfl | rfl <;> rfl
  have hx : (SessionStep.remove "dev").change? = some (.remove "dev") := rfl
  obtain ⟨-, hothers, -, -, hgone, hlater⟩ := removal_takes_first_carrier hs [] hx hresult
  refine ⟨s, hs, hresult, hothers.trans ?_, fun ys hys hid => ?_⟩
  · rw [Session.run, List.foldl_nil, hregistrations, entries_twoDevices]
    rfl
  · have hnone := hgone hkeys fun y hy => absurd hy List.not_mem_nil
    exact (hlater hnone ys hys hid).2.1 (.remove "dev") rfl

/-- Two registrations that carry the same identifier, one of them under another key. -/
def twoCarriers : Registrations := Dictionary.ofList
  [("dev", ⟨"dev", "https://wns.example/1", none, none⟩),
    ("legacy", ⟨"dev", "https://wns.example/2", none, none⟩)]

/-- A removal that is reported can leave a carrier, which a second removal takes away. -/
theorem removal_leaves_second_carrier :
    RegistrationsFile.load (filesWith twoCarriers) "registrations.json" = .ok twoCarriers ∧
    ∀ settings surroundings, ∃ s,
      Session.start settings (.file (filesWith twoCarriers) "registrations.json") surroundings =
        .ok s ∧
      (s.step (.remove "dev")).1 =
        .found (some ⟨"dev", "https://wns.example/1", none, none⟩) ∧
      (s.step (.remove "dev")).2.service.registry.registrations.carriers "dev" =
        [("legacy", ⟨"dev", "https://wns.example/2", none, none⟩)] ∧
      ((s.step (.remove "dev")).2.step (.remove "dev")).1 =
        .found (some ⟨"dev", "https://wns.example/2", none, none⟩) := by
  have hload : (Store.file (filesWith twoCarriers) "registrations.json").load = .ok twoCarriers :=
    load_filesWith twoCarriers
  refine ⟨hload, fun settings surroundings => ?_⟩
  obtain ⟨s, hs, hservice⟩ := Session.start_of_load hload settings surroundings
  obtain ⟨_, service, _, _⟩ := s
  subst hservice
  exact ⟨_, hs, rfl, rfl, rfl⟩

end ToastRelay
