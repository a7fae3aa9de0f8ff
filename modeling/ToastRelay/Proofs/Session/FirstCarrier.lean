import ToastRelay.Proofs.Registry.Carriers
import ToastRelay.Proofs.Session.Step
import ToastRelay.Proofs.Text.Order

/-!
# The first carrier of an identifier

Entries are searched in the order of their keys, which is the order of the bytes of the keys. So the
entry that is found for an identifier is the one with the least key among those that carry it, and
it is this key that is taken out of the registrations, whatever is kept under the identifier as key.
-/

namespace ToastRelay
set_option autoImplicit false

namespace Registrations

variable {rs : Registrations} {id : String} {e : String × Registration}

/-- The entry that carries an identifier and whose key is the least of all that carry it, by the
bytes of the keys. -/
structure IsFirstCarrier (rs : Registrations) (id : String) (e : String × Registration) : Prop where
  mem : e ∈ rs.entries
  carries : e.2.id = id
  least : ∀ d ∈ rs.entries, d.2.id = id → d ≠ e → Text.encode e.1 < Text.encode d.1

theorem entryWithId?_eq_some_iff :
    Registry.entryWithId? rs id = some e ↔ rs.IsFirstCarrier id e := by
  rw [Registry.entryWithId?, List.find?_eq_some_iff_append]
  simp only [decide_eq_true_eq, Bool.not_eq_eq_eq_not, Bool.not_true, decide_eq_false_iff_not]
  constructor
  · rintro ⟨hid, before, after, hentries, hbefore⟩
    have hafter : ∀ d ∈ after, e.1 < d.1 := by
      have hascending := rs.ascending
      rw [hentries] at hascending
      exact (List.pairwise_cons.mp (List.pairwise_append.mp hascending).2.1).1
    refine ⟨by rw [hentries]; simp, hid, fun d hd hdid hne => ?_⟩
    rw [hentries, List.mem_append, List.mem_cons] at hd
    rcases hd with hd | rfl | hd
    · exact absurd hdid (hbefore d hd)
    · exact absurd rfl hne
    · exact Text.encode_lt_encode (hafter d hd)
  · rintro ⟨hmem, hid, hleast⟩
    obtain ⟨before, after, hentries⟩ := List.append_of_mem hmem
    refine ⟨hid, before, after, hentries, fun d hd hdid => ?_⟩
    have hlt : d.1 < e.1 := by
      have hascending := rs.ascending
      rw [hentries] at hascending
      exact (List.pairwise_append.mp hascending).2.2 d hd e List.mem_cons_self
    have hne : d ≠ e := by
      rintro rfl
      exact String.lt_irrefl _ hlt
    have hgreater := hleast d (by rw [hentries]; exact List.mem_append_left _ hd) hdid hne
    exact List.lt_asymm hgreater (Text.encode_lt_encode hlt)

theorem exists_isFirstCarrier (h : ∃ e ∈ rs.entries, e.2.id = id) :
    ∃ e, rs.IsFirstCarrier id e := by
  cases hentry : Registry.entryWithId? rs id with
  | some e => exact ⟨e, entryWithId?_eq_some_iff.mp hentry⟩
  | none =>
    obtain ⟨e, he, hid⟩ := h
    exact absurd hid (carriers_eq_nil_iff.mp (entryWithId?_eq_none_iff.mp hentry) e he)

theorem mem_erase_iff_ne (h : e ∈ rs.entries) {d : String × Registration} :
    d ∈ (rs.erase e.1).entries ↔ d ∈ rs.entries ∧ d ≠ e := by
  rw [Dictionary.mem_erase_iff, and_comm]
  refine and_congr_right fun hd => not_congr ⟨fun hkey => ?_, congrArg Prod.fst⟩
  exact Dictionary.eq_of_mem hd h hkey

end Registrations

/-- Removing saves all entries but the first carrier of the identifier, or nothing if there is none.
If the save fails, all is as before. -/
theorem removal_stages_all_but_first_carrier (s : Session) (id : String) :
    let r := s.service.registry
    ((∀ e ∈ r.registrations.entries, e.2.id ≠ id) → s.remove id = (.found none, s)) ∧
    ((∃ e ∈ r.registrations.entries, e.2.id = id) → ∃ e, r.registrations.IsFirstCarrier id e) ∧
    ∀ e, r.registrations.IsFirstCarrier id e →
      let staged : Registrations := r.registrations.erase e.1
      (∀ d, d ∈ staged.entries ↔ d ∈ r.registrations.entries ∧ d ≠ e) ∧
      r.registrations.get? e.1 = some e.2 ∧
      s.remove id = match r.store.save staged with
        | (.ok (), store) => (.found (some e.2), s.withRegistry ⟨staged, store⟩)
        | (.error f, store) =>
          (.failed (.persistence f.text), s.withRegistry ⟨r.registrations, store⟩) := by
  intro r
  refine ⟨fun hnone => ?_, Registrations.exists_isFirstCarrier, fun e he => ?_⟩
  · have hentry : Registry.entryWithId? r.registrations id = none :=
      Registrations.entryWithId?_eq_none_iff.mpr (Registrations.carriers_eq_nil_iff.mpr hnone)
    rw [Session.remove, Registry.remove, hentry]
    rfl
  · intro staged
    refine ⟨fun d => Registrations.mem_erase_iff_ne he.mem,
      Dictionary.mem_entries_iff.mp he.mem, ?_⟩
    have hentry : Registry.entryWithId? r.registrations id = some e :=
      Registrations.entryWithId?_eq_some_iff.mpr he
    rw [Session.remove, Registry.remove, hentry]
    dsimp only
    rw [Registry.commit]
    rcases r.store.save staged with ⟨result, store⟩
    cases result <;> rfl

/-- The identifier is the key of another registration, and of the two that carry it the one under
the lesser key is removed. -/
theorem removal_stages_all_but_first_carrier_clash :
    let first : Registration := ⟨"dev", "https://wns.example/1", none, none⟩
    let second : Registration := ⟨"dev", "https://wns.example/2", none, none⟩
    let other : Registration := ⟨"x", "https://wns.example/3", none, none⟩
    let rs : Registrations := Dictionary.ofList [("😀", second), ("dev", other), ("\uffff", first)]
    let settings : Settings := ⟨none, none, "", "registrations.conf", 8000⟩
    let source := TokenSource.ofSettings settings
    let s : SaveMode → Session := fun mode => ⟨settings, ⟨⟨rs, .memory ⟨rs, 0, mode⟩⟩, source⟩,
      source, ⟨⟨[], []⟩, fun _ => 0, [], []⟩⟩
    (s .crash).remove "😀" = (.found none, s .crash) ∧
    rs.IsFirstCarrier "dev" ("\uffff", first) ∧
    ((s .succeed).remove "dev").1 = .found (some first) ∧
    ((s .succeed).remove "dev").2.service.registry.registrations =
      Dictionary.ofList [("dev", other), ("😀", second)] ∧
    (∃ f : SaveFault, ((s .crash).remove "dev").1 = .failed (.persistence f.text)) ∧
    ((s .crash).remove "dev").2.service.registry.registrations.get? "\uffff" = some first := by
  intro first second other rs settings source s
  have hfirst : rs.IsFirstCarrier "dev" ("\uffff", first) :=
    ⟨by decide +kernel, rfl, by decide +kernel⟩
  obtain ⟨hnobody, -, -⟩ := removal_stages_all_but_first_carrier (s .crash) "😀"
  obtain ⟨-, -, hsaved⟩ := removal_stages_all_but_first_carrier (s .succeed) "dev"
  obtain ⟨-, -, hcrashed⟩ := removal_stages_all_but_first_carrier (s .crash) "dev"
  obtain ⟨-, -, hremoved⟩ := hsaved _ hfirst
  obtain ⟨-, hkept, hfailed⟩ := hcrashed _ hfirst
  refine ⟨hnobody (by decide +kernel), hfirst, ?_, ?_, ⟨.crashed, ?_⟩, ?_⟩
  · rw [hremoved]
    rfl
  · rw [hremoved]
    change rs.erase "\uffff" = _
    decide +kernel
  · rw [hfailed]
    rfl
  · rw [hfailed]
    exact hkept

end ToastRelay
