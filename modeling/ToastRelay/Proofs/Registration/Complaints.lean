import ToastRelay.Proofs.Json.Ascending
import ToastRelay.Proofs.Registration.Schema
import ToastRelay.Proofs.Registry.Carriers
import ToastRelay.Proofs.Text.Order

/-!
# What a rejected request is told

A request that is rejected is told of every member that is not allowed, once each and in the order
of the names, and then of the required members that are missing. A request is never rejected without
being told why.
-/

namespace ToastRelay.Registration
set_option autoImplicit false

/-- What is said of a member that is not allowed. -/
inductive Complaint : String → Json → String → Prop where
  | id {v : Json} (h : ∀ s, v ≠ .string s) :
      Complaint "id" v "expected str for dictionary value @ data['id']"
  | channel {v : Json} (h : ∀ s, v ≠ .string s) :
      Complaint "channel" v "expected str for dictionary value @ data['channel']"
  | address {s : String} (h : Web.isWebAddress s = false) :
      Complaint "channel" (.string s) "invalid url for dictionary value @ data['channel']"
  | belowZero (size : Nat) : Complaint "expiry" (.number (.negative size))
      "value must be at least 0 for dictionary value @ data['expiry']"
  | expiry {v : Json} (hnull : v ≠ .null) (hnatural : ∀ n, v ≠ .number (.natural n))
      (hnegative : ∀ size, v ≠ .number (.negative size)) :
      Complaint "expiry" v "expected int for dictionary value @ data['expiry']"
  | name {v : Json} (h : ∀ s, v ≠ .string s) :
      Complaint "name" v "expected str for dictionary value @ data['name']"
  | extra {key : String} {v : Json} (h : key ∉ ["id", "channel", "expiry", "name"]) :
      Complaint key v ("extra keys not allowed @ data['" ++ key ++ "']")

def missing (d : Dictionary Json) : List String :=
  (if (d.get? "id").isNone then ["required key not provided @ data['id']"] else []) ++
    if (d.get? "channel").isNone then ["required key not provided @ data['channel']"] else []

section Members
variable {key : String} {v : Json} {violation : Violation} {text : String}

theorem textViolation?_eq_some_iff :
    textViolation? key v = some violation ↔ (∀ s, v ≠ .string s) ∧ violation = .notText key := by
  cases v <;> simp [textViolation?, @eq_comm _ violation]

theorem channelViolation?_eq_some_iff : channelViolation? key v = some violation ↔
    ((∀ s, v ≠ .string s) ∧ violation = .notText key) ∨
      ∃ s, v = .string s ∧ Web.isWebAddress s = false ∧ violation = .invalidUrl key := by
  cases v with
  | string s => cases hweb : Web.isWebAddress s <;> simp [channelViolation?, hweb, @eq_comm _ violation]
  | _ => simp [channelViolation?, @eq_comm _ violation]

theorem expiryViolation?_eq_some_iff : expiryViolation? key v = some violation ↔
    (∃ size, v = .number (.negative size) ∧ violation = .belowZero key) ∨
      v ≠ .null ∧ (∀ n, v ≠ .number (.natural n)) ∧ (∀ size, v ≠ .number (.negative size)) ∧
        violation = .notInteger key := by
  cases v with
  | number x => cases x <;> simp [expiryViolation?, @eq_comm _ violation]
  | _ => simp [expiryViolation?, @eq_comm _ violation]

theorem complaint_iff : Complaint key v text ↔ ∃ w, violation? key v = some w ∧ w.text = text := by
  constructor
  · intro h
    cases h with
    | id h => exact ⟨_, textViolation?_eq_some_iff.mpr ⟨h, rfl⟩, rfl⟩
    | channel h => exact ⟨_, channelViolation?_eq_some_iff.mpr (Or.inl ⟨h, rfl⟩), rfl⟩
    | address h => exact ⟨_, channelViolation?_eq_some_iff.mpr (Or.inr ⟨_, rfl, h, rfl⟩), rfl⟩
    | belowZero size =>
      exact ⟨_, expiryViolation?_eq_some_iff.mpr (Or.inl ⟨size, rfl, rfl⟩), rfl⟩
    | expiry hnull hnatural hnegative =>
      exact ⟨_, expiryViolation?_eq_some_iff.mpr (Or.inr ⟨hnull, hnatural, hnegative, rfl⟩), rfl⟩
    | name h => exact ⟨_, textViolation?_eq_some_iff.mpr ⟨h, rfl⟩, rfl⟩
    | extra h =>
      simp only [List.mem_cons, List.not_mem_nil, or_false, not_or] at h
      obtain ⟨hid, hchannel, hexpiry, hname⟩ := h
      refine ⟨.extraKey key, ?_, rfl⟩
      rw [violation?, if_neg hid, if_neg hchannel, if_neg hexpiry, if_neg hname]
  · rintro ⟨w, h, rfl⟩
    rw [violation?] at h
    split at h
    · next hkey =>
      subst hkey
      obtain ⟨hkind, rfl⟩ := textViolation?_eq_some_iff.mp h
      exact .id hkind
    · next hid =>
      split at h
      · next hkey =>
        subst hkey
        rcases channelViolation?_eq_some_iff.mp h with ⟨hkind, rfl⟩ | ⟨s, rfl, hweb, rfl⟩
        · exact .channel hkind
        · exact .address hweb
      · next hchannel =>
        split at h
        · next hkey =>
          subst hkey
          rcases expiryViolation?_eq_some_iff.mp h with ⟨size, rfl, rfl⟩ |
            ⟨hnull, hnatural, hnegative, rfl⟩
          · exact .belowZero size
          · exact .expiry hnull hnatural hnegative
        · next hexpiry =>
          split at h
          · next hkey =>
            subst hkey
            obtain ⟨hkind, rfl⟩ := textViolation?_eq_some_iff.mp h
            exact .name hkind
          · next hname =>
            cases h
            exact .extra (by simp [hid, hchannel, hexpiry, hname])

theorem exists_complaint_iff : (∃ text, Complaint key v text) ↔ ¬ Allowed key v := by
  rw [← violation?_eq_none_iff, ← ne_eq, Option.ne_none_iff_exists']
  constructor
  · rintro ⟨text, h⟩
    obtain ⟨w, hw, -⟩ := complaint_iff.mp h
    exact ⟨w, hw⟩
  · rintro ⟨w, hw⟩
    exact ⟨w.text, complaint_iff.mpr ⟨w, hw, rfl⟩⟩

end Members

def complaints (members : List (String × Json)) : List (String × String) :=
  members.filterMap fun (key, v) => (violation? key v).map fun w => (key, w.text)

section Dictionary
variable {d : Dictionary Json} {key text : String} {rejection : Rejection}

theorem mem_complaints_iff : (key, text) ∈ complaints d.entries ↔
    ∃ v, d.get? key = some v ∧ Complaint key v text := by
  simp only [complaints, List.mem_filterMap, Option.map_eq_some_iff, Prod.exists]
  constructor
  · rintro ⟨k, v, hmem, w, hw, heq⟩
    cases heq
    exact ⟨v, Dictionary.mem_entries_iff.mp hmem, complaint_iff.mpr ⟨w, hw, rfl⟩⟩
  · rintro ⟨v, hget, h⟩
    obtain ⟨w, hw, rfl⟩ := complaint_iff.mp h
    exact ⟨key, v, Dictionary.mem_entries_iff.mpr hget, w, hw, rfl⟩

/-- The names ascend, so nothing is said twice of a member. -/
theorem pairwise_complaints (d : Dictionary Json) :
    (complaints d.entries).Pairwise fun a b => Text.encode a.1 < Text.encode b.1 := by
  refine d.ascending.filterMap _ fun e e' hlt a ha b hb => ?_
  obtain ⟨w, -, rfl⟩ := Option.map_eq_some_iff.mp ha
  obtain ⟨w', -, rfl⟩ := Option.map_eq_some_iff.mp hb
  exact Text.encode_lt_encode hlt

theorem map_text_violations (d : Dictionary Json) :
    (violations d.entries).map Violation.text =
      (complaints d.entries).map (·.2) ++ missing d := by
  have hfound : (d.entries.filterMap fun (key, v) => violation? key v).map Violation.text =
      (complaints d.entries).map (·.2) := by
    rw [complaints, List.map_filterMap, List.map_filterMap]
    congr 1
    funext ⟨key, v⟩
    dsimp only
    cases violation? key v <;> rfl
  have hmissing : ((requiredKeys.filter fun key => (valueAt? key d.entries).isNone).map
      Violation.missingKey).map Violation.text = missing d := by
    simp only [missing, Dictionary.get?, requiredKeys, List.filter_cons, List.filter_nil]
    by_cases hid : (valueAt? "id" d.entries).isNone = true <;>
      by_cases hchannel : (valueAt? "channel" d.entries).isNone = true
    all_goals
      simp only [hid, hchannel]
      rfl
  rw [violations, List.map_append, hfound, hmissing]

theorem violations_of_rejected (h : ofRequest (.object d.entries) = .error rejection) :
    rejection = .violations (violations d.entries) ∧ violations d.entries ≠ [] := by
  have hvs : violations d.entries ≠ [] := by
    intro hnone
    obtain ⟨hallowed, hid, hchannel⟩ := violations_eq_nil_iff.mp hnone
    obtain ⟨v, hv⟩ := Option.isSome_iff_exists.mp hid
    obtain ⟨v', hv'⟩ := Option.isSome_iff_exists.mp hchannel
    obtain ⟨s, rfl⟩ : ∃ s, v = .string s :=
      textViolation?_eq_none_iff.mp (violation?_eq_none_iff.mpr (hallowed _ (mem_of_valueAt? hv)))
    obtain ⟨s', rfl, -⟩ := (hallowed _ (mem_of_valueAt? hv')).exists_channel
    rw [ofRequest, hv, hv', hnone] at h
    cases h
  refine ⟨?_, hvs⟩
  rw [ofRequest] at h
  split at h
  · rw [if_neg (by simpa using hvs)] at h
    cases h
    rfl
  · cases h
    rfl

end Dictionary

/-- A rejected object is told of every member that is not allowed, in the order of the bytes of the
names, and of the required members that are missing. -/
theorem rejection_tells_every_violation :
    (∀ (d : Dictionary Json) (rejection : Rejection),
      ofRequest (.object d.entries) = .error rejection → ∃ found : List (String × String),
        rejection.text = String.intercalate ". " (found.map (·.2) ++ missing d) ∧
        found.map (·.2) ++ missing d ≠ [] ∧
        (found.Pairwise fun a b => Text.encode a.1 < Text.encode b.1) ∧
        (∀ key text, (key, text) ∈ found ↔ ∃ v, d.get? key = some v ∧ Complaint key v text) ∧
        ∀ key v, d.get? key = some v → ((∃ text, (key, text) ∈ found) ↔ ¬ Allowed key v)) ∧
    ∀ (bytes : Bytes) (members : List (String × Json)),
      Json.ofBytes bytes = .ok (.object members) → ∃ d : Dictionary Json, d.entries = members := by
  refine ⟨fun d rejection h => ?_, fun bytes members => Json.exists_dictionary_of_ofBytes⟩
  obtain ⟨rfl, hsome⟩ := violations_of_rejected h
  have htexts := map_text_violations d
  refine ⟨complaints d.entries, ?_, ?_, pairwise_complaints d, fun key text => mem_complaints_iff,
    fun key v hget => ?_⟩
  · rw [Rejection.text, htexts]
  · rw [← htexts]
    simpa using hsome
  · rw [← exists_complaint_iff]
    refine exists_congr fun text => ?_
    rw [mem_complaints_iff, hget]
    simp

/-- A request without an identifier, with a channel that is no web address, a negative expiry, a name
that is `null` and a member too many is told of all five. -/
theorem rejection_tells_every_violation_mixed :
    let d : Dictionary Json := Dictionary.ofList [("channel", .string "ftp://x"), ("ä", .null),
      ("name", .null), ("expiry", .number (.negative 1))]
    (∃ (rejection : Rejection) (found : List (String × String)),
      ofRequest (.object d.entries) = .error rejection ∧
      rejection.text = "invalid url for dictionary value @ data['channel']. " ++
        "value must be at least 0 for dictionary value @ data['expiry']. " ++
        "expected str for dictionary value @ data['name']. " ++
        "extra keys not allowed @ data['ä']. required key not provided @ data['id']" ∧
      rejection.text = String.intercalate ". " (found.map (·.2) ++ missing d) ∧
      ("name", "expected str for dictionary value @ data['name']") ∈ found) ∧
    ∃ members, Json.ofBytes (Text.encode "\x7b\x7d") = .ok (.object members) ∧
      ∃ d : Dictionary Json, d.entries = members := by
  intro d
  obtain ⟨htold, hread⟩ := rejection_tells_every_violation
  have hrejected : ofRequest (.object d.entries) = .error (.violations (violations d.entries)) := by
    rfl
  obtain ⟨found, htext, -, -, hfound, -⟩ := htold d _ hrejected
  have hobject : Json.ofBytes (Text.encode "\x7b\x7d") = .ok (.object []) := by
    rw [Json.ofBytes, Text.pieces_encode]
    rfl
  refine ⟨⟨_, found, hrejected, by decide +kernel, htext, ?_⟩, _, hobject, hread _ _ hobject⟩
  exact (hfound _ _).mpr ⟨.null, by rfl, .name (by simp)⟩

end ToastRelay.Registration
