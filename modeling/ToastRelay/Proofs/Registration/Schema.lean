import ToastRelay.Proofs.Json.Naturals
import ToastRelay.Registration.Schema

/-!
# What the schema allows

A value describes a registration if and only if it is an object that has only allowed members and
among them the required ones. The registration then consists of what the members hold, and a member
that is `null` is as good as none. The one number that is allowed is a natural number below 2^64,
which is written in its digits and in no other way.
-/

namespace ToastRelay
set_option autoImplicit false

theorem mem_of_valueAt? {α : Type} {key : String} {value : α} {entries : List (String × α)}
    (h : valueAt? key entries = some value) : (key, value) ∈ entries := by
  obtain ⟨e, he, hvalue⟩ := Option.map_eq_some_iff.mp h
  have hkey : e.1 = key := by simpa using List.find?_some he
  rw [← hkey, ← hvalue]
  exact List.mem_of_find?_eq_some he

namespace Registration

/-- The members that a request may have. -/
inductive Allowed : String → Json → Prop where
  | id (s : String) : Allowed "id" (.string s)
  | channel (s : String) : Web.isWebAddress s = true → Allowed "channel" (.string s)
  | expiry (n : UInt64) : Allowed "expiry" (.number (.natural n))
  | noExpiry : Allowed "expiry" .null
  | name (s : String) : Allowed "name" (.string s)

section Members
variable {key : String} {value : Json}

theorem textViolation?_eq_none_iff : textViolation? key value = none ↔ ∃ s, value = .string s := by
  cases value <;> simp [textViolation?]

theorem channelViolation?_eq_none_iff :
    channelViolation? key value = none ↔ ∃ s, value = .string s ∧ Web.isWebAddress s = true := by
  cases value <;> simp [channelViolation?]

theorem expiryViolation?_eq_none_iff :
    expiryViolation? key value = none ↔ value = .null ∨ ∃ n, value = .number (.natural n) := by
  cases value with
  | number x => cases x <;> simp [expiryViolation?]
  | _ => simp [expiryViolation?]

theorem violation?_eq_none_iff : violation? key value = none ↔ Allowed key value := by
  constructor
  · intro h
    rw [violation?] at h
    split at h
    · next hkey =>
      obtain ⟨s, rfl⟩ := textViolation?_eq_none_iff.mp h
      rw [hkey]
      exact .id s
    · split at h
      · next hkey =>
        obtain ⟨s, rfl, hweb⟩ := channelViolation?_eq_none_iff.mp h
        rw [hkey]
        exact .channel s hweb
      · split at h
        · next hkey =>
          rw [hkey]
          rcases expiryViolation?_eq_none_iff.mp h with rfl | ⟨n, rfl⟩
          · exact .noExpiry
          · exact .expiry n
        · split at h
          · next hkey =>
            obtain ⟨s, rfl⟩ := textViolation?_eq_none_iff.mp h
            rw [hkey]
            exact .name s
          · cases h
  · intro h
    cases h with
    | channel s hweb => exact channelViolation?_eq_none_iff.mpr ⟨s, rfl, hweb⟩
    | _ => rfl

theorem Allowed.exists_channel (h : Allowed "channel" value) :
    ∃ s, value = .string s ∧ Web.isWebAddress s = true :=
  channelViolation?_eq_none_iff.mp (violation?_eq_none_iff.mpr h)

theorem Allowed.expiry_cases (h : Allowed "expiry" value) :
    value = .null ∨ ∃ n, value = .number (.natural n) :=
  expiryViolation?_eq_none_iff.mp (violation?_eq_none_iff.mpr h)

theorem Allowed.exists_name (h : Allowed "name" value) : ∃ s, value = .string s :=
  textViolation?_eq_none_iff.mp (violation?_eq_none_iff.mpr h)

end Members

variable {members : List (String × Json)} {v : Json} {r : Registration}

theorem violations_eq_nil_iff :
    violations members = [] ↔ (∀ e ∈ members, Allowed e.1 e.2) ∧
      (valueAt? "id" members).isSome ∧ (valueAt? "channel" members).isSome := by
  have hrequired : (requiredKeys.filter fun key => (valueAt? key members).isNone) = [] ↔
      (valueAt? "id" members).isSome ∧ (valueAt? "channel" members).isSome := by
    simp [requiredKeys, List.filter_eq_nil_iff, Option.isSome_iff_ne_none]
  rw [violations, List.append_eq_nil_iff, List.map_eq_nil_iff, hrequired]
  simp only [List.filterMap_eq_nil_iff, violation?_eq_none_iff]

theorem ofRequest_eq_ok_iff :
    ofRequest v = .ok r ↔ ∃ members, v = .object members ∧ violations members = [] ∧
      (valueAt? "id" members).bind Json.string? = some r.id ∧
      (valueAt? "channel" members).bind Json.string? = some r.channel ∧
      expiryOf (valueAt? "expiry" members) = r.expiry ∧
      (valueAt? "name" members).bind Json.string? = r.name := by
  cases v with
  | object members =>
    simp only [Json.object.injEq, exists_eq_left']
    rw [ofRequest]
    constructor
    · intro h
      split at h
      · next id channel hid hchannel =>
        split at h
        · next hnone =>
          cases h
          exact ⟨List.isEmpty_iff.mp hnone, hid, hchannel, rfl, rfl⟩
        · cases h
      · cases h
    · rintro ⟨hnone, hid, hchannel, hexpiry, hname⟩
      rw [hid, hchannel, hexpiry, hname]
      dsimp only
      rw [if_pos (List.isEmpty_iff.mpr hnone)]
  | _ => simp [ofRequest]

theorem bind_string?_eq_some_iff {value? : Option Json} {s : String} :
    value?.bind Json.string? = some s ↔ value? = some (.string s) := by
  cases value? with
  | none => simp
  | some value => cases value <;> simp [Json.string?]

theorem isWebAddress_of_ofRequest (h : ofRequest v = .ok r) :
    Web.isWebAddress r.channel = true := by
  obtain ⟨members, rfl, hnone, -, hchannel, -⟩ := ofRequest_eq_ok_iff.mp h
  have hmem := mem_of_valueAt? (bind_string?_eq_some_iff.mp hchannel)
  obtain ⟨s, hs, hweb⟩ := ((violations_eq_nil_iff.mp hnone).1 _ hmem).exists_channel
  cases hs
  exact hweb

end Registration

open Registration in
/-- A value is accepted if and only if it follows the schema, and then as the registration that its
members give. -/
theorem accepted_iff_follows_schema :
    (∀ (v : Json) (r : Registration), ofRequest v = .ok r ↔
      ∃ members, v = .object members ∧ (∀ e ∈ members, Allowed e.1 e.2) ∧
        valueAt? "id" members = some (.string r.id) ∧
        valueAt? "channel" members = some (.string r.channel) ∧
        (valueAt? "expiry" members = r.expiry.map (fun n => .number (.natural n)) ∨
          r.expiry = none ∧ valueAt? "expiry" members = some .null) ∧
        valueAt? "name" members = r.name.map .string) ∧
    ∀ (text : String) (n : UInt64),
      Json.ofBytes (Text.encode text) = .ok (.number (.natural n)) ↔
        ∃ before after, (∀ c ∈ before ++ after, Cursor.isBlank c = true) ∧
          text.toList = before ++ Nat.toDigits 10 n.toNat ++ after := by
  refine ⟨fun v r => ?_, fun text n => Json.ofBytes_eq_natural_iff⟩
  rw [ofRequest_eq_ok_iff]
  simp only [bind_string?_eq_some_iff, violations_eq_nil_iff]
  constructor
  · rintro ⟨members, rfl, ⟨hallowed, -⟩, hid, hchannel, hexpiry, hname⟩
    refine ⟨members, rfl, hallowed, hid, hchannel, ?_, ?_⟩
    · rw [← hexpiry]
      cases hvalue : valueAt? "expiry" members with
      | none => exact .inl rfl
      | some value =>
        rcases (hallowed _ (mem_of_valueAt? hvalue)).expiry_cases with rfl | ⟨n, rfl⟩
        · exact .inr ⟨rfl, rfl⟩
        · exact .inl rfl
    · rw [← hname]
      cases hvalue : valueAt? "name" members with
      | none => rfl
      | some value =>
        obtain ⟨s, rfl⟩ := (hallowed _ (mem_of_valueAt? hvalue)).exists_name
        rfl
  · rintro ⟨members, rfl, hallowed, hid, hchannel, hexpiry, hname⟩
    refine ⟨members, rfl, ⟨hallowed, ?_, ?_⟩, hid, hchannel, ?_, ?_⟩
    · rw [hid]
      rfl
    · rw [hchannel]
      rfl
    · rcases hexpiry with hexpiry | ⟨hnone, hexpiry⟩
      · rw [hexpiry]
        cases r.expiry <;> rfl
      · rw [hexpiry, hnone]
        rfl
    · rw [hname]
      cases r.name <;> rfl

end ToastRelay
