import ToastRelay.Proofs.Json.Unambiguity
import ToastRelay.Proofs.Registration.Written

/-!
# What a registrations file says is one thing only

The text of a value says one registration at most, and the text of a file has its entries in one way
only. So each of the members of an object has to say a registration if the object has entries.
-/

namespace ToastRelay
set_option autoImplicit false

open Json

namespace Registration

theorem FieldOf.unique {α : Type} {name : String} {P : α → List Char → Prop}
    {ms : List (String × List Char)} {o o' : Option α} (h : FieldOf name P ms o)
    (h' : FieldOf name P ms o') (hP : ∀ a a' v, P a v → P a' v → a = a') : o = o' := by
  cases o with
  | none =>
    cases o' with
    | none => rfl
    | some a' =>
      obtain ⟨v, hv, -⟩ := h'
      cases hv.symm.trans h
  | some a =>
    obtain ⟨v, hv, ha⟩ := h
    cases o' with
    | none => cases hv.symm.trans h'
    | some a' =>
      obtain ⟨v', hv', ha'⟩ := h'
      cases hv.symm.trans hv'
      rw [hP a a' v ha ha']

variable {r r' : Registration} {v : List Char}

theorem isOptional_natural_unique (o o' : Option UInt64) (v : List Char)
    (h : IsOptional IsNatural o v) (h' : IsOptional IsNatural o' v) : o = o' :=
  h.unique h' (fun _ h => h.not_isNull) fun _ _ h h' => h.unique h'

theorem isOptional_string_unique (o o' : Option String) (v : List Char)
    (h : IsOptional IsString o v) (h' : IsOptional IsString o' v) : o = o' :=
  h.unique h' (fun _ h => h.not_isNull) fun _ _ h h' => h.unique h'

theorem eq_of_fields (hid : r.id = r'.id) (hchannel : r.channel = r'.channel)
    (hexpiry : r.expiry = r'.expiry) (hname : r.name = r'.name) : r = r' := by
  cases r
  cases r'
  simp_all only

theorem SaidBy.unique {ms : List (String × List Char)} (h : r.SaidBy ms) (h' : r'.SaidBy ms) :
    r = r' := by
  have hstring : ∀ (a a' : String) v, IsString a v → IsString a' v → a = a' :=
    fun _ _ _ h h' => h.unique h'
  obtain ⟨hid, hchannel, ⟨expiry, hexpiry, hr⟩, ⟨name, hname, hr₂⟩, -⟩ := h
  obtain ⟨hid', hchannel', ⟨expiry', hexpiry', hr'⟩, ⟨name', hname', hr₂'⟩, -⟩ := h'
  obtain rfl := hexpiry.unique hexpiry' isOptional_natural_unique
  obtain rfl := hname.unique hname' isOptional_string_unique
  exact eq_of_fields (Option.some.inj (hid.unique hid' hstring))
    (Option.some.inj (hchannel.unique hchannel' hstring)) (hr.trans hr'.symm) (hr₂.trans hr₂'.symm)

theorem ListedBy.unique {items : List (List Char)} (h : r.ListedBy items)
    (h' : r'.ListedBy items) : r = r' := by
  cases h with
  | two hid hchannel hexpiry hname =>
    cases h' with
    | two hid' hchannel' hexpiry' hname' =>
      exact eq_of_fields (hid.unique hid') (hchannel.unique hchannel')
        (hexpiry.trans hexpiry'.symm) (hname.trans hname'.symm)
  | three hid hchannel hexpiry hname =>
    cases h' with
    | three hid' hchannel' hexpiry' hname' =>
      exact eq_of_fields (hid.unique hid') (hchannel.unique hchannel')
        (isOptional_natural_unique _ _ _ hexpiry hexpiry') (hname.trans hname'.symm)
  | four hid hchannel hexpiry hname =>
    cases h' with
    | four hid' hchannel' hexpiry' hname' =>
      exact eq_of_fields (hid.unique hid') (hchannel.unique hchannel')
        (isOptional_natural_unique _ _ _ hexpiry hexpiry')
        (isOptional_string_unique _ _ _ hname hname')

theorem Written.unique (h : r.Written v) (h' : r'.Written v) : r = r' := by
  cases h with
  | @object before inside ms hbefore hms h =>
    generalize hv : before ++ '\x7b' :: (inside ++ ['\x7d']) = v at h'
    cases h' with
    | object hbefore' hms' h' =>
      obtain ⟨-, -, hinside⟩ := eq_of_blanks hbefore hbefore' rfl rfl hv
      obtain rfl := List.append_cancel_right hinside
      obtain rfl := hms.unique (delimited_isMember isNaming_spelled) hms' h.isValue h'.isValue
      exact h.unique h'
    | list hbefore' =>
      obtain ⟨-, hbracket, -⟩ := eq_of_blanks hbefore hbefore' rfl rfl hv
      cases hbracket
  | @list before inside items hbefore hitems h =>
    generalize hv : before ++ '[' :: (inside ++ [']']) = v at h'
    cases h' with
    | object hbefore' =>
      obtain ⟨-, hbracket, -⟩ := eq_of_blanks hbefore hbefore' rfl rfl hv
      cases hbracket
    | list hbefore' hitems' h' =>
      obtain ⟨-, -, hinside⟩ := eq_of_blanks hbefore hbefore' rfl rfl hv
      obtain rfl := List.append_cancel_right hinside
      obtain rfl := hitems.unique delimited_isValue hitems' h.isValue h'.isValue
      exact h.unique h'

end Registration

namespace Registrations

variable {ms : List (String × List Char)} {entries entries' : List (String × Registration)}
  {s : List Char}

theorem Entered.unique (h : Entered ms entries) (h' : Entered ms entries') : entries = entries' := by
  induction h generalizing entries' with
  | nil =>
    cases h'
    rfl
  | cons h _ ih =>
    cases h' with
    | cons h' more' =>
      obtain ⟨hname, hr⟩ := h
      obtain ⟨hname', hr'⟩ := h'
      rw [Prod.ext (hname.symm.trans hname') (hr.unique hr'), ih more']

theorem WrittenAs.unique (h : WrittenAs entries s) (h' : WrittenAs entries' s) :
    entries = entries' := by
  obtain ⟨ms, hms, hentries⟩ := h
  obtain ⟨ms', hms', hentries'⟩ := h'
  obtain rfl := hms.unique isNaming_spelled hms' hentries.isValue hentries'.isValue
  exact hentries.unique hentries'

theorem Entered.exists_written (h : Entered ms entries) :
    ∀ m ∈ ms, ∃ r : Registration, r.Written m.2 := by
  induction h with
  | nil => exact fun _ h => absurd h List.not_mem_nil
  | cons h _ ih => exact List.forall_mem_cons.mpr ⟨⟨_, h.2⟩, ih⟩

/-- If a text has entries, then every member of the object that it is says a registration. -/
theorem WrittenAs.exists_written {members : List (List Char × List Char)} (h : WrittenAs entries s)
    (hmembers : IsObjectOf IsName members s) (hvalues : ∀ m ∈ members, IsValue m.2) :
    ∀ m ∈ members, ∃ r : Registration, r.Written m.2 := by
  obtain ⟨ms, hms, hentries⟩ := h
  obtain ⟨members', hmembers', hwritten⟩ :=
    hms.exists_isName (P := fun v => ∃ r : Registration, r.Written v) hentries.exists_written
  have hvalues' : ∀ m ∈ members', IsValue m.2 := fun m hm => by
    obtain ⟨r, hr⟩ := hwritten m hm
    exact hr.isValue
  obtain rfl := hmembers.unique isNaming_isName hmembers' hvalues hvalues'
  exact hwritten

end Registrations

end ToastRelay
