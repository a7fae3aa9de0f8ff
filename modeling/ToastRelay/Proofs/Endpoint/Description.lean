import ToastRelay.Notification
import ToastRelay.Proofs.Dictionary
import ToastRelay.Proofs.Json.Ascending

/-!
# Objects that describe notifications

A notification is described by an object with a message. Its title, its targets and its extras may be
missing or `null`; a single target may stand for a list of one, and members of other names do not
matter. Such an object is taken for the notification that it describes and for no other.
-/

namespace ToastRelay
set_option autoImplicit false

/-- A member that may be missing or `null`, and describes something otherwise. -/
inductive Optionally {α : Type} (P : Json → α → Prop) : Option Json → Option α → Prop where
  | missing : Optionally P none none
  | null : Optionally P (some .null) none
  | given {v : Json} {a : α} (described : P v a) : Optionally P (some v) (some a)

inductive Json.IsText : Json → String → Prop where
  | mk (s : String) : IsText (.string s) s

inductive Json.NamesTargets : Json → List String → Prop where
  | one (target : String) : NamesTargets (.string target) [target]
  | many (targets : List String) : NamesTargets (.array (targets.map .string)) targets

structure ToastExtras.DescribedBy (e : ToastExtras) (v : Json) : Prop where
  isObject : ∃ members, v = .object members
  launch : Optionally Json.IsText (v.member? "launch") e.launch
  hero : Optionally Json.IsText (v.member? "hero") e.hero
  logo : Optionally Json.IsText (v.member? "logo") e.logo

structure Notification.DescribedBy (n : Notification) (v : Json) : Prop where
  isObject : ∃ members, v = .object members
  message : v.member? "message" = some (.string n.message)
  title : Optionally Json.IsText (v.member? "title") n.title
  targets : Optionally Json.NamesTargets (v.member? "target") n.targets
  extras : Optionally (fun v e => ToastExtras.DescribedBy e v) (v.member? "data") n.extras

/-- What is parsed of a value that may be missing, in which case it is blank. -/
def Parses {β : Type} (parse : Json → Except Fault β) (blank : β) : Option Json → β → Prop
  | none, b => b = blank
  | some v, b => parse v = .ok b

theorem Parses.unique {β : Type} {parse : Json → Except Fault β} {blank b b' : β} {v? : Option Json}
    (h : Parses parse blank v? b) (h' : Parses parse blank v? b') : b = b' := by
  cases v? with
  | none => exact h.trans h'.symm
  | some v => exact Except.ok.inj (h.symm.trans h')

theorem Optionally.parses {α : Type} {P : Json → α → Prop} {take : Json → Except Fault α}
    {v? : Option Json} {a? : Option α} (h : Optionally P v? a?)
    (htake : ∀ v a, v? = some v → P v a → v.takeOptional take = .ok (some a)) :
    Parses (Json.takeOptional take) none v? a? := by
  cases h with
  | missing => rfl
  | null => rfl
  | given hv => exact htake _ _ rfl hv

theorem Json.IsText.takeOptional {v : Json} {s : String} (h : v.IsText s) :
    v.takeOptional takeString = .ok (some s) := by
  cases h
  rfl

theorem Json.NamesTargets.takeOptional {v : Json} {targets : List String}
    (h : v.NamesTargets targets) : v.takeOptional Notification.takeTargets = .ok (some targets) := by
  cases h with
  | one target => rfl
  | many =>
    have hmap : (targets.map Json.string).mapM Json.string? = some targets := by
      induction targets with
      | nil => rfl
      | cons target targets ih => simp [ih, string?]
    change ((Notification.takeTargets (.array (targets.map .string))).map some) = _
    rw [Notification.takeTargets, hmap]
    rfl

/-- What a field of a record has to do with a part of the draft, which the field of that name decides
by what is parsed of its value. -/
inductive ExtractField.Concerns {σ β : Type} (name : String) (part : σ → β)
    (parse : Json → Except Fault β) (field : ExtractField σ) : Prop where
  | own (hname : field.name = name) (h : ∀ v draft, (field.take v draft).map part = parse v)
  | other (hne : field.name ≠ name)
      (h : ∀ v draft draft', field.take v draft = .ok draft' → part draft' = part draft)

theorem exists_of_map_eq_ok {ε α β : Type} {x : Except ε α} {f : α → β} {b : β}
    (h : x.map f = .ok b) : ∃ a, x = .ok a ∧ f a = b := by
  cases x with
  | error f => cases h
  | ok a => exact ⟨a, rfl, Except.ok.inj h⟩

section Stored
variable {σ β γ : Type} {name : String} {part : σ → β} {parse : Json → Except Fault β}

theorem ExtractField.Concerns.stored {set : σ → β → σ} (h : ∀ draft b, part (set draft b) = b) :
    Concerns name part parse ⟨name, fun v draft => (parse v).map (set draft)⟩ :=
  .own rfl fun v draft => by
    change ((parse v).map (set draft)).map part = parse v
    cases parse v with
    | error f => rfl
    | ok b => exact congrArg Except.ok (h draft b)

theorem ExtractField.Concerns.elsewhere {name' : String} {parse' : Json → Except Fault γ}
    {set : σ → γ → σ} (hne : name' ≠ name) (h : ∀ draft c, part (set draft c) = part draft) :
    Concerns name part parse ⟨name', fun v draft => (parse' v).map (set draft)⟩ :=
  .other hne fun v draft draft' hok => by
    obtain ⟨c, -, rfl⟩ := exists_of_map_eq_ok hok
    exact h draft c

end Stored

namespace Extract

variable {σ β : Type} {e : Extract σ}

/-- The field of that name decides a part of the draft, and no other field has a say in it. -/
structure Decides (e : Extract σ) (name : String) (part : σ → β) (parse : Json → Except Fault β) :
    Prop where
  fields : ∀ field ∈ e.fields, field.Concerns name part parse
  exists_field : ∃ field ∈ e.fields, field.name = name

variable {name : String} {part : σ → β} {parse : Json → Except Fault β}

theorem Decides.parses_of_byName (h : e.Decides name part parse) {members : List (String × Json)}
    (hascending : Ascending members) {draft draft' : σ}
    (hok : e.byName members draft = .ok draft') :
    Parses parse (part draft) (valueAt? name members) (part draft') := by
  induction members generalizing draft with
  | nil =>
    cases hok
    rfl
  | cons entry members ih =>
    obtain ⟨k, v⟩ := entry
    obtain ⟨hk, hmembers⟩ := List.pairwise_cons.mp hascending
    rw [byName] at hok
    rw [valueAt?_cons]
    split at hok
    · next hnone =>
      obtain ⟨field, hfield, rfl⟩ := h.exists_field
      have hne : k ≠ field.name := fun heq => by
        simpa [heq] using List.find?_eq_none.mp hnone field hfield
      rw [if_neg hne]
      exact ih hmembers hok
    · next field hfield =>
      have hname : field.name = k := by simpa using List.find?_some hfield
      cases htake : field.take v draft with
      | error f =>
        rw [htake] at hok
        cases hok
      | ok draft₁ =>
        rw [htake] at hok
        have hmore := ih hmembers hok
        cases h.fields field (List.mem_of_find?_eq_some hfield) with
        | own hfieldName hown =>
          have heq : k = name := hname.symm.trans hfieldName
          -- No later member has this name again.
          have hlater : valueAt? name members = none := by
            rw [valueAt?, List.find?_eq_none.mpr, Option.map_none]
            intro entry hentry
            have hlt : k < entry.1 := hk entry hentry
            simpa [← heq] using (String.ne_of_lt hlt).symm
          have hparsed := hown v draft
          rw [htake] at hparsed
          rw [hlater] at hmore
          rw [if_pos heq, show part draft' = part draft₁ from hmore]
          exact hparsed.symm
        | other hne hkeep =>
          rw [if_neg (hname ▸ hne), ← hkeep v draft draft₁ htake]
          exact hmore

/-- The members say what becomes of the part of the draft that the field of that name decides. -/
def Settles (e : Extract σ) (members : List (String × Json)) (name : String) : Prop :=
  ∃ (β : Type) (part : σ → β) (parse : Json → Except Fault β) (b : β),
    e.Decides name part parse ∧ Parses parse (part e.blank) (valueAt? name members) b

theorem exists_byName {members : List (String × Json)} (hascending : Ascending members)
    (h : ∀ field ∈ e.fields, e.Settles members field.name) (draft : σ) :
    ∃ draft', e.byName members draft = .ok draft' := by
  have htake : ∀ entry ∈ members, ∀ field ∈ e.fields, field.name = entry.1 → ∀ draft,
      ∃ draft', field.take entry.2 draft = .ok draft' := by
    intro entry hentry field hfield hname draft
    obtain ⟨β, part, parse, b, hdecides, hparses⟩ := h field hfield
    have hvalue : valueAt? field.name members = some entry.2 := by
      rw [hname]
      exact Dictionary.mem_entries_iff (d := ⟨members, hascending⟩).mp hentry
    rw [hvalue] at hparses
    cases hdecides.fields field hfield with
    | own _ hown =>
      obtain ⟨draft', hdraft', -⟩ := exists_of_map_eq_ok ((hown entry.2 draft).trans hparses)
      exact ⟨draft', hdraft'⟩
    | other hne _ => exact absurd rfl hne
  clear h hascending
  induction members generalizing draft with
  | nil => exact ⟨draft, rfl⟩
  | cons entry members ih =>
    obtain ⟨hentry, hmembers⟩ := List.forall_mem_cons.mp htake
    obtain ⟨k, v⟩ := entry
    rw [byName]
    split
    · exact ih draft hmembers
    · next field hfield =>
      obtain ⟨draft₁, hdraft₁⟩ := hentry field (List.mem_of_find?_eq_some hfield)
        (by simpa using List.find?_some hfield) draft
      rw [hdraft₁]
      exact ih draft₁ hmembers

end Extract

namespace ToastExtras

theorem decides : extract.Decides "launch" launch (Json.takeOptional Json.takeString) ∧
    extract.Decides "hero" hero (Json.takeOptional Json.takeString) ∧
    extract.Decides "logo" logo (Json.takeOptional Json.takeString) := by
  refine ⟨?_, ?_, ?_⟩
  all_goals
    refine ⟨?_, by simp [extract]⟩
    simp only [extract, List.forall_mem_cons]
    refine ⟨?_, ?_, ?_, by simp⟩
    all_goals first
      | exact .stored fun _ _ => rfl
      | exact .elsewhere (by decide) fun _ _ => rfl

theorem ofValue_of_describedBy {e : ToastExtras} {v : Json} (h : e.DescribedBy v)
    (hascends : v.Ascends) : extract.ofValue v = .ok e := by
  obtain ⟨members, rfl⟩ := h.isObject
  obtain ⟨hlaunch, hhero, hlogo⟩ := decides
  cases hascends with
  | object hascending _ =>
    have hlaunch' := h.launch.parses fun _ _ _ => Json.IsText.takeOptional
    have hhero' := h.hero.parses fun _ _ _ => Json.IsText.takeOptional
    have hlogo' := h.logo.parses fun _ _ _ => Json.IsText.takeOptional
    have hsettles : ∀ field ∈ extract.fields, extract.Settles members field.name := by
      refine List.forall_mem_cons.mpr ⟨⟨_, _, _, _, hlaunch, hlaunch'⟩, ?_⟩
      refine List.forall_mem_cons.mpr ⟨⟨_, _, _, _, hhero, hhero'⟩, ?_⟩
      exact List.forall_mem_singleton.mpr ⟨_, _, _, _, hlogo, hlogo'⟩
    obtain ⟨e', hok⟩ := Extract.exists_byName hascending hsettles extract.blank
    have he' : (⟨e'.launch, e'.hero, e'.logo⟩ : ToastExtras) = e := by
      rw [(hlaunch.parses_of_byName hascending hok).unique hlaunch',
        (hhero.parses_of_byName hascending hok).unique hhero',
        (hlogo.parses_of_byName hascending hok).unique hlogo']
    rw [← he']
    exact hok

end ToastExtras

namespace Notification

theorem decides :
    extract.Decides "message" Draft.message (fun v => v.takeString.map some) ∧
    extract.Decides "title" Draft.title (Json.takeOptional Json.takeString) ∧
    extract.Decides "target" Draft.targets (Json.takeOptional takeTargets) ∧
    extract.Decides "data" Draft.extras (Json.takeOptional ToastExtras.extract.ofValue) := by
  refine ⟨?_, ?_, ?_, ?_⟩
  all_goals
    refine ⟨?_, by simp [extract]⟩
    simp only [extract, List.forall_mem_cons]
    refine ⟨?_, ?_, ?_, ?_, by simp⟩
    all_goals first
      | exact .stored fun _ _ => rfl
      | exact .elsewhere (by decide) fun _ _ => rfl
      | exact .own rfl fun v draft => by dsimp only; cases v.takeString <;> rfl

theorem ofRequest_of_describedBy {n : Notification} {v : Json} (h : n.DescribedBy v)
    (hascends : v.Ascends) : ofRequest v = .ok n := by
  obtain ⟨members, rfl⟩ := h.isObject
  obtain ⟨hmessage, htitle, htarget, hdata⟩ := decides
  cases hascends with
  | object hascending hvalues =>
    have hmessage' : Parses (fun v => v.takeString.map some) none (valueAt? "message" members)
        (some n.message) := by
      rw [show valueAt? "message" members = some (.string n.message) from h.message]
      rfl
    have htitle' := h.title.parses fun _ _ _ => Json.IsText.takeOptional
    have htarget' := h.targets.parses fun _ _ _ => Json.NamesTargets.takeOptional
    have hdata' : Parses (Json.takeOptional ToastExtras.extract.ofValue) none
        (valueAt? "data" members) n.extras := h.extras.parses fun v e hv he => by
      have hmember := Dictionary.mem_entries_iff (d := ⟨members, hascending⟩) (e := ("data", v))
      have hvalue := ToastExtras.ofValue_of_describedBy he (hvalues _ (hmember.mpr hv))
      obtain ⟨ms, rfl⟩ := he.isObject
      exact congrArg (Except.map some) hvalue
    have hsettles : ∀ field ∈ extract.fields, extract.Settles members field.name := by
      refine List.forall_mem_cons.mpr ⟨⟨_, _, _, _, hmessage, hmessage'⟩, ?_⟩
      refine List.forall_mem_cons.mpr ⟨⟨_, _, _, _, htitle, htitle'⟩, ?_⟩
      refine List.forall_mem_cons.mpr ⟨⟨_, _, _, _, htarget, htarget'⟩, ?_⟩
      exact List.forall_mem_singleton.mpr ⟨_, _, _, _, hdata, hdata'⟩
    obtain ⟨d, hok⟩ := Extract.exists_byName hascending hsettles extract.blank
    have hextract : extract.ofValue (.object members) = .ok d := hok
    rw [ofRequest, hextract]
    dsimp only
    rw [(hmessage.parses_of_byName hascending hok).unique hmessage',
      (htitle.parses_of_byName hascending hok).unique htitle',
      (htarget.parses_of_byName hascending hok).unique htarget',
      (hdata.parses_of_byName hascending hok).unique hdata']

end Notification

end ToastRelay
