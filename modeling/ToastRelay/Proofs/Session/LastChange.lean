import ToastRelay.Proofs.Registry.Carriers
import ToastRelay.Proofs.Session.Run

/-!
# The registrations as a plain map

If every registration is loaded under the identifier that it carries, the registry is a map from
identifiers on which the last change wins. What is kept for an identifier can be told from outside:
it is what the last change that was acknowledged for it left there, however many changes failed in
between. An acknowledgement is read off the result of a step and not off the registry.
-/

namespace ToastRelay
set_option autoImplicit false

namespace Change

def subject : Change → String
  | .enter registration => registration.id
  | .remove id => id

/-- What is kept for its identifier once a change is made. -/
def leaves : Change → Option Registration
  | .enter registration => some registration
  | .remove _ => none

def acknowledgement : Change → Answer
  | .enter _ => .registered
  | .remove _ => .unregistered

/-- What is kept for an identifier after changes: what the last one about it left, or what was there
before them if none is about it. -/
def lastLeft (before : String → Option Registration) (cs : List Change) (id : String) :
    Option Registration :=
  match (cs.filter (·.subject = id)).getLast? with
  | some c => c.leaves
  | none => before id

theorem lastLeft_cons (before : String → Option Registration) (c : Change) (cs : List Change) :
    lastLeft before (c :: cs) =
      lastLeft (fun id => if c.subject = id then c.leaves else before id) cs := by
  funext id
  rw [lastLeft, lastLeft]
  by_cases hsubject : c.subject = id
  · rw [List.filter_cons_of_pos (by simpa using hsubject), List.getLast?_cons]
    cases (cs.filter (·.subject = id)).getLast? <;> simp [hsubject]
  · rw [List.filter_cons_of_neg (by simpa using hsubject)]
    simp only [if_neg hsubject]

theorem lastLeft_append (before : String → Option Registration) (cs ds : List Change) :
    lastLeft before (cs ++ ds) = lastLeft (lastLeft before cs) ds := by
  induction cs generalizing before with
  | nil => rfl
  | cons c cs ih => rw [List.cons_append, lastLeft_cons, ih, lastLeft_cons]

end Change

namespace Registrations.WellKeyed

variable {rs next : Registrations} {c : Change} {o : Outcome}

theorem entryWithId?_eq (h : rs.WellKeyed) (id : String) :
    Registry.entryWithId? rs id = (rs.get? id).map (id, ·) := by
  cases hentry : Registry.entryWithId? rs id with
  | some e =>
    obtain ⟨hmem, hid⟩ := Registry.mem_of_entryWithId? hentry
    have hkey : e.1 = id := (h e hmem).trans hid
    rw [← hkey, Dictionary.mem_entries_iff.mp hmem]
    rfl
  | none =>
    cases hget : rs.get? id with
    | none => rfl
    | some registration =>
      have hmem : (id, registration) ∈ rs.entries := Dictionary.mem_entries_iff.mpr hget
      have hid : registration.id = id := (h _ hmem).symm
      simpa [hid] using List.find?_eq_none.mp hentry _ hmem

theorem plan_remove (h : rs.WellKeyed) (id : String) :
    (Change.remove id).plan rs =
      (rs.get? id).map fun registration => (.removed registration, rs.erase id) := by
  rw [Change.plan, h.entryWithId?_eq, Option.map_map]
  rfl

theorem get?_plan (h : rs.WellKeyed) (hplan : c.plan rs = some (o, next)) :
    next.get? = fun id => if c.subject = id then c.leaves else rs.get? id := by
  funext id
  cases c with
  | enter registration =>
    obtain ⟨-, rfl⟩ := Prod.mk.inj (Option.some.inj hplan)
    exact Dictionary.get?_insert rs registration.id id registration
  | remove id' =>
    rw [h.plan_remove] at hplan
    obtain ⟨registration, -, hnext⟩ := Option.map_eq_some_iff.mp hplan
    obtain ⟨-, rfl⟩ := Prod.mk.inj hnext
    exact Dictionary.get?_erase rs id' id

end Registrations.WellKeyed

def Outcome.onceSaved (o : Outcome) : Except SaveFault Unit → Outcome
  | .ok () => o
  | .error f => .notSaved f

namespace Registry

variable {r : Registry} {x : SessionStep}

theorem outcome_eq (r : Registry) (c : Change) :
    (r.make c).1 = match c.plan r.registrations with
      | none => .absent
      | some (o, next) => o.onceSaved (r.store.save next).1 := by
  rw [make_eq]
  cases c.plan r.registrations with
  | none => rfl
  | some p =>
    obtain ⟨o, next⟩ := p
    dsimp only
    rw [commit]
    rcases r.store.save next with ⟨result, store⟩
    cases result <;> rfl

theorem get?_eq (r : Registry) : r.get? = r.registrations.get? := rfl

theorem make_outcome (r : Registry) (c : Change) :
    match c with
    | .enter _ => (r.make c).1 = .entered ∨ ∃ f, (r.make c).1 = .notSaved f
    | .remove _ => (r.make c).1 = .absent ∨ (∃ registration, (r.make c).1 = .removed registration) ∨
        ∃ f, (r.make c).1 = .notSaved f := by
  cases c with
  | enter registration =>
    rw [make]
    rcases r.upsert registration with ⟨result, r'⟩
    cases result with
    | ok u => exact Or.inl rfl
    | error f => exact Or.inr ⟨f, rfl⟩
  | remove id =>
    rw [make]
    rcases r.remove id with ⟨result, r'⟩
    cases result with
    | error f => exact Or.inr (Or.inr ⟨f, rfl⟩)
    | ok removed =>
      cases removed with
      | none => exact Or.inl rfl
      | some registration => exact Or.inr (Or.inl ⟨registration, rfl⟩)

theorem registrations_after_of_no_change (h : x.change? = none) (hx : x = .reload → r.Synced) :
    (r.after x).registrations = r.registrations := by
  cases x with
  | upsert registration => cases h
  | remove id => cases h
  | request req => rw [after_request h]
  | reload =>
    change ((load r.store).toOption.getD r).registrations = r.registrations
    rw [(hx rfl).load]
    rfl
  | _ => rfl

end Registry

/-- The change that the result of a step tells to be made. -/
def SessionStep.acknowledged? (x : SessionStep) (result : StepResult) : Option Change :=
  match x, result with
  | .upsert registration, .done => some (.enter registration)
  | .remove id, .found (some _) => some (.remove id)
  | .request req, .response response =>
    req.change?.filter fun c => response = c.acknowledgement.response
  | _, _ => none

namespace Session

variable {s : Session} {x : SessionStep} {xs : List SessionStep}

def acknowledged (s : Session) (xs : List SessionStep) : List Change :=
  (xs.zip (s.trace xs)).filterMap fun (x, result, _) => x.acknowledged? result

theorem acknowledged_cons (s : Session) (x : SessionStep) (xs : List SessionStep) :
    s.acknowledged (x :: xs) =
      (x.acknowledged? (s.step x).1).toList ++ (s.step x).2.acknowledged xs := by
  cases hresult : x.acknowledged? (s.step x).1 <;>
    simp [acknowledged, trace, hresult]

theorem acknowledged?_step {c : Change} (h : x.change? = some c) (s : Session) :
    x.acknowledged? (s.step x).1 =
      if (s.service.registry.make c).1.isSaved then some c else none := by
  have houtcome := Registry.make_outcome s.service.registry c
  rw [result_step h]
  cases x with
  | upsert registration =>
    obtain rfl : Change.enter registration = c := Option.some.inj h
    rcases houtcome with ho | ⟨f, ho⟩ <;> rw [ho] <;> rfl
  | remove id =>
    obtain rfl : Change.remove id = c := Option.some.inj h
    rcases houtcome with ho | ⟨registration, ho⟩ | ⟨f, ho⟩ <;> rw [ho] <;> rfl
  | request req =>
    have hc : req.change? = some c := h
    -- The other answers to a change differ from its acknowledgement.
    have hnotSaved : ∀ c : Change, Answer.notSaved.response ≠ c.acknowledgement.response := by
      intro c
      cases c with
      | enter registration =>
        change Answer.notSaved.response ≠ Answer.registered.response
        decide
      | remove id =>
        change Answer.notSaved.response ≠ Answer.unregistered.response
        decide
    have habsent : Answer.notRegistered.response ≠ Answer.unregistered.response := by
      decide +kernel
    simp only [SessionStep.acknowledged?, SessionStep.report, hc, Option.filter_some]
    cases c with
    | enter registration =>
      rcases houtcome with ho | ⟨f, ho⟩
      · simp [ho, Outcome.answer, Outcome.isSaved, Change.acknowledgement]
      · simp [ho, Outcome.answer, Outcome.isSaved, hnotSaved]
    | remove id =>
      rcases houtcome with ho | ⟨registration, ho⟩ | ⟨f, ho⟩
      · simp [ho, Outcome.answer, Outcome.isSaved, Change.acknowledgement, habsent]
      · simp [ho, Outcome.answer, Outcome.isSaved, Change.acknowledgement]
      · simp [ho, Outcome.answer, Outcome.isSaved, hnotSaved]
  | _ => cases h

theorem acknowledged?_of_no_change (h : x.change? = none) (result : StepResult) :
    x.acknowledged? result = none := by
  cases x with
  | upsert registration => cases h
  | remove id => cases h
  | request req =>
    have hc : req.change? = none := h
    cases result <;> simp [SessionStep.acknowledged?, hc]
  | _ => rfl

/-- The registrations of a session that no other registrations get into: it is in step with its
store and nobody edits files, or it loads nothing again. -/
def Undisturbed (s : Session) (xs : List SessionStep) : Prop :=
  (s.service.registry.Synced ∧ ∀ x ∈ xs, x.isEdit = false) ∨ ∀ x ∈ xs, x ≠ .reload

theorem Undisturbed.step (h : s.Undisturbed (x :: xs)) : (s.step x).2.Undisturbed xs := by
  rcases h with ⟨hsynced, hxs⟩ | hxs
  · obtain ⟨hx, hxs⟩ := List.forall_mem_cons.mp hxs
    refine Or.inl ⟨?_, hxs⟩
    rw [registry_step]
    apply hsynced.after
    rintro contents rfl
    cases hx
  · exact Or.inr (List.forall_mem_cons.mp hxs).2

theorem Undisturbed.synced_of_reload (h : s.Undisturbed (x :: xs)) (hx : x = .reload) :
    s.service.registry.Synced := by
  rcases h with ⟨hsynced, -⟩ | hxs
  · exact hsynced
  · exact absurd hx (List.forall_mem_cons.mp hxs).1

theorem Undisturbed.get?_step (h : s.Undisturbed (x :: xs))
    (hkeys : s.service.registry.registrations.WellKeyed) :
    (s.step x).2.service.registry.registrations.WellKeyed ∧
    (s.step x).2.service.registry.get? =
      Change.lastLeft s.service.registry.get? (x.acknowledged? (s.step x).1).toList := by
  cases hchange : x.change? with
  | none =>
    have hkept : (s.step x).2.service.registry.registrations =
        s.service.registry.registrations := by
      rw [registry_step]
      exact Registry.registrations_after_of_no_change hchange h.synced_of_reload
    rw [acknowledged?_of_no_change hchange, Registry.get?_eq, hkept]
    exact ⟨hkeys, rfl⟩
  | some c =>
    rw [acknowledged?_step hchange, registry_step, Registry.after_of_change hchange]
    cases hsaved : (s.service.registry.make c).1.isSaved with
    | false =>
      rw [Registry.get?_eq, (Registry.kept_of_not_isSaved hsaved).1]
      exact ⟨hkeys, rfl⟩
    | true =>
      have hplan := Registry.plan_of_isSaved hsaved
      refine ⟨hkeys.plan hplan, ?_⟩
      rw [if_pos rfl, Option.toList_some, Change.lastLeft_cons]
      exact hkeys.get?_plan hplan

/-- A run keeps registrations under their identifiers, and what it acknowledges tells what is kept
afterwards. -/
theorem Undisturbed.get?_run (h : s.Undisturbed xs)
    (hkeys : s.service.registry.registrations.WellKeyed) :
    (s.run xs).service.registry.registrations.WellKeyed ∧
    (s.run xs).service.registry.get? =
      Change.lastLeft s.service.registry.get? (s.acknowledged xs) := by
  induction xs generalizing s with
  | nil => exact ⟨hkeys, rfl⟩
  | cons x xs ih =>
    obtain ⟨hkeys', hget'⟩ := h.get?_step hkeys
    obtain ⟨hkeys'', hget''⟩ := ih h.step hkeys'
    refine ⟨hkeys'', ?_⟩
    rw [acknowledged_cons, Change.lastLeft_append, ← hget']
    exact hget''

end Session

/-- A session that starts well-keyed is a plain map: what is kept for an identifier is what the last
acknowledged change of it left. -/
theorem well_keyed_session_is_map {settings : Settings} {store : Store}
    {surroundings : Surroundings} {s₀ : Session}
    (h : Session.start settings store surroundings = .ok s₀)
    (hkeys : s₀.service.registry.registrations.WellKeyed) (xs : List SessionStep)
    (hxs : (∀ x ∈ xs, x.isEdit = false) ∨ ∀ x ∈ xs, x ≠ .reload) :
    let kept := Change.lastLeft s₀.service.registry.get? (s₀.acknowledged xs)
    let s := s₀.run xs
    let r := s.service.registry
    (∀ e ∈ r.registrations.entries, e.1 = e.2.id) ∧
    (∀ id, r.get? id = kept id) ∧
    (∀ (x : SessionStep) (registration : Registration),
      x.change? = some (.enter registration) → (s.step x).1 = x.report
        (Outcome.entered.onceSaved
          (r.store.save (r.registrations.insert registration.id registration)).1)) ∧
    ∀ (x : SessionStep) (id : String), x.change? = some (.remove id) → (s.step x).1 = x.report
      (match kept id with
        | none => .absent
        | some registration =>
          (Outcome.removed registration).onceSaved (r.store.save (r.registrations.erase id)).1) := by
  intro kept s r
  have hsafe : s₀.Undisturbed xs := by
    rcases hxs with hxs | hxs
    · exact Or.inl ⟨(Registry.synced_of_load (Session.start_eq_ok h)).1, hxs⟩
    · exact Or.inr hxs
  obtain ⟨hkeys', hget⟩ := hsafe.get?_run hkeys
  have hkept : ∀ id, r.get? id = kept id := congrFun hget
  refine ⟨hkeys', hkept, fun x registration hx => ?_, fun x id hx => ?_⟩
  · rw [Session.result_step hx, Registry.outcome_eq]
    rfl
  · have hid : kept id = (s₀.run xs).service.registry.registrations.get? id := (hkept id).symm
    rw [Session.result_step hx, Registry.outcome_eq, hkeys'.plan_remove, hid]
    cases (s₀.run xs).service.registry.registrations.get? id <;> rfl

/-- A removal that is not saved does not count, and one that is saved does. -/
theorem well_keyed_session_is_map_faults :
    let device : Registration := ⟨"dev", "https://wns.example/1", some 7, none⟩
    let again : Registration := ⟨"dev", "https://wns.example/2", none, some "PC"⟩
    let store : Store := .memory ⟨Dictionary.ofList [("dev", device)], 0, .crash⟩
    let steps : List SessionStep := [.remove "dev", .setSaveMode .succeed]
    ∀ settings surroundings, ∃ s, Session.start settings store surroundings = .ok s ∧
      (s.run steps).service.registry.get? "dev" = some device ∧
      ((s.run steps).step (.remove "dev")).1 = .found (some device) ∧
      (s.run (steps ++ [.remove "dev"])).service.registry.get? "dev" = none ∧
      (s.run (steps ++ [.remove "dev", .upsert again])).service.registry.get? "dev" =
        some again := by
  intro device again store steps settings surroundings
  have hload : store.load = .ok (Dictionary.ofList [("dev", device)]) := rfl
  obtain ⟨s, hs, hservice⟩ := Session.start_of_load hload settings surroundings
  have hkeys : s.service.registry.registrations.WellKeyed := by
    rw [hservice]
    intro e he
    obtain rfl : e = ("dev", device) := List.mem_singleton.mp he
    rfl
  have hmap := well_keyed_session_is_map hs hkeys
  obtain ⟨-, hget, -, hremove⟩ := hmap steps (Or.inl (by simp [steps, SessionStep.isEdit]))
  obtain ⟨-, hget', -⟩ := hmap (steps ++ [.remove "dev"])
    (Or.inl (by simp [steps, SessionStep.isEdit]))
  obtain ⟨-, hget'', -⟩ := hmap (steps ++ [.remove "dev", .upsert again])
    (Or.inl (by simp [steps, SessionStep.isEdit]))
  have hresult := hremove (.remove "dev") "dev" rfl
  rw [← hget "dev"] at hresult
  obtain ⟨_, service, _, _⟩ := s
  subst hservice
  refine ⟨_, hs, ?_, ?_, ?_, ?_⟩
  · rw [hget]
    rfl
  · rw [hresult]
    rfl
  · rw [hget']
    rfl
  · rw [hget'']
    rfl

end ToastRelay
