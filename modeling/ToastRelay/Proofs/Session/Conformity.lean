import ToastRelay.Proofs.Registration.Reread
import ToastRelay.Proofs.Session.Answers
import ToastRelay.Proofs.Session.Restart

/-!
# Registrations stay acceptable

What the schema accepts it accepts again when it was written as JSON and read, alone or as an entry
of the registrations file. Requests enter only what the schema accepts, under its identifier. So a
service that starts with registrations that the schema would accept has only such registrations.
-/

namespace ToastRelay
set_option autoImplicit false

namespace Registration

variable {r : Registration} {v : Json}

def Conforms (r : Registration) : Prop := ofRequest r.toJson = .ok r

theorem conforms_of_ofRequest (h : ofRequest v = .ok r) : r.Conforms :=
  ofRequest_toJson_iff.mpr (isWebAddress_of_ofRequest h)

theorem Conforms.ofRequest_reread (h : r.Conforms) : ofRequest (.object r.reread.entries) = .ok r :=
  Registration.ofRequest_reread (ofRequest_toJson_iff.mp h)

theorem conforms_of_change {req : HttpRequest} (h : req.change? = some (.enter r)) :
    r.Conforms := by
  have hpath : Service.path? req.target = some Service.registrationPath := by
    by_contra hpath
    rw [HttpRequest.change?, if_neg hpath] at h
    cases h
  obtain ⟨-, v, -, hrequest⟩ := (HttpRequest.change?_eq_enter hpath).mp h
  exact conforms_of_ofRequest hrequest

end Registration

namespace RegistrationsFile

/-- What a file holds under a key is accepted as a registration. -/
def AcceptedIn (content : Bytes) (key : String) (r : Registration) : Prop :=
  ∃ entries v, Json.ofBytes content = .ok (.object entries) ∧ valueAt? key entries = some v ∧
    Registration.ofRequest v = .ok r

theorem acceptedIn_contentOf {rs : Registrations} {e : String × Registration}
    (he : e ∈ rs.entries) (h : e.2.Conforms) : AcceptedIn (contentOf rs) e.1 e.2 := by
  have hmem : (e.1, Json.object e.2.reread.entries) ∈ rs.reread := List.mem_map.mpr ⟨e, he, rfl⟩
  have hvalue : valueAt? e.1 rs.reread = some (.object e.2.reread.entries) :=
    Dictionary.mem_entries_iff (d := ⟨rs.reread, rs.ascending_reread⟩).mp hmem
  exact ⟨_, _, rs.ofBytes_contentOf, hvalue, h.ofRequest_reread⟩

end RegistrationsFile

namespace Registrations

variable {rs next : Registrations} {c : Change} {o : Outcome}

/-- Every registration conforms and is kept under the identifier that it carries. -/
def Conforming (rs : Registrations) : Prop := ∀ e ∈ rs.entries, e.1 = e.2.id ∧ e.2.Conforms

theorem Conforming.plan (h : rs.Conforming) (hc : ∀ r, c = .enter r → r.Conforms)
    (hplan : c.plan rs = some (o, next)) : next.Conforming := by
  have hkeyed : next.WellKeyed := WellKeyed.plan (fun e he => (h e he).1) hplan
  refine fun e he => ⟨hkeyed e he, ?_⟩
  cases c with
  | enter registration =>
    obtain ⟨-, rfl⟩ := Prod.mk.inj (Option.some.inj hplan)
    rcases Dictionary.mem_insert_iff.mp he with rfl | ⟨-, he⟩
    · exact hc registration rfl
    · exact (h e he).2
  | remove id =>
    obtain ⟨key, registration, -, -, rfl⟩ := Change.plan_remove hplan
    exact (h e (Dictionary.mem_erase_iff.mp he).2).2

end Registrations

namespace Registry

variable {r : Registry} {files : FileTree} {path : String} {content : Except FileError Bytes}

/-- The file at the path holds what it held, or else what is written for the registrations. -/
def FileFollows (path : String) (content : Except FileError Bytes) (r : Registry) : Prop :=
  ∃ files, r.store = .file files path ∧ (files.read path = content ∨
    files.read path = .ok (RegistrationsFile.contentOf r.registrations))

theorem FileFollows.make (h : r.FileFollows path content) (c : Change) :
    (r.make c).2.FileFollows path content := by
  obtain ⟨files, hfiles, hread⟩ := h
  rcases r.make_cases c with ⟨-, hmake⟩ | ⟨o, next, store, -, hsave, hmake⟩ |
    ⟨o, next, f, store, -, hsave, hmake⟩
  · rw [hmake]
    exact ⟨files, hfiles, hread⟩
  all_goals
    rw [hmake]
    rw [hfiles, Store.save] at hsave
    rcases hfile : RegistrationsFile.save files path next with ⟨result, files'⟩
    rw [hfile] at hsave
    cases result <;> cases hsave
  · exact ⟨files', rfl, Or.inr (RegistrationsFile.read_of_saved hfile)⟩
  · refine ⟨files', rfl, ?_⟩
    rw [RegistrationsFile.read_of_not_saved hfile]
    exact hread

theorem FileFollows.after (h : r.FileFollows path content) (hsynced : r.Synced)
    {x : SessionStep} (hx : x.isEdit = false) : (r.after x).FileFollows path content := by
  rcases hsynced.after_cases x with ⟨c, -, hafter⟩ |
    ⟨-, hafter | ⟨mode, -, hafter⟩ | ⟨contents, rfl, hafter⟩⟩
  · rw [hafter]
    exact h.make c
  · rw [hafter]
    exact h
  · obtain ⟨files, hfiles, hread⟩ := h
    rw [hafter]
    exact ⟨files, congrArg (·.setSaveMode mode) hfiles, hread⟩
  · cases hx

theorem read_of_upsert {registration : Registration} {next : Registry}
    (hstore : r.store = .file files path) (h : r.upsert registration = (.ok (), next)) :
    ∃ files', next.store = .file files' path ∧
      files'.read path = .ok (RegistrationsFile.contentOf next.registrations) ∧
      (registration.id, registration) ∈ next.registrations.entries := by
  rw [upsert, commit, hstore, Store.save] at h
  rcases hfile : RegistrationsFile.save files path
    (r.registrations.insert registration.id registration) with ⟨result, files'⟩
  rw [hfile] at h
  cases result <;> cases h
  exact ⟨files', rfl, RegistrationsFile.read_of_saved hfile,
    Dictionary.mem_insert_iff.mpr (Or.inl rfl)⟩

end Registry

namespace Session

variable {s : Session} {xs : List SessionStep}

theorem conforming_run (hs : s.service.registry.Synced)
    (h : s.service.registry.registrations.Conforming) (hedits : ∀ x ∈ xs, x.isEdit = false)
    (hupserts : ∀ r, SessionStep.upsert r ∈ xs → r.Conforms) :
    (s.run xs).service.registry.registrations.Conforming := by
  refine registrations_run hs h hedits fun x hx c rs o next hchange hplan hrs => ?_
  refine hrs.plan ?_ hplan
  rintro r rfl
  cases x with
  | upsert registration =>
    obtain rfl : registration = r := Change.enter.inj (Option.some.inj hchange)
    exact hupserts registration hx
  | request req => exact Registration.conforms_of_change hchange
  | remove id => cases Option.some.inj hchange
  | _ => cases hchange

theorem fileFollows_run {path : String} {content : Except FileError Bytes}
    (hs : s.service.registry.Synced) (h : s.service.registry.FileFollows path content)
    (hedits : ∀ x ∈ xs, x.isEdit = false) :
    (s.run xs).service.registry.FileFollows path content := by
  refine (run_induction (P := fun r => r.Synced ∧ r.FileFollows path content) ⟨hs, h⟩ ?_).2
  intro r x hx hr
  refine ⟨hr.1.after ?_, hr.2.after hr.1 (hedits x hx)⟩
  rintro contents rfl
  cases hedits _ hx

end Session

/-- What the schema accepts it accepts again as it is written, alone or in the file. So a service
that starts with acceptable registrations has only such. -/
theorem registrations_stay_valid :
    (∀ v r, Registration.ofRequest v = .ok r →
      Registration.ofRequest r.toJson = .ok r ∧
      (∃ v', Json.ofBytes (Text.encode r.toJson.indented) = .ok v' ∧
        Registration.ofRequest v' = .ok r) ∧
      ∀ (registry next : Registry) (files : FileTree) (path : String),
        registry.store = .file files path → registry.upsert r = (.ok (), next) →
        ∃ files' content, next.store = .file files' path ∧ files'.read path = .ok content ∧
          RegistrationsFile.AcceptedIn content r.id r) ∧
    ∀ settings store surroundings s₀, Session.start settings store surroundings = .ok s₀ →
      s₀.service.registry.registrations.Conforming →
      ∀ xs : List SessionStep, (∀ x ∈ xs, x.isEdit = false) →
        (∀ r, SessionStep.upsert r ∈ xs → r.Conforms) →
        (s₀.run xs).service.registry.registrations.Conforming ∧
        ∀ files path, store = .file files path →
          ∃ files', (s₀.run xs).service.registry.store = .file files' path ∧
            (files'.read path = files.read path ∨
              ∃ content, files'.read path = .ok content ∧
                ∀ e ∈ (s₀.run xs).service.registry.registrations.entries,
                  RegistrationsFile.AcceptedIn content e.1 e.2) := by
  constructor
  · intro v r hv
    have hr : r.Conforms := Registration.conforms_of_ofRequest hv
    refine ⟨hr, ⟨_, r.ofBytes_indented, hr.ofRequest_reread⟩, ?_⟩
    intro registry next files path hstore hupsert
    obtain ⟨files', hfiles', hread, hentry⟩ := Registry.read_of_upsert hstore hupsert
    exact ⟨files', _, hfiles', hread, RegistrationsFile.acceptedIn_contentOf hentry hr⟩
  · intro settings store surroundings s₀ hstart hconforming xs hedits hupserts
    obtain ⟨hsynced, hstore⟩ := Registry.synced_of_load (Session.start_eq_ok hstart)
    have hrun := Session.conforming_run hsynced hconforming hedits hupserts
    refine ⟨hrun, fun files path hfile => ?_⟩
    have hfollows : s₀.service.registry.FileFollows path (files.read path) :=
      ⟨files, hstore.trans hfile, Or.inl rfl⟩
    obtain ⟨files', hfiles', hread | hread⟩ := Session.fileFollows_run hsynced hfollows hedits
    · exact ⟨files', hfiles', Or.inl hread⟩
    · refine ⟨files', hfiles', Or.inr ⟨_, hread, fun e he => ?_⟩⟩
      exact RegistrationsFile.acceptedIn_contentOf he (hrun e he).2

/-- A device that gives no expiry and an empty name is entered beside one that the file holds
already. -/
theorem registrations_stay_valid_posted :
    let v : Json := .object [("channel", .string "https://wns.example/1"), ("expiry", .null),
      ("id", .string "dev"), ("name", .string "")]
    let device : Registration := ⟨"dev", "https://wns.example/1", none, some ""⟩
    let older : Registration := ⟨"tab", "http://wns.example:8080/2", some 1700000000, none⟩
    let rs : Registrations := Dictionary.ofList [("tab", older)]
    let store : Store := .file (filesWith rs) "registrations.json"
    Registration.ofRequest v = .ok device ∧ device.toJson ≠ v ∧
    Registration.ofRequest device.toJson = .ok device ∧
    (∃ (files : FileTree) (content : Bytes), files.read "registrations.json" = .ok content ∧
      RegistrationsFile.AcceptedIn content "dev" device) ∧
    ∀ settings surroundings (reqs : List HttpRequest), ∃ s,
      Session.start settings store surroundings = .ok s ∧
      s.service.registry.registrations.entries = [("tab", older)] ∧
      (s.run (reqs.map .request)).service.registry.registrations.Conforming := by
  intro v device older rs store
  have hv : Registration.ofRequest v = .ok device := by decide +kernel
  obtain ⟨haccepted, hrun⟩ := registrations_stay_valid
  obtain ⟨hdevice, -, hupsert⟩ := haccepted v device hv
  have hlength : device.toJson ≠ v := fun h =>
    absurd (congrArg List.length (Json.object.inj h)) (by decide)
  refine ⟨hv, hlength, hdevice, ?_, fun settings surroundings reqs => ?_⟩
  · have hstored : ((⟨rs, store⟩ : Registry).upsert device).1 = .ok () := rfl
    obtain ⟨files, content, -, hread, hcontent⟩ :=
      hupsert _ _ (filesWith rs) "registrations.json" rfl (Prod.ext hstored rfl)
    exact ⟨files, content, hread, hcontent⟩
  · have hload : store.load = .ok rs := load_filesWith rs
    obtain ⟨s, hs, hservice⟩ := Session.start_of_load hload settings surroundings
    have hentries : s.service.registry.registrations.entries = [("tab", older)] := by
      rw [hservice]
      exact Dictionary.entries_ofList_of_ascending (List.pairwise_singleton _ _)
    have hconforming : s.service.registry.registrations.Conforming := by
      intro e he
      rw [hentries] at he
      obtain rfl : e = ("tab", older) := List.mem_singleton.mp he
      exact ⟨rfl, Registration.ofRequest_toJson_iff.mpr (by decide +kernel)⟩
    have hrequests := hrun settings _ surroundings s hs hconforming (reqs.map .request)
      (by simp [SessionStep.isEdit]) (by simp)
    exact ⟨s, hs, hentries, hrequests.1⟩

end ToastRelay
