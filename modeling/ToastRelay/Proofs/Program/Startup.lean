import Mathlib.Data.List.Basic
import ToastRelay.FileTree.Contents
import ToastRelay.Program
import ToastRelay.Proofs.Endpoint.Change

/-!
# Starting

The service starts in three stages: the settings are taken from the environment, the registrations
are loaded, and the port is listened at. Each of them stops the start if it fails, before the next
one is tried, and none of them writes a file. So a file of registrations that is rejected is left to
the operator as it is, by a service that has not yet done anything.
-/

namespace ToastRelay
set_option autoImplicit false

namespace Server

variable {settings : Settings} {m : Machine}

theorem Startup.bind_apply {α β : Type} (action : Startup α) (f : α → Startup β) (m : Machine)
    (w : Surroundings) :
    (action >>= f) m w = f (action m w).1.1 (action m w).1.2 (action m w).2 := rfl

theorem Startup.lift_apply {α : Type} (act : Act α) (m : Machine) (w : Surroundings) :
    (liftM act : Startup α) m w = (((act w).1, m), (act w).2) := rfl

theorem load_of_rejected {files : FileTree} {e : ErrorChain}
    (h : RegistrationsFile.load files settings.registrationsFile = .error e) :
    load settings (.file files settings.registrationsFile) = .error (loadingError settings e) := by
  rw [load, Registry.load, Store.load, h]
  rfl

theorem load_of_accepted {files : FileTree} {rs : Registrations}
    (h : RegistrationsFile.load files settings.registrationsFile = .ok rs) :
    load settings (.file files settings.registrationsFile) =
      .ok ⟨⟨rs, .file files settings.registrationsFile⟩, TokenSource.ofSettings settings⟩ := by
  rw [load, Registry.load, Store.load, h]
  rfl

theorem loadFiles_eq (settings : Settings) (m : Machine) (w : Surroundings) :
    loadFiles settings m w =
      ((load settings (.file m.files settings.registrationsFile), m), w) := by
  have hfiles :
      filesAfter m.files (load settings (.file m.files settings.registrationsFile)) = m.files := by
    cases hload : RegistrationsFile.load m.files settings.registrationsFile with
    | error e => rw [load_of_rejected hload, filesAfter]
    | ok rs =>
      rw [load_of_accepted hload]
      rfl
  rw [loadFiles, hfiles]
  rfl

theorem start_of_rejected {e : ErrorChain}
    (h : RegistrationsFile.load m.files settings.registrationsFile = .error e) (w : Surroundings) :
    start settings m w = ((.error (loadingError settings e), m), w) := by
  rw [start, Startup.bind_apply, loadFiles_eq, load_of_rejected h]
  rfl

def listeningRecords (settings : Settings) (rs : Registrations) : List LogRecord :=
  [⟨.info, .registry, "loaded " ++ toString rs.size ++ " push registrations"⟩,
    ⟨.info, .server, "listening on " ++ address settings.port⟩]

theorem recordAll_listeningRecords (settings : Settings) (registry : Registry) (w : Surroundings) :
    (recordListening settings.port (registry.recordLoad w).2).2 =
      w.recordAll (listeningRecords settings registry.registrations) :=
  w.recordAll_append [_] [_]

theorem listen_of_portFault {port : UInt16} {reason : String} (h : m.portFault? port = some reason)
    (w : Surroundings) : listen port m w = ((.error (bindingError port reason), m), w) := by
  rw [listen, h]
  rfl

theorem listen_of_free {port : UInt16} (h : m.portFault? port = none) (w : Surroundings) :
    listen port m w = ((.ok (), { m with listened := m.listened ++ [port] }), w) := by
  rw [listen, h]
  rfl

theorem start_of_portFault {rs : Registrations}
    (h : RegistrationsFile.load m.files settings.registrationsFile = .ok rs) {reason : String}
    (hfault : m.portFault? settings.port = some reason) (w : Surroundings) :
    start settings m w = ((.error (bindingError settings.port reason), m),
      w.recordAll (listeningRecords settings rs)) := by
  rw [start, Startup.bind_apply, loadFiles_eq, load_of_accepted h]
  simp only [Startup.bind_apply, Startup.lift_apply]
  rw [recordAll_listeningRecords, listen_of_portFault hfault]
  rfl

theorem start_of_free {rs : Registrations}
    (h : RegistrationsFile.load m.files settings.registrationsFile = .ok rs)
    (hfree : m.portFault? settings.port = none) (w : Surroundings) :
    start settings m w =
      ((.ok ⟨⟨rs, .file m.files settings.registrationsFile⟩, TokenSource.ofSettings settings⟩,
        { m with listened := m.listened ++ [settings.port] }),
      w.recordAll (listeningRecords settings rs ++ [⟨.info, .server, "shutting down"⟩])) := by
  rw [start, Startup.bind_apply, loadFiles_eq, load_of_accepted h]
  simp only [Startup.bind_apply, Startup.lift_apply]
  rw [recordAll_listeningRecords, listen_of_free hfree, ← Surroundings.recordAll_append]
  rfl

theorem start_cases (settings : Settings) (m : Machine) (w : Surroundings) :
    (∃ e, RegistrationsFile.load m.files settings.registrationsFile = .error e ∧
      start settings m w = ((.error (loadingError settings e), m), w)) ∨
    ∃ rs, RegistrationsFile.load m.files settings.registrationsFile = .ok rs ∧
      ((∃ reason, m.portFault? settings.port = some reason ∧
        start settings m w = ((.error (bindingError settings.port reason), m),
          w.recordAll (listeningRecords settings rs))) ∨
      m.portFault? settings.port = none ∧
        start settings m w =
          ((.ok ⟨⟨rs, .file m.files settings.registrationsFile⟩, TokenSource.ofSettings settings⟩,
            { m with listened := m.listened ++ [settings.port] }),
          w.recordAll (listeningRecords settings rs ++ [⟨.info, .server, "shutting down"⟩]))) := by
  cases hload : RegistrationsFile.load m.files settings.registrationsFile with
  | error e => exact Or.inl ⟨e, rfl, start_of_rejected hload w⟩
  | ok rs =>
    refine Or.inr ⟨rs, rfl, ?_⟩
    cases hport : m.portFault? settings.port with
    | some reason => exact Or.inl ⟨reason, rfl, start_of_portFault hload hport w⟩
    | none => exact Or.inr ⟨rfl, start_of_free hload hport w⟩

theorem files_start (settings : Settings) (m : Machine) (w : Surroundings) :
    (start settings m w).1.2.files = m.files := by
  rcases start_cases settings m w with ⟨e, -, h⟩ | ⟨rs, -, ⟨reason, -, h⟩ | ⟨-, h⟩⟩
  all_goals rw [h]

/-- A start succeeds if the file is accepted and the port is free, and with what the file holds. -/
theorem start_eq_ok_iff (w : Surroundings) {service : Service} :
    (start settings m w).1.1 = .ok service ↔
      ∃ rs, RegistrationsFile.load m.files settings.registrationsFile = .ok rs ∧
        m.portFault? settings.port = none ∧
        service = ⟨⟨rs, .file m.files settings.registrationsFile⟩,
          TokenSource.ofSettings settings⟩ := by
  rcases start_cases settings m w with ⟨e, hload, h⟩ | ⟨rs, hload, ⟨reason, hport, h⟩ | ⟨hport, h⟩⟩
  · simp [h, hload]
  · simp [h, hload, hport]
  · simp [h, hload, hport, eq_comm]

theorem listened_of_start_eq_ok {w : Surroundings} {service : Service}
    (h : (start settings m w).1.1 = .ok service) :
    (start settings m w).1.2.listened = m.listened ++ [settings.port] := by
  obtain ⟨rs, hload, hport, -⟩ := (start_eq_ok_iff w).mp h
  rw [start_of_free hload hport]

theorem mem_log_start {rs : Registrations}
    (h : RegistrationsFile.load m.files settings.registrationsFile = .ok rs) (w : Surroundings) :
    ⟨.info, .server, "listening on " ++ address settings.port⟩ ∈ (start settings m w).2.log := by
  rcases start_cases settings m w with ⟨e, hload, -⟩ | ⟨rs', -, ⟨reason, -, hstart⟩ | ⟨-, hstart⟩⟩
  · cases h.symm.trans hload
  all_goals
    rw [hstart]
    simp [Surroundings.recordAll, listeningRecords]

end Server

namespace Program

variable {environment : Environment} {m : Server.Machine}

theorem start_eq (environment : Environment) (m : Server.Machine) (w : Surroundings) :
    start environment m w = match settings environment m.files with
      | .error e => ((.error e, m), w)
      | .ok s => Server.start s m (recordCredentials s w).2 := by
  rw [start, Server.Startup.bind_apply]
  change (match settings environment m.files with
    | .error e => (return .error e : Server.Startup (Except ErrorChain Service))
    | .ok s => do
      recordCredentials s
      Server.start s) m w = _
  cases settings environment m.files <;> rfl

theorem files_start (environment : Environment) (m : Server.Machine) (w : Surroundings) :
    (start environment m w).1.2.files = m.files := by
  cases h : settings environment m.files with
  | error e => rw [start_eq, h]
  | ok s =>
    rw [start_eq, h]
    exact Server.files_start s m _

theorem exitCode_eq_zero_iff {result : Except ErrorChain Service} :
    exitCode result = 0 ↔ ∃ service, result = .ok service := by
  cases result <;> simp [exitCode]

theorem exitCode_start_eq_zero_iff (environment : Environment) (m : Server.Machine)
    (w : Surroundings) : exitCode (start environment m w).1.1 = 0 ↔
      ∃ s service, settings environment m.files = .ok s ∧
        (Server.start s m w).1.1 = .ok service := by
  rw [exitCode_eq_zero_iff, start_eq]
  cases h : settings environment m.files with
  | error e => simp
  | ok s =>
    -- The warning about the credentials comes before the start, which does not read the log.
    have hsame : ∀ service, (Server.start s m (recordCredentials s w).2).1.1 = .ok service ↔
        (Server.start s m w).1.1 = .ok service := by
      intro service
      rw [Server.start_eq_ok_iff, Server.start_eq_ok_iff]
    simp [hsame]

end Program

/-- Starting changes no file, and it succeeds exactly if the registrations file is accepted and the
port can be listened at. -/
theorem starting_reads_only_and_fails_closed (environment : Environment) (m : Server.Machine)
    (w : Surroundings) :
    let program := Program.start environment m w
    program.1.2.files = m.files ∧
    (Program.exitCode program.1.1 = 0 ↔ ∃ settings service,
      Settings.ofEnvironment (EnvFile.extend environment m.files) = .ok settings ∧
        (Server.start settings m w).1.1 = .ok service) ∧
    ∀ settings : Settings,
      let path := settings.registrationsFile
      let server := Server.start settings m w
      server.1.2.files = m.files ∧
      ((∃ service, server.1.1 = .ok service) ↔
        (∃ rs, RegistrationsFile.load m.files path = .ok rs) ∧
          m.portFault? settings.port = none) ∧
      (∀ service, server.1.1 = .ok service →
        RegistrationsFile.load m.files path = .ok service.registry.registrations ∧
        service.registry.store = .file m.files path ∧
        server.1.2.listened = m.listened ++ [settings.port]) ∧
      (∀ rs, RegistrationsFile.load m.files path = .ok rs →
        ⟨.info, .server, "listening on " ++ Server.address settings.port⟩ ∈ server.2.log) ∧
      ∀ e, RegistrationsFile.load m.files path = .error e →
        server.1.1 = .error ⟨("loading " ++ path) :: e.causes⟩ ∧
        server.1.2.listened = m.listened ∧ server.2.log = w.log := by
  intro program
  refine ⟨Program.files_start environment m w,
    Program.exitCode_start_eq_zero_iff environment m w, fun settings => ?_⟩
  intro path server
  refine ⟨Server.files_start settings m w, ?_, ?_, fun rs h => Server.mem_log_start h w, ?_⟩
  · constructor
    · rintro ⟨service, hservice⟩
      obtain ⟨rs, hload, hport, -⟩ := (Server.start_eq_ok_iff w).mp hservice
      exact ⟨⟨rs, hload⟩, hport⟩
    · rintro ⟨⟨rs, hload⟩, hport⟩
      exact ⟨_, (Server.start_eq_ok_iff w).mpr ⟨rs, hload, hport, rfl⟩⟩
  · intro service hservice
    have hlistened := Server.listened_of_start_eq_ok hservice
    obtain ⟨rs, hload, -, rfl⟩ := (Server.start_eq_ok_iff w).mp hservice
    exact ⟨hload, rfl, hlistened⟩
  · intro e hload
    have hstart : server = _ := Server.start_of_rejected hload w
    rw [hstart]
    exact ⟨rfl, rfl, rfl⟩

/-- A registrations file that breaks off stops the start although the port is free; with a blank one
the port decides. -/
theorem starting_reads_only_and_fails_closed_damaged :
    let environment : Environment := fun _ => none
    let machine (text : String) (fault? : Option String) : Server.Machine :=
      ⟨FileTree.ofContents [(".env", Text.encode "WNS_REGISTRATIONS_FILE=reg.conf\nPORT=8080\n"),
        ("reg.conf", Text.encode text)], fun _ => fault?, []⟩
    let settings : Settings := ⟨none, none, Settings.defaultTokenUrl, "reg.conf", 8080⟩
    let w : Surroundings := ⟨⟨[], []⟩, fun _ => 0, [], []⟩
    let damaged := machine "\x7b" none
    let free := machine "" none
    let taken := machine "" (some Server.portTaken)
    (∃ e : ErrorChain,
      RegistrationsFile.load damaged.files settings.registrationsFile = .error e ∧
      (Server.start settings damaged w).1.1 = .error ⟨"loading reg.conf" :: e.causes⟩ ∧
      (Server.start settings damaged w).1.2.listened = [] ∧
      (Server.start settings damaged w).2.log = []) ∧
    (Program.start environment damaged w).1.2.files = damaged.files ∧
    Program.exitCode (Program.start environment free w).1.1 = 0 ∧
    (Server.start settings free w).1.2.listened = [8080] ∧
    ¬ ∃ service, (Server.start settings taken w).1.1 = .ok service := by
  intro environment machine settings w damaged free taken
  obtain ⟨hfiles, -, hdamaged⟩ := starting_reads_only_and_fails_closed environment damaged w
  obtain ⟨-, hexit, hfree⟩ := starting_reads_only_and_fails_closed environment free w
  obtain ⟨-, -, htaken⟩ := starting_reads_only_and_fails_closed environment taken w
  have hsettings :
      Settings.ofEnvironment (EnvFile.extend environment free.files) = .ok settings := by
    decide +kernel
  have herror : RegistrationsFile.load damaged.files "reg.conf" = .error
      ⟨["parsing reg.conf", "EOF while parsing an object at line 1 column 1"]⟩ := by
    decide +kernel
  have hblank : RegistrationsFile.load free.files "reg.conf" = .ok Dictionary.empty := by
    decide +kernel
  obtain ⟨-, -, -, -, hrejected⟩ := hdamaged settings
  obtain ⟨-, hstarts, hlistens, -, -⟩ := hfree settings
  obtain ⟨-, hstarts', -, -, -⟩ := htaken settings
  obtain ⟨service, hservice⟩ := hstarts.mpr ⟨⟨_, hblank⟩, rfl⟩
  obtain ⟨hresult, hlistened, hlog⟩ := hrejected _ herror
  exact ⟨⟨_, herror, hresult, hlistened, hlog⟩, hfiles,
    hexit.mpr ⟨settings, service, hsettings, hservice⟩, (hlistens service hservice).2.2,
    fun h => nomatch (hstarts'.mp h).2⟩

end ToastRelay
