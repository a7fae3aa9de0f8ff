import ToastRelay.Endpoint

/-!
# Starting and stopping

The service loads its registrations and then listens at its port, until it is interrupted. If the
registrations cannot be loaded it does not listen, and neither step changes a file. Besides its
surroundings it meets the machine: files, and ports of which some cannot be listened at.
-/

namespace ToastRelay.Server
set_option autoImplicit false

def loadingError (settings : Settings) (e : ErrorChain) : ErrorChain :=
  e.within ("loading " ++ settings.registrationsFile)

def load (settings : Settings) (store : Store) : Except ErrorChain Service :=
  match Registry.load store with
  | .error e => .error (loadingError settings e)
  | .ok registry => .ok ⟨registry, TokenSource.ofSettings settings⟩

def address (port : UInt16) : String := "0.0.0.0:" ++ toString port.toNat

def bindingError (port : UInt16) (reason : String) : ErrorChain :=
  ((ErrorChain.of reason).within ("error creating server listener: " ++ reason)).within
    ("binding " ++ address port)

def portTaken : String := "Address already in use (os error 98)"

def recordListening (port : UInt16) : Act Unit :=
  Surroundings.record .info .server ("listening on " ++ address port)

def recordShutdown : Act Unit := Surroundings.record .info .server "shutting down"

/-- The files after a start that began with these. -/
def filesAfter (files : FileTree) (result : Except ErrorChain Service) : FileTree :=
  match result with
  | .error _ => files
  | .ok service => service.registry.store.files?.getD files

structure Machine where
  files : FileTree
  portFault? : UInt16 → Option String
  listened : List UInt16

abbrev Startup := StateT Machine Act

def loadFiles (settings : Settings) : Startup (Except ErrorChain Service) := fun m =>
  let result := load settings (.file m.files settings.registrationsFile)
  pure (result, { m with files := filesAfter m.files result })

def listen (port : UInt16) : Startup (Except ErrorChain Unit) := fun m =>
  match m.portFault? port with
  | some reason => pure (.error (bindingError port reason), m)
  | none => pure (.ok (), { m with listened := m.listened ++ [port] })

/-- Starts a service and interrupts it as soon as it listens. -/
def start (settings : Settings) : Startup (Except ErrorChain Service) := do
  match ← loadFiles settings with
  | .error e => return .error e
  | .ok service =>
    service.registry.recordLoad
    recordListening settings.port
    match ← listen settings.port with
    | .error e => return .error e
    | .ok () =>
      recordShutdown
      return .ok service

/-- A machine with these files. A port that is taken cannot be listened at; port zero stands for any
that is free. -/
def Machine.ofFiles (files : FileTree) (taken : Bool) : Machine :=
  ⟨files, fun port => if taken && port ≠ 0 then some portTaken else none, []⟩

def run (settings : Settings) (files : FileTree) (taken : Bool) :
    Act (Except ErrorChain Service) := do
  let (result, _) ← start settings (.ofFiles files taken)
  return result

end ToastRelay.Server
