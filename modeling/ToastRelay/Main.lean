import Std.Async.Signal
import Std.Http
import ToastRelay.Program

/-!
# The command line

The program on a real machine: its environment, its files, its port and its clock. All answers are
those of the library. A request is answered with the registrations in memory, and if that changes
them the file is saved; should this fail, the request is answered once more as one whose save fails
for that reason. There are no outgoing connections here: the usual ones have to be encrypted, which is
not to be had, and those that need not be, to a token endpoint over plain `http`, are left out with
them. So the token endpoint counts as one that refuses connections, whatever its scheme.
-/

namespace ToastRelay.Main
set_option autoImplicit false

open Std Async

/-! ## Environment and files -/

def fileError : IO.Error → FileError
  | .noFileOrDirectory _ _ _ => .notFound
  | .inappropriateType _ code _ => if code = 21 then .isDirectory else .notDirectory
  | .resourceBusy _ _ => .busy
  | e => .other (toString e)

def attempt {α : Type} (action : IO α) : IO (Except FileError α) := do
  try
    return .ok (← action)
  catch e =>
    return .error (fileError e)

def readBytes (path : String) : IO (Except FileError Bytes) :=
  attempt ((·.toList) <$> IO.FS.readBinFile path)

def readText (path : String) : IO (Except FileError String) := do
  match ← readBytes path with
  | .error e => return .error e
  | .ok bytes =>
    match Text.decode? bytes with
    | none => return .error .notText
    | some text => return .ok text

def writeBytes (path : String) (content : Bytes) : IO (Except FileError Unit) :=
  attempt (IO.FS.writeBinFile path ⟨content.toArray⟩)

def environment : IO Environment := do
  match ← readBytes "/proc/self/environ" with
  | .error _ => return fun _ => none
  | .ok bytes =>
    let defined := (EnvFile.linesOf (bytes.map fun b => if b = 0 then 0x0A else b)).filterMap
      fun line => (Text.decode? line).map fun text =>
        let (name, value) := Text.cut '=' text.toList
        (String.ofList name, String.ofList (value.getD []))
    return fun name => defined.lookup name

def environmentFiles : IO FileTree := do
  let names := (Text.fields '/' (toString (← IO.currentDir)).toList).filter (· ≠ [])
  let here : Location := (names.map String.ofList).reverse
  let mut entries := []
  for depth in List.range (here.length + 1) do
    let l := here.drop depth
    let path := String.intercalate "/" ("" :: (EnvFile.fileName :: l).reverse)
    if let .ok content ← readBytes path then
      entries := (EnvFile.fileName :: l, Entry.file content) :: entries
  return ⟨here, entries.reverse⟩

def save (path : String) (registrations : Registrations) : IO (Except ErrorChain Unit) := do
  let newPath := RegistrationsFile.newPath path
  match ← writeBytes newPath (RegistrationsFile.contentOf registrations) with
  | .error e => return .error (RegistrationsFile.writingError path e)
  | .ok () =>
    match ← attempt (IO.FS.rename newPath path) with
    | .error e => return .error (RegistrationsFile.replacingError path e)
    | .ok () => return .ok ()

/-! ## The log -/

def showLog (log : List LogRecord) : IO Unit := do
  let time := (← Time.PlainTime.now).toTime24Hour
  for r in log.filter LogRecord.isShown do
    IO.eprintln (r.shown time)

/-- A provider that the service cannot connect to. -/
def unreachable (settings : Settings) : Provider :=
  match Web.Uri.ofText settings.tokenUrl with
  | .error _ => ⟨[], []⟩
  | .ok uri => ⟨[], [String.ofList uri.authority]⟩

def surroundings (provider : Provider) : IO Surroundings := do
  let now := (← Time.Timestamp.now).toNanosecondsSinceUnixEpoch.toInt
  return ⟨provider, fun n => now + n, [], []⟩

def perform {α : Type} (provider : Provider) (action : Act α) : IO α := do
  let (a, after) := action (← surroundings provider)
  showLog after.log
  return a

/-! ## Serving -/

structure Host where
  settings : Settings
  service : Mutex Service

def withMode (service : Service) (mode : SaveMode) : Service :=
  { service with registry :=
    { service.registry with store := .memory ⟨service.registry.registrations, 0, mode⟩ } }

def hasSaved (service : Service) : Bool :=
  match service.registry.store with
  | .memory m => 0 < m.saves
  | .file _ _ => false

def answer (settings : Settings) (service : Service) (request : HttpRequest) :
    IO (Answer × Service) := do
  let before ← surroundings (unreachable settings)
  let ((given, changed), after) := (withMode service .succeed).answer request before
  if hasSaved changed then
    match ← save settings.registrationsFile changed.registry.registrations with
    | .ok () =>
      showLog after.log
      return (given, changed)
    | .error e =>
      let (refused, after) := (withMode service (.fail e)).answer request before
      showLog after.log
      return refused
  else
    showLog after.log
    return (given, changed)

/-- The response in the form in which it is sent; its length is known there. -/
def sent (r : HttpResponse) : Async (Http.Response Http.Body.Any) := do
  let status := (Http.Status.ofCode none (UInt16.ofNat r.status)).getD .internalServerError
  let builder := (r.headers.filter (·.1 ≠ "content-length")).foldl
    (fun builder (name, value) => (builder.header? name value).getD builder)
    (Http.Response.withStatus status)
  return builder.body (Http.Body.Any.ofBody (← Http.Body.Full.ofString r.body))

instance : Http.Server.Handler Host where
  onRequest host request := do
    let body : ByteArray ← request.body.readAll
    let asked : HttpRequest :=
      ⟨toString request.line.method, toString request.line.uri, body.toList⟩
    let given : Answer ← host.service.atomically do
      let (given, service) ← answer host.settings (← get) asked
      set service
      return given
    sent given.response

def listeningError (port : UInt16) : IO.Error → ErrorChain
  | .resourceBusy _ _ => Server.bindingError port Server.portTaken
  | e => Server.bindingError port (toString e)

def serve (settings : Settings) (service : Service) : IO (Except ErrorChain Service) := do
  let interrupt ← Signal.Waiter.mk .sigint false
  let host : Host := ⟨settings, ← Mutex.new service⟩
  let any : Net.SocketAddress := .v4 ⟨Net.IPv4Addr.ofParts 0 0 0 0, settings.port⟩
  let server ← try
      pure (Except.ok (← (Http.Server.serve any host).block))
    catch e =>
      pure (Except.error e)
  match server with
  | .error e => return .error (listeningError settings.port e)
  | .ok server =>
    let _ ← (Async.ofAsyncTask (← interrupt.wait)).block
    perform (unreachable settings) Server.recordShutdown
    server.shutdownAndWait.block
    return .ok service

def run : IO (Except ErrorChain Service) := do
  match Program.settings (← environment) (← environmentFiles) with
  | .error e => return .error e
  | .ok settings =>
    let provider := unreachable settings
    perform provider (Program.recordCredentials settings)
    match RegistrationsFile.ofRead settings.registrationsFile
        (← readText settings.registrationsFile) with
    | .error e => return .error (Server.loadingError settings e)
    | .ok registrations =>
      match Server.load settings (.memory ⟨registrations, 0, .succeed⟩) with
      | .error e => return .error e
      | .ok service =>
        perform provider service.registry.recordLoad
        perform provider (Server.recordListening settings.port)
        serve settings service

end ToastRelay.Main

def main : IO UInt32 := do
  let result ← ToastRelay.Main.run
  if let .error e := result then IO.eprintln e.report
  return ToastRelay.Program.exitCode result
