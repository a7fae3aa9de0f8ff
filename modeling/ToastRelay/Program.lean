import ToastRelay.EnvFile
import ToastRelay.Server

/-!
# The program

The program takes its settings from its environment and the environment file, warns if no
notification can be sent with them, and runs the service. What goes wrong is reported with all its
causes, and the program then ends with the exit code one.
-/

namespace ToastRelay
set_option autoImplicit false

namespace ErrorChain

/-- A text behind a heading, with its further lines put in as far as its first one. -/
def indent (heading : String) (width : Nat) (text : String) : String :=
  heading ++ String.ofList (text.toList.flatMap fun c =>
    if c = '\n' then c :: List.replicate width ' ' else [c])

/-- The causes behind the first one, each on a line of its own; they are numbered if there are
several. -/
def causeLines : List String → List String
  | [cause] => [indent "    " 4 cause]
  | causes => causes.zipIdx.map fun (cause, n) =>
      let number := toString n
      indent (String.ofList (List.replicate (5 - number.length) ' ') ++ number ++ ": ") 7 cause

def report (e : ErrorChain) : String :=
  match e.causes with
  | [] => "Error: "
  | [cause] => "Error: " ++ cause
  | cause :: causes =>
    String.intercalate "\n" (("Error: " ++ cause) :: "" :: "Caused by:" :: causeLines causes)

end ErrorChain

namespace LogRecord

def isShown (r : LogRecord) : Bool := r.level ≠ .debug

def shown (r : LogRecord) (time : String) : String :=
  "[" ++ time ++ "][" ++ r.level.text ++ "][" ++ r.source.text ++ "] " ++ r.text

end LogRecord

namespace Program

def credentialsWarning : String :=
  "WNS_CLIENT_ID/WNS_CLIENT_SECRET not set, notifications cannot be sent"

def recordCredentials (settings : Settings) : Act Unit := do
  if settings.credentials.isNone then Surroundings.record .warn .program credentialsWarning

def settings (environment : Environment) (files : FileTree) : Except ErrorChain Settings :=
  Settings.ofEnvironment (EnvFile.extend environment files)

def start (environment : Environment) : Server.Startup (Except ErrorChain Service) := do
  match settings environment (← get).files with
  | .error e => return .error e
  | .ok settings =>
    recordCredentials settings
    Server.start settings

def run (environment : Environment) (files : FileTree) (taken : Bool) :
    Act (Except ErrorChain Service) := do
  let (result, _) ← start environment (.ofFiles files taken)
  return result

def errorOutput (log : List LogRecord) (time : String) (result : Except ErrorChain Service) :
    List String :=
  (log.filter LogRecord.isShown).map (·.shown time) ++ match result with
    | .error e => [e.report]
    | .ok _ => []

def exitCode : Except ErrorChain Service → UInt32
  | .error _ => 1
  | .ok _ => 0

end Program

end ToastRelay
