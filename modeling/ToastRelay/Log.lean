/-!
# Log records

What the service tells its operator, each record with its level and the part of the service that
wrote it.
-/

namespace ToastRelay
set_option autoImplicit false

inductive LogLevel where
  | error
  | warn
  | info
  | debug
  deriving DecidableEq, Repr

def LogLevel.text : LogLevel → String
  | .error => "ERROR"
  | .warn => "WARN"
  | .info => "INFO"
  | .debug => "DEBUG"

inductive LogSource where
  | program
  | registry
  | server
  | sender
  deriving DecidableEq, Repr

def LogSource.text : LogSource → String
  | .program => "wns_notify"
  | .registry => "wns_notify::registry"
  | .server => "wns_notify::server"
  | .sender => "wns_notify::wns"

structure LogRecord where
  level : LogLevel
  source : LogSource
  text : String
  deriving DecidableEq, Repr

def LogRecord.line (r : LogRecord) : String :=
  r.level.text ++ " " ++ r.source.text ++ " " ++ r.text

end ToastRelay
