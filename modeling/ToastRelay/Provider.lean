import ToastRelay.Text.Utf8
import ToastRelay.Web.Status
import ToastRelay.Web.Uri

/-!
# The push provider

A provider answers each request to a target by the next response that it has for it; the last one
is kept. It may refuse connections altogether, break them off, or send less of a body than it
announces. What becomes of a request is either a response, whose body may fail to arrive, or a
failure of the connection. Interim responses are passed over, and some responses have no body
whatever is sent behind them.
-/

namespace ToastRelay
set_option autoImplicit false

/-- A request on its way to the provider, with the headers that matter. -/
structure Outgoing where
  uri : Web.Uri
  contentType : String
  authorization : Option String
  notificationType : Option String
  body : String
  deriving DecidableEq

def Outgoing.method : String := "POST"

inductive Reply where
  /-- Sends a status and a body that is `missing` bytes shorter than announced. -/
  | answer (status : Nat) (body : Bytes) (missing : Nat)
  | close
  deriving DecidableEq, Repr

structure Provider where
  /-- The replies to the requests to come, by target. -/
  rules : List (String × List Reply)
  /-- The authorities that take no connection. -/
  refused : List String
  deriving DecidableEq, Repr

inductive ClientFault where
  | notAbsolute
  | refused
  | closed
  | invalidStatus
  | invalidVersion
  deriving DecidableEq, Repr

def ClientFault.text : ClientFault → String
  | .notAbsolute => "client requires absolute-form URIs"
  | .refused => "error trying to connect: connection refused"
  | .closed => "connection closed before message completed"
  | .invalidStatus => "invalid HTTP status-code parsed"
  | .invalidVersion => "invalid HTTP version parsed"

/-- A response; its body is absent if it broke off. -/
structure Response where
  status : Nat
  body : Option Bytes
  deriving DecidableEq, Repr

def brokenBody : String :=
  "error reading a body from connection: end of file before message length reached"

/-- Statuses after which another response follows. -/
def isInterim (status : Nat) : Bool := 100 ≤ status && status ≤ 199 && status ≠ 101

def hasNoBody (status : Nat) : Bool := status = 101 || status = 204 || status = 304

def Reply.received : Reply → Except ClientFault Response
  | .close => .error .closed
  | .answer status body missing =>
    if status < 100 || 999 < status then .error .invalidStatus
    else if isInterim status then
      if (body.dropWhile fun b => b = 0x0D || b = 0x0A).isEmpty then .error .closed
      else .error .invalidVersion
    else if hasNoBody status then .ok ⟨status, some []⟩
    else .ok ⟨status, if missing = 0 then some body else none⟩

namespace Provider

def unknownEndpoint : Reply := .answer 404 (Text.encode "no such endpoint") 0

def spend : List Reply → List Reply
  | _ :: s :: rest => s :: rest
  | rest => rest

def reply (p : Provider) (target : String) : Reply :=
  ((p.rules.lookup target).bind List.head?).getD unknownEndpoint

def after (p : Provider) (target : String) : Provider :=
  { p with rules := p.rules.map fun (t, replies) => (t, if t = target then spend replies else replies) }

def replace (p : Provider) (rules : List (String × List Reply)) : Provider :=
  { p with rules := rules ++ p.rules.filter fun rule => !(rules.any (·.1 = rule.1)) }

end Provider

end ToastRelay
