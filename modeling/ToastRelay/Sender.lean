import ToastRelay.Notification
import ToastRelay.Registration
import ToastRelay.Token

/-!
# Sending notifications

A notification goes to the channels of its targets, one request to each, and all of them carry the
same token and the same document. Without a token nothing is sent. A target that has no channel, or
whose channel does not take the toast, is skipped, which is logged; the others are not concerned.
-/

namespace ToastRelay
set_option autoImplicit false

structure SendReport where
  delivered : List String
  skipped : List String
  deriving DecidableEq, Repr

inductive DeliveryFault where
  | badUrl (f : Web.UriFault)
  | badToken
  | noResponse (f : ClientFault)
  | refused (status : Nat)
  deriving DecidableEq, Repr

def DeliveryFault.text : DeliveryFault → String
  | .badUrl f => f.text
  | .badToken => "failed to parse header value"
  | .noResponse f => f.text
  | .refused status => "provider returned " ++ Web.statusText status

namespace SendReport

def empty : SendReport := ⟨[], []⟩

/-- The report with one more target in front. -/
def add (report : SendReport) (target : String) (delivered : Bool) : SendReport :=
  if delivered then { report with delivered := target :: report.delivered }
  else { report with skipped := target :: report.skipped }

end SendReport

namespace Sender

/-- Whether a text can be the value of a header: it has no controls except tabs. -/
def isHeaderValue (s : String) : Bool :=
  s.toList.all fun c => c = '\t' || (0x20 ≤ c.toNat && c.toNat ≠ 0x7F)

def outcomeOf : Except ClientFault Response → Except DeliveryFault Unit
  | .error f => .error (.noResponse f)
  | .ok response =>
    if Web.isSuccess response.status then .ok () else .error (.refused response.status)

def requestFor (channel authorization document : String) : Except DeliveryFault Outgoing :=
  match Web.Uri.ofText channel with
  | .error f => .error (.badUrl f)
  | .ok uri =>
    if isHeaderValue authorization then
      .ok ⟨uri, "text/xml", some authorization, some "wns/toast", document⟩
    else .error .badToken

def post (channel authorization document : String) : Act (Except DeliveryFault Unit) :=
  match requestFor channel authorization document with
  | .error f => pure (.error f)
  | .ok request => do
    Surroundings.record .debug .sender ("posting toast to " ++ channel)
    return outcomeOf (← Surroundings.send request)

/-- Sends a document to a target and logs it if that fails. -/
def deliver (authorization document target : String) : Option String → Act Bool
  | none => do
    Surroundings.record .error .sender (RelayError.unknownTarget target).text
    return false
  | some channel => do
    match ← post channel authorization document with
    | .ok () => return true
    | .error f =>
      Surroundings.record .error .sender (RelayError.delivery channel f.text).text
      return false

def deliverAll (authorization document : String) :
    List (String × Option String) → Act SendReport
  | [] => pure SendReport.empty
  | (target, channel?) :: more => do
    let delivered ← deliver authorization document target channel?
    let report ← deliverAll authorization document more
    return report.add target delivered

def send (registrations : Registrations) (notification : Notification) (source : TokenSource) :
    Act (Except TokenFault SendReport × TokenSource) := do
  match ← source.token with
  | (.error f, source) => return (.error f, source)
  | (.ok token, source) =>
    let report ← deliverAll (authorization token) notification.document
      (registrations.channelsFor (notification.targets.getD []))
    return (.ok report, source)

end Sender

end ToastRelay
