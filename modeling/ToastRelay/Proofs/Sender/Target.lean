import ToastRelay.Proofs.Token.Calls
import ToastRelay.Sender

/-!
# A toast for one target

A notification for a single target that is registered comes down to one request, which takes the
document to the channel. What the provider makes of the request is all that the report depends on.
-/

namespace ToastRelay
set_option autoImplicit false

/-- Whether a provider takes a connection to a target and answers with success. -/
def Provider.Takes (p : Provider) (uri : Web.Uri) : Prop :=
  p.refused.contains (String.ofList uri.authority) = false ∧
    ∃ response, (p.reply uri.text).received = .ok response ∧ Web.isSuccess response.status = true

namespace Sender

def toastTo (uri : Web.Uri) (authorization document : String) : Outgoing :=
  ⟨uri, "text/xml", some authorization, some "wns/toast", document⟩

variable {rs : Registrations} {notification : Notification} {source source' : TokenSource}
  {registration : Registration} {token : String} {w w' : Surroundings}

/-- With a token, a notification for one target that is registered comes down to one toast. -/
theorem send_eq_post (htargets : notification.targets = some [registration.id])
    (hget : rs.get? registration.id = some registration)
    (htoken : source.token w = ((.ok token, source'), w')) {result : Except DeliveryFault Unit}
    {w'' : Surroundings}
    (hpost : post registration.channel (ToastRelay.authorization token) notification.document w' =
      (result, w'')) :
    ∃ v, send rs notification source w =
        ((.ok (SendReport.empty.add registration.id result.toBool), source'), v) ∧
      v.received = w''.received := by
  have hchannels : rs.channelsFor (notification.targets.getD []) =
      [(registration.id, some registration.channel)] := by
    rw [htargets, Option.getD_some, Registrations.channelsFor, if_neg (by simp), List.map_singleton,
      hget]
    rfl
  have hdeliver : ∃ v, deliver (ToastRelay.authorization token) notification.document
      registration.id (some registration.channel) w' = (result.toBool, v) ∧
      v.received = w''.received := by
    simp only [deliver, Act.bind_apply, hpost]
    cases result with
    | ok u => exact ⟨w'', rfl, rfl⟩
    | error f => exact ⟨_, rfl, rfl⟩
  obtain ⟨v, hv, hreceived⟩ := hdeliver
  refine ⟨v, ?_, hreceived⟩
  simp only [send, Act.bind_apply, htoken, hchannels, deliverAll, hv]
  rfl

end Sender

end ToastRelay
