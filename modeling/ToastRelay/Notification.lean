import ToastRelay.Json.Extract
import ToastRelay.Toast

/-!
# Notifications

What is to be shown, and to whom. A notification can be asked for by a value, in which a single
target may stand for a list of one, and all but the message may be missing or `null`.
-/

namespace ToastRelay
set_option autoImplicit false

structure Notification where
  message : String
  title : Option String
  /-- The keys of registrations; all of them are meant if none is named. -/
  targets : Option (List String)
  extras : Option ToastExtras
  deriving DecidableEq, Repr

namespace ToastExtras

def extract : Extract ToastExtras where
  name := "NotifyData"
  fields := [
    ⟨"launch", fun v e => (v.takeOptional Json.takeString).map fun s => { e with launch := s }⟩,
    ⟨"hero", fun v e => (v.takeOptional Json.takeString).map fun s => { e with hero := s }⟩,
    ⟨"logo", fun v e => (v.takeOptional Json.takeString).map fun s => { e with logo := s }⟩]
  blank := ⟨none, none, none⟩

end ToastExtras

namespace Notification

def document (n : Notification) : String :=
  Toast.document (n.title.getD Toast.defaultTitle) n.message n.extras

def takeTargets : Json → Except Fault (List String)
  | .string target => .ok [target]
  | .array items =>
    match items.mapM Json.string? with
    | some targets => .ok targets
    | none => .error (.noVariant "Targets")
  | _ => .error (.noVariant "Targets")

structure Draft where
  message : Option String
  title : Option String
  targets : Option (List String)
  extras : Option ToastExtras

def extract : Extract Draft where
  name := "SendPayload"
  fields := [
    ⟨"message", fun v d => v.takeString.map fun s => { d with message := some s }⟩,
    ⟨"title", fun v d => (v.takeOptional Json.takeString).map fun s => { d with title := s }⟩,
    ⟨"target", fun v d => (v.takeOptional takeTargets).map fun ts => { d with targets := ts }⟩,
    ⟨"data", fun v d =>
      (v.takeOptional ToastExtras.extract.ofValue).map fun e => { d with extras := e }⟩]
  blank := ⟨none, none, none, none⟩

def ofRequest (request : Json) : Except Fault Notification :=
  match extract.ofValue request with
  | .error f => .error f
  | .ok d =>
    match d.message with
    | none => .error (.missingField "message")
    | some message => .ok ⟨message, d.title, d.targets, d.extras⟩

end Notification

end ToastRelay
