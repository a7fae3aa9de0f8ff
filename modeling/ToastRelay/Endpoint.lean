import ToastRelay.Endpoint.Answer
import ToastRelay.Registration.Schema
import ToastRelay.Registry

/-!
# Endpoints

Devices register and unregister at one path, and notifications are sent at another. The body of a
request is a JSON value of limited length. A change is logged once it is saved, and so is every
failure that is not the fault of the request.
-/

namespace ToastRelay
set_option autoImplicit false

/-- A registry, and the tokens with which notifications are sent to it. -/
structure Service where
  registry : Registry
  tokens : TokenSource
  deriving DecidableEq

structure HttpRequest where
  method : String
  target : String
  body : Bytes
  deriving DecidableEq, Repr

namespace Service

def registrationPath : String := "/api/notify.windows"

def sendPath : String := "/api/notify.windows/send"

/-- The most bytes of a body. -/
def longestBody : Nat := 2097152

def reportNotSaved (f : SaveFault) : Act Answer := do
  Surroundings.record .error .server (RelayError.persistence f.text).text
  return .notSaved

def register (service : Service) (request : Json) : Act (Answer × Service) := do
  match Registration.ofRequest request with
  | .error rejection => return (.rejected rejection.text, service)
  | .ok registration =>
    match service.registry.upsert registration with
    | (.error f, registry) => return (← reportNotSaved f, { service with registry := registry })
    | (.ok (), registry) =>
      Surroundings.record .info .server ("registered push subscriber " ++ registration.id)
      return (.registered, { service with registry := registry })

def unregister (service : Service) (request : Json) : Act (Answer × Service) := do
  match (request.member? "id").bind Json.string? with
  | none => return (.notRegistered, service)
  | some id =>
    match service.registry.remove id with
    | (.error f, registry) => return (← reportNotSaved f, { service with registry := registry })
    | (.ok none, registry) => return (.notRegistered, { service with registry := registry })
    | (.ok (some _), registry) =>
      Surroundings.record .info .server ("unregistered push subscriber " ++ id)
      return (.unregistered, { service with registry := registry })

def send (service : Service) (notification : Notification) :
    Act (Except TokenFault SendReport × Service) := do
  let (result, tokens) ←
    Sender.send service.registry.registrations notification service.tokens
  return (result, { service with tokens := tokens })

def sendRequested (service : Service) (request : Json) : Act (Answer × Service) := do
  match Notification.ofRequest request with
  | .error f => return (.rejected f.text, service)
  | .ok notification =>
    match ← service.send notification with
    | (.ok report, service) => return (.sent report, service)
    | (.error f, service) =>
      let e := RelayError.tokenFetch f.text
      Surroundings.record .error .server e.text
      return (.noToken e, service)

/-- Answers to a body by what is done with its value. -/
def onBody (service : Service) (body : Bytes)
    (handle : Service → Json → Act (Answer × Service)) : Act (Answer × Service) := do
  if longestBody < body.length then return (.tooLong, service)
  else match Json.ofBytes body with
    | .error _ => return (.invalidJson, service)
    | .ok request => handle service request

def path? (target : String) : Option String :=
  match Web.Uri.ofText target with
  | .error _ => none
  | .ok uri => some (String.ofList uri.path)

def answer (service : Service) (request : HttpRequest) : Act (Answer × Service) := do
  if path? request.target = some registrationPath then
    if request.method = "POST" then service.onBody request.body register
    else if request.method = "DELETE" then service.onBody request.body unregister
    else return (.noSuchMethod "POST,DELETE", service)
  else if path? request.target = some sendPath then
    if request.method = "POST" then service.onBody request.body sendRequested
    else return (.noSuchMethod "POST", service)
  else return (.noSuchPath, service)

end Service

end ToastRelay
