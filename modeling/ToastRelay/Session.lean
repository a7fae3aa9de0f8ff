import ToastRelay.Endpoint
import ToastRelay.FileTree.Contents

/-!
# Sessions

A service together with its surroundings, taken through one step after another: changes of the
registry, requests to the endpoints, notifications, tokens, and changes from outside. Beside the
service stands a token source of its own with the same settings. What a step records is kept until
the next step.
-/

namespace ToastRelay
set_option autoImplicit false

structure Session where
  settings : Settings
  service : Service
  /-- The token source beside the service. -/
  source : TokenSource
  surroundings : Surroundings

inductive SessionStep where
  | upsert (registration : Registration)
  | remove (id : String)
  | get (key : String)
  | channelsFor (targets : Option (List String))
  | token
  | authorization
  | send (notification : Notification)
  | request (r : HttpRequest)
  /-- Tells a store in memory what to do with saves. -/
  | setSaveMode (mode : SaveMode)
  /-- Gives the provider other replies, and other authorities to refuse if they are given. -/
  | setProvider (rules : List (String × List Reply)) (refused : Option (List String))
  | placeFiles (contents : List (String × Bytes))
  /-- Loads the registry again, with a service that has no token yet. -/
  | reload

inductive StepResult where
  | done
  | found (registration : Option Registration)
  | channels (cs : List (String × Option String))
  | text (s : String)
  | report (r : SendReport)
  | response (r : HttpResponse)
  | failed (e : RelayError)
  | notLoaded (e : ErrorChain)
  deriving DecidableEq

namespace StepResult

def ofToken : Except TokenFault String → StepResult
  | .ok token => .text token
  | .error f => .failed (.tokenFetch f.text)

def ofReport : Except TokenFault SendReport → StepResult
  | .ok r => .report r
  | .error f => .failed (.tokenFetch f.text)

end StepResult

namespace Store

def setSaveMode (mode : SaveMode) : Store → Store
  | .memory m => .memory { m with mode := mode }
  | store => store

def placeFiles (contents : List (String × Bytes)) : Store → Store
  | .file files path => .file (files.placeAll contents) path
  | store => store

end Store

namespace Session

def serviceOf (settings : Settings) (registry : Registry) : Service :=
  ⟨registry, TokenSource.ofSettings settings⟩

def start (settings : Settings) (store : Store) (surroundings : Surroundings) :
    Except ErrorChain Session :=
  match Registry.load store with
  | .error e => .error e
  | .ok registry => .ok
    ⟨settings, serviceOf settings registry, TokenSource.ofSettings settings,
      (registry.recordLoad surroundings).2⟩

def withRegistry (s : Session) (registry : Registry) : Session :=
  { s with service := { s.service with registry := registry } }

def act {α : Type} (s : Session) (a : Act α) : α × Session :=
  let (x, surroundings) := a s.surroundings
  (x, { s with surroundings := surroundings })

def upsert (s : Session) (registration : Registration) : StepResult × Session :=
  match s.service.registry.upsert registration with
  | (.ok (), registry) => (.done, s.withRegistry registry)
  | (.error f, registry) => (.failed (.persistence f.text), s.withRegistry registry)

def remove (s : Session) (id : String) : StepResult × Session :=
  match s.service.registry.remove id with
  | (.ok registration, registry) => (.found registration, s.withRegistry registry)
  | (.error f, registry) => (.failed (.persistence f.text), s.withRegistry registry)

def takeToken (s : Session) : Except TokenFault String × Session :=
  let ((result, source), s) := s.act s.source.token
  (result, { s with source := source })

def send (s : Session) (notification : Notification) : StepResult × Session :=
  let ((result, service), s) := s.act (s.service.send notification)
  (.ofReport result, { s with service := service })

def request (s : Session) (r : HttpRequest) : StepResult × Session :=
  let ((answer, service), s) := s.act (s.service.answer r)
  (.response answer.response, { s with service := service })

def reload (s : Session) : StepResult × Session :=
  match Registry.load s.service.registry.store with
  | .error e => (.notLoaded e, s)
  | .ok registry =>
    let ((), s) := s.act registry.recordLoad
    (.done, { s with service := serviceOf s.settings registry })

/-- Takes a session that has no records through a step. -/
def stepFrom (s : Session) : SessionStep → StepResult × Session
  | .upsert registration => s.upsert registration
  | .remove id => s.remove id
  | .get key => (.found (s.service.registry.get? key), s)
  | .channelsFor targets =>
    (.channels (s.service.registry.registrations.channelsFor (targets.getD [])), s)
  | .token =>
    let (result, s) := s.takeToken
    (.ofToken result, s)
  | .authorization =>
    let (result, s) := s.takeToken
    (.ofToken (result.map ToastRelay.authorization), s)
  | .send notification => s.send notification
  | .request r => s.request r
  | .setSaveMode mode =>
    (.done, s.withRegistry
      { s.service.registry with store := s.service.registry.store.setSaveMode mode })
  | .setProvider rules refused =>
    let provider := s.surroundings.provider.replace rules
    (.done, { s with surroundings := { s.surroundings with
      provider := { provider with refused := refused.getD provider.refused } } })
  | .placeFiles contents =>
    (.done, s.withRegistry
      { s.service.registry with store := s.service.registry.store.placeFiles contents })
  | .reload => s.reload

def step (s : Session) (x : SessionStep) : StepResult × Session :=
  { s with surroundings := s.surroundings.forget }.stepFrom x

end Session

end ToastRelay
