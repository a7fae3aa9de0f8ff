/-!
# Errors

What can go wrong for someone who registers a device or sends a notification, and the chains of
causes with which the service reports that it cannot start. A chain names the outermost cause first.
-/

namespace ToastRelay
set_option autoImplicit false

inductive RelayError where
  /-- A request that is malformed or breaks the schema. -/
  | validation (text : String)
  /-- The registrations could not be saved; the registry is as before. -/
  | persistence (cause : String)
  | unknownTarget (target : String)
  | tokenFetch (reason : String)
  /-- A toast that did not reach its channel. -/
  | delivery (channel reason : String)
  deriving DecidableEq, Repr

def RelayError.text : RelayError → String
  | .validation text => text
  | .persistence cause => "error saving registrations: " ++ cause
  | .unknownTarget target => target ++ " is not a valid Windows push notification target"
  | .tokenFetch reason => "failed to fetch access token: " ++ reason
  | .delivery channel reason =>
    "failed to deliver notification to " ++ channel ++ ": " ++ reason

structure ErrorChain where
  causes : List String
  deriving DecidableEq, Repr

namespace ErrorChain

def of (cause : String) : ErrorChain := ⟨[cause]⟩

/-- Puts a further cause outside the others. -/
def within (e : ErrorChain) (cause : String) : ErrorChain := ⟨cause :: e.causes⟩

def text (e : ErrorChain) : String := String.intercalate ": " e.causes

end ErrorChain

end ToastRelay
