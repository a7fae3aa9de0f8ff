import ToastRelay.Json.Printer
import ToastRelay.Sender
import ToastRelay.Text.Utf8

/-!
# Answers

What the service can answer to a request, and the response that says so. Most responses carry an
object with a message; a request for something that is not there gets an empty response, and one
that is too long a plain text.
-/

namespace ToastRelay
set_option autoImplicit false

structure HttpResponse where
  status : Nat
  /-- Names in lower case. -/
  headers : List (String × String)
  body : String
  deriving DecidableEq, Repr

inductive Answer where
  | registered
  | unregistered
  /-- Nothing to unregister. -/
  | notRegistered
  | notSaved
  | sent (report : SendReport)
  | noToken (e : RelayError)
  | invalidJson
  /-- A request whose value is not of the kind that is wanted. -/
  | rejected (text : String)
  | tooLong
  | noSuchPath
  | noSuchMethod (allowed : String)
  deriving DecidableEq, Repr

namespace Answer

def withBody (status : Nat) (contentType body : String) : HttpResponse :=
  ⟨status, [("content-type", contentType), ("content-length", toString body.utf8ByteSize)], body⟩

def json (status : Nat) (members : List (String × Json)) : HttpResponse :=
  withBody status "application/json" (Json.object members).compact

def message (status : Nat) (text : String) : HttpResponse := json status [("message", .string text)]

def texts (ss : List String) : Json := .array (ss.map .string)

def response : Answer → HttpResponse
  | .registered => message 200 "Push notification subscriber registered."
  | .unregistered => message 200 "Push notification subscriber unregistered."
  | .notRegistered => message 200 "Registration not found."
  | .notSaved => message 500 "Error saving registration."
  | .sent report => json 200 [("delivered", texts report.delivered),
      ("message", .string "Notification sent."), ("skipped", texts report.skipped)]
  | .noToken e => message 502 e.text
  | .invalidJson => message 400 "Invalid JSON"
  | .rejected text => message 400 text
  | .tooLong => withBody 413 "text/plain; charset=utf-8"
      "Failed to buffer the request body: length limit exceeded"
  | .noSuchPath => ⟨404, [("content-length", "0")], ""⟩
  | .noSuchMethod allowed => ⟨405, [("allow", allowed), ("content-length", "0")], ""⟩

end Answer

end ToastRelay
