import ToastRelay.Log
import ToastRelay.Provider

/-!
# Surroundings

What the service meets outside itself: the provider at the other end of its connections and a clock,
of which every reading is a new one. Beside them stand the records of what the service did: the
requests that reached the provider, and the log, both with the oldest first. An action on the
surroundings is a function on them, so two runs that begin alike go on alike.
-/

namespace ToastRelay
set_option autoImplicit false

/-- Nanoseconds since the beginning of 1970. -/
abbrev Instant := Int

structure Surroundings where
  provider : Provider
  clock : Nat → Instant
  received : List Outgoing
  log : List LogRecord

abbrev Act := StateM Surroundings

namespace Surroundings

def now : Act Instant := fun s => (s.clock 0, { s with clock := fun n => s.clock (n + 1) })

def record (level : LogLevel) (source : LogSource) (text : String) : Act Unit := fun s =>
  ((), { s with log := s.log ++ [⟨level, source, text⟩] })

/-- Sends a request to the provider, which receives it only over a connection that it takes. -/
def send (request : Outgoing) : Act (Except ClientFault Response) := fun s =>
  let uri := request.uri
  if uri.scheme.isNone || uri.authority.isEmpty then (.error .notAbsolute, s)
  else if s.provider.refused.contains (String.ofList uri.authority) then (.error .refused, s)
  else
    ((s.provider.reply uri.text).received,
      { s with
        provider := s.provider.after uri.text
        received := s.received ++ [request] })

/-- The surroundings with no record of what was done. -/
def forget (s : Surroundings) : Surroundings := { s with received := [], log := [] }

end Surroundings

end ToastRelay
