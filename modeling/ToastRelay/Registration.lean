import ToastRelay.Json.Record
import ToastRelay.Json.Printer

/-!
# Registrations

A device registers under an identifier with the channel at which it receives notifications. The
registrations are kept by key; a key is meant to be the identifier of its registration, but nothing
here requires it.
-/

namespace ToastRelay
set_option autoImplicit false

structure Registration where
  id : String
  channel : String
  /-- When the channel ends, as the device gave it. -/
  expiry : Option UInt64
  name : Option String
  deriving DecidableEq, Repr, Inhabited

abbrev Registrations := Dictionary Registration

namespace Registration

/-- The registration as an object; what is absent is left out. -/
def toJson (r : Registration) : Json :=
  .object ([("id", .string r.id), ("channel", .string r.channel)] ++
    r.expiry.toList.map (fun n => ("expiry", .number (.natural n))) ++
    r.name.toList.map (fun s => ("name", .string s)))

/-- The fields of a registration read so far. An optional field may have been read as absent. -/
structure Draft where
  id : Option String
  channel : Option String
  expiry : Option (Option UInt64)
  name : Option (Option String)

def record : Record Draft Registration where
  name := "Registration"
  fields := [
    ⟨"id", (·.id.isSome), false, fun d => do return { d with id := some (← Reader.string) }⟩,
    ⟨"channel", (·.channel.isSome), false,
      fun d => do return { d with channel := some (← Reader.string) }⟩,
    ⟨"expiry", (·.expiry.isSome), true,
      fun d => do return { d with expiry := some (← Reader.optional Reader.natural) }⟩,
    ⟨"name", (·.name.isSome), true,
      fun d => do return { d with name := some (← Reader.optional Reader.string) }⟩]
  blank := ⟨none, none, none, none⟩
  make := fun d =>
    match d.id, d.channel with
    | none, _ => .error (.missingField "id")
    | _, none => .error (.missingField "channel")
    | some id, some channel => .ok ⟨id, channel, d.expiry.getD none, d.name.getD none⟩

end Registration

namespace Registrations

def toJson (rs : Registrations) : Json :=
  .object (rs.entries.map fun (key, r) => (key, r.toJson))

/-- Reads an object of registrations; of members with the same name the last one counts. -/
def reader (steps : Nat) : Reader Registrations := do
  if (← Reader.nextBehindBlanks .unfinishedValue) = some '\x7b' then
    Reader.object steps (fun key rs => do
      Reader.colon
      return rs.insert key (← Registration.record.read steps)) Dictionary.empty
  else Reader.wrongKind "a map"

def ofText (text : String) : Except ReadError Registrations :=
  Reader.whole reader (text.toList.map .char)

def toText (rs : Registrations) : String := rs.toJson.indented

/-- The channels of the targets, where a target without a registration has none. All registrations
are targets if no target is named. -/
def channelsFor (rs : Registrations) (targets : List String) : List (String × Option String) :=
  if targets.isEmpty then rs.entries.map fun (key, r) => (key, some r.channel)
  else targets.map fun target => (target, (rs.get? target).map (·.channel))

end Registrations

end ToastRelay
