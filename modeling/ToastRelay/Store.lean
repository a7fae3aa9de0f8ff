import ToastRelay.Registration.File

/-!
# Stores

Where the registry keeps the registrations: in a file, or in memory. A store in memory counts its
saves and can be told to fail them, so that the registry can be watched when that happens.
-/

namespace ToastRelay
set_option autoImplicit false

inductive SaveFault where
  | failed (causes : ErrorChain)
  /-- The store broke down while it saved. -/
  | crashed
  deriving DecidableEq, Repr

def SaveFault.text : SaveFault → String
  | .failed causes => causes.text
  | .crashed => "save job failed: task N panicked with message \"store crashed\""

inductive SaveMode where
  | succeed
  | fail (causes : ErrorChain)
  | crash
  deriving DecidableEq, Repr

structure MemoryStore where
  /-- The registrations that were saved last. -/
  durable : Registrations
  /-- How many saves there were, failed ones included. -/
  saves : Nat
  mode : SaveMode
  deriving DecidableEq

def MemoryStore.save (m : MemoryStore) (registrations : Registrations) :
    Except SaveFault Unit × MemoryStore :=
  let m := { m with saves := m.saves + 1 }
  match m.mode with
  | .succeed => (.ok (), { m with durable := registrations })
  | .fail causes => (.error (.failed causes), m)
  | .crash => (.error .crashed, m)

inductive Store where
  | file (files : FileTree) (path : String)
  | memory (m : MemoryStore)
  deriving DecidableEq

namespace Store

def files? : Store → Option FileTree
  | .file files _ => some files
  | .memory _ => none

def load : Store → Except ErrorChain Registrations
  | .file files path => RegistrationsFile.load files path
  | .memory m => .ok m.durable

def save (store : Store) (registrations : Registrations) : Except SaveFault Unit × Store :=
  match store with
  | .file files path =>
    let (result, files) := RegistrationsFile.save files path registrations
    (result.mapError .failed, .file files path)
  | .memory m =>
    let (result, m) := m.save registrations
    (result, .memory m)

end Store

end ToastRelay
