import ToastRelay.Store
import ToastRelay.Surroundings

/-!
# The registry

The registrations that the service works with. A change is made to a copy, which takes the place of
the registrations once the store has saved it; a change that is not saved is not made. Registrations
are entered by their identifier as key, but they are removed by the identifier that they carry,
whatever their key.
-/

namespace ToastRelay
set_option autoImplicit false

structure Registry where
  registrations : Registrations
  store : Store
  deriving DecidableEq

namespace Registry

def load (store : Store) : Except ErrorChain Registry :=
  store.load.map fun registrations => ⟨registrations, store⟩

def recordLoad (r : Registry) : Act Unit :=
  Surroundings.record .info .registry
    ("loaded " ++ toString r.registrations.size ++ " push registrations")

/-- Makes these the registrations, if they can be saved. -/
def commit (r : Registry) (next : Registrations) : Except SaveFault Unit × Registry :=
  match r.store.save next with
  | (.ok (), store) => (.ok (), ⟨next, store⟩)
  | (.error f, store) => (.error f, { r with store := store })

def get? (r : Registry) (key : String) : Option Registration := r.registrations.get? key

/-- Enters a registration in place of the one with the same key. -/
def upsert (r : Registry) (registration : Registration) : Except SaveFault Unit × Registry :=
  r.commit (r.registrations.insert registration.id registration)

/-- The first entry whose registration carries the identifier. -/
def entryWithId? (rs : Registrations) (id : String) : Option (String × Registration) :=
  rs.entries.find? fun (_, registration) => registration.id = id

/-- Removes the first registration that carries the identifier, if there is one. -/
def remove (r : Registry) (id : String) : Except SaveFault (Option Registration) × Registry :=
  match entryWithId? r.registrations id with
  | none => (.ok none, r)
  | some (key, registration) =>
    match r.commit (r.registrations.erase key) with
    | (.ok (), r) => (.ok (some registration), r)
    | (.error f, r) => (.error f, r)

end Registry

end ToastRelay
