import RegistryRelay.Bundle
import RegistryRelay.Device
import RegistryRelay.Pool
import RegistryRelay.Settings
import RegistryRelay.Text.Order

namespace RegistryRelay

def renderDevices (devices : List String) : String := ", ".intercalate (ascending devices)

structure Relay where
  registry : String
  route : Route
  devices : List String
  order : DrainOrder := .inserted

structure Relay.State where
  ignored : List String := []
  pool : Pool := {}
deriving DecidableEq, Repr

structure PublisherBinding where
  project : String
  region : String
  registry : String
  device : String
  key : KeyMaterial
deriving DecidableEq, Repr

namespace Relay

def publisherKey (relay : Relay) (device : String) : PublisherKey :=
  ⟨relay.route.project,relay.registry,device⟩

def binding (relay : Relay) (device : String) (key : KeyMaterial) : PublisherBinding :=
  ⟨relay.route.project,relay.route.region,relay.registry,device,key⟩

-- Creates the relay of a registry, or nothing when its keys are missing. Incomplete keys
-- and failures of the directory refuse it. `connect` binds a directory, `list` asks it
-- for its devices, and `note` reports events; each is used at most once, in this order,
-- but for the events.
def create {m : Type → Type} {δ : Type} [Monad m] (note : Event → m Unit)
    (connect : DirectoryBinding → m (Except Fault δ))
    (list : δ → m (Except Fault (List String)))
    (settings : SettingsMap) (registry project : String) :
    m (Except Fault (Option (Relay × δ))) := do
  note (.createStart registry)
  match Route.find settings registry with
  | .error missing =>
      note missing
      note (.disabled registry)
      return .ok none
  | .ok route =>
      let binding := route.source project registry
      match route.undefined? binding with
      | some fault => return .error fault
      | none =>
          note (.createPushing registry route.project route.region)
          match ← connect binding with
          | .error fault => return .error fault
          | .ok directory =>
              match ← list directory with
              | .error fault => return .error fault
              | .ok listed =>
                  let devices := ascendingSet listed
                  note (.devicesLoaded registry (renderDevices devices))
                  note (.createOk registry)
                  return .ok (some ({ registry,route,devices },directory))

end Relay
end RegistryRelay
