import RegistryRelay.Event
import RegistryRelay.File
import RegistryRelay.Settings.Decode

namespace RegistryRelay

abbrev SettingsMap := Dict String

namespace Settings

def targetKey (registry : String) : String := "proxy_" ++ registry ++ "_target"
def regionKey (registry : String) : String := "proxy_" ++ registry ++ "_region"

def read (text : String) : Except Fault SettingsMap :=
  match readPairs text with
  | .error error => .error (.settings error.message)
  | .ok pairs => .ok (Dict.ofPairs pairs)

def load : File → Except Fault SettingsMap
  | .absent => .error (.io "No such file or directory (os error 2)")
  | .folder => .error (.io "Is a directory (os error 21)")
  | .garbled => .error (.io "stream did not contain valid UTF-8")
  | .text contents => read contents

end Settings

structure Route where
  project : String
  region : String
deriving DecidableEq, Repr

-- What a device directory is bound to. The source registry is looked for in the region of
-- its destination.
structure DirectoryBinding where
  project : String
  registry : String
  region : String
deriving DecidableEq, Repr

namespace Route

-- The route of a registry, or the event that says which key is missing. The target key is
-- looked up first.
def find (settings : SettingsMap) (registry : String) : Except Event Route :=
  match settings.get? (Settings.targetKey registry) with
  | none => .error (.targetKeyMissing registry (Settings.targetKey registry))
  | some project =>
      match settings.get? (Settings.regionKey registry) with
      | none => .error (.regionKeyMissing registry (Settings.regionKey registry))
      | some region => .ok ⟨project,region⟩

def source (route : Route) (project registry : String) : DirectoryBinding :=
  ⟨project,registry,route.region⟩

def required (route : Route) (binding : DirectoryBinding) : List (String × String) :=
  [("cloud config cloud_region",binding.region),
    ("cloud config registry_id",binding.registry),
    ("proxy config destination_project_id",route.project),
    ("proxy config destination_region",route.region)]

def undefined? (route : Route) (binding : DirectoryBinding) : Option Fault :=
  ((route.required binding).find? (fun entry => entry.2.isEmpty)).map
    fun entry => .configuration (entry.1 ++ " not defined")

end Route
end RegistryRelay
