import RegistryRelay.Dict

namespace RegistryRelay

structure Bundle where
  payload : String := ""
  attributes : Dict String := {}
deriving DecidableEq, Repr

namespace Bundle

def registryAttribute : String := "deviceRegistryId"
def deviceAttribute : String := "deviceId"
def subFolderAttribute : String := "subFolder"

def routed (registry device subFolder payload : String) : Bundle :=
  ⟨payload,Dict.ofPairs [(registryAttribute,registry),(deviceAttribute,device),
    (subFolderAttribute,subFolder)]⟩

def attribute? (b : Bundle) (name : String) : Option String := b.attributes.get? name
def registry? (b : Bundle) : Option String := b.attribute? registryAttribute
def device? (b : Bundle) : Option String := b.attribute? deviceAttribute
def subFolder? (b : Bundle) : Option String := b.attribute? subFolderAttribute

def isEmpty (b : Bundle) : Bool := b.payload.isEmpty && b.attributes.entries.isEmpty

end Bundle
end RegistryRelay
