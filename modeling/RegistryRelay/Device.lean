import RegistryRelay.Dict
import RegistryRelay.Fault
import RegistryRelay.Text.Quoted

namespace RegistryRelay

structure KeyMaterial where
  algorithm : String
  bytes : List UInt8
deriving DecidableEq, Repr

-- Shown with the length of the key only, never its bytes.
def KeyMaterial.redacted (key : KeyMaterial) : String :=
  "KeyMaterial \x7b algorithm: " ++ Quoted.quote key.algorithm ++ ", bytes: <" ++
    toString key.bytes.length ++ " bytes> \x7d"

structure Device where
  id : String
  metadata : Dict String
deriving DecidableEq, Repr

namespace Device

def algorithmKey : String := "key_algorithm"
def bytesKey : String := "key_bytes"

def required (device : Device) (key : String) : Except Fault String :=
  match device.metadata.get? key with
  | some value => .ok value
  | none => .error (.missingKeyMaterial device.id key)

-- The algorithm is asked for first, and the key is decoded only when both are there.
def keyMaterial (device : Device) : Except Fault KeyMaterial :=
  match device.required algorithmKey with
  | .error fault => .error fault
  | .ok algorithm =>
      match device.required bytesKey with
      | .error fault => .error fault
      | .ok encoded =>
          match Base64.decode encoded.toUTF8.data.toList with
          | .error error => .error (.keyDecode error)
          | .ok bytes => .ok ⟨algorithm,bytes⟩

end Device
end RegistryRelay
