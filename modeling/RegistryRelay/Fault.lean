import RegistryRelay.Base64

namespace RegistryRelay

inductive Fault where
  | configuration (text : String)
  | settings (text : String)
  | directory (text : String)
  | deviceNotFound (device : String)
  | missingKeyMaterial (device key : String)
  | keyDecode (error : Base64.Error)
  | transport (text : String)
  | io (text : String)
deriving DecidableEq, Repr

def Fault.message : Fault → String
  | .configuration text => "Configuration error: " ++ text
  | .settings text => "Unable to parse config: " ++ text
  | .directory text => "Device directory error: " ++ text
  | .deviceNotFound device => "Device not found: " ++ device
  | .missingKeyMaterial device key => "Device " ++ device ++ " has no " ++ key ++ " metadata"
  | .keyDecode error => "Unable to decode key bytes: " ++ error.message
  | .transport text => "Transport error: " ++ text
  | .io text => "I/O error: " ++ text

end RegistryRelay
