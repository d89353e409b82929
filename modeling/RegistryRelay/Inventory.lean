import RegistryRelay.File
import RegistryRelay.Inventory.Reader
import RegistryRelay.Fault

namespace RegistryRelay

abbrev Inventory := Dict (Dict (Dict String))

namespace Inventory

def metadata : Reader (Dict String) :=
  .record "DeviceEntry" "metadata" (.map .text) fun _ => .ok {}

def registries : Reader Inventory :=
  .record "RegistryFile" "registries" (.map (.map metadata)) fun sequence =>
    if sequence then .error (.tooFewElements "struct RegistryFile")
    else .error (.missingField "registries")

def read (text : String) : Except Error Inventory :=
  match registries.run (lexemes text.toList) with
  | .error error => .error error
  | .ok (inventory,[]) => .ok inventory
  | .ok _ => .error .syntaxError

def load : File → Except Fault Inventory
  | .absent => .error (.directory ("Static registry file not found: " ++
      "Os \x7b code: 2, kind: NotFound, message: \"No such file or directory\" \x7d"))
  | .folder => .error (.directory ("Unable to read file: " ++
      "Os \x7b code: 21, kind: IsADirectory, message: \"Is a directory\" \x7d"))
  | .garbled => .error (.directory ("Unable to read file: " ++
      "Error \x7b kind: InvalidData, message: \"stream did not contain valid UTF-8\" \x7d"))
  | .text contents =>
      match read contents with
      | .error error => .error (.directory ("Unable to parse JSON: " ++ error.message))
      | .ok inventory => .ok inventory

end Inventory
end RegistryRelay
