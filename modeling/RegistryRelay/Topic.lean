namespace RegistryRelay.Topic

def stateTopic : String := "state"
def stateFolder : String := "state"
def configFolder : String := "config"

def outbound (subFolder : String) : String :=
  if subFolder = stateFolder then stateTopic else "events/" ++ subFolder

def isConfig (topic : String) : Bool := configFolder.toList.isSuffixOf topic.toList

def segments : List Char → List (List Char)
  | [] => [[]]
  | c :: rest =>
      if c = '/' then [] :: segments rest
      else
        match segments rest with
        | [] => [[c]]
        | part :: parts => (c :: part) :: parts

def configDevice? (topic : String) : Option String :=
  match segments topic.toList with
  | [root,devices,device,config] =>
      if root = [] ∧ devices = "devices".toList ∧ config = configFolder.toList ∧ device ≠ [] then
        some (String.ofList device)
      else none
  | _ => none

end RegistryRelay.Topic
