import RegistryRelay.Device
import RegistryRelay.Inventory
import RegistryRelay.Settings
import RegistryRelay.Text.Order

namespace RegistryRelay

structure Snapshot where
  binding : DirectoryBinding
  devices : Dict (Dict String)
  pushed : Dict String := {}
deriving DecidableEq, Repr

namespace Snapshot

def listDevices (s : Snapshot) : List String := ascendingSet s.devices.names

def fetch (s : Snapshot) (device : String) : Except Fault Device :=
  match s.devices.get? device with
  | some metadata => .ok ⟨device,metadata⟩
  | none => .error (.deviceNotFound device)

def push (s : Snapshot) (device payload : String) : Except Fault Snapshot :=
  if s.devices.contains device then .ok { s with pushed := s.pushed.put device payload }
  else .error (.deviceNotFound device)

def config? (s : Snapshot) (device : String) : Option String := s.pushed.get? device

end Snapshot

-- A directory over a registry file. Every successful connect hands out a snapshot of its
-- own; `current` is the one handed out last for each registry.
structure FileDirectory where
  path : String := "registry.json"
  snapshots : List Snapshot := []
  current : Dict Nat := {}
deriving DecidableEq, Repr

namespace FileDirectory

def snapshot? (d : FileDirectory) (handle : Nat) : Option Snapshot := d.snapshots[handle]?

def directory? (d : FileDirectory) (registry : String) : Option Snapshot :=
  (d.current.get? registry).bind d.snapshot?

def connect (d : FileDirectory) (file : File) (binding : DirectoryBinding) :
    Except Fault (Nat × FileDirectory) :=
  match Inventory.load file with
  | .error fault => .error fault
  | .ok inventory =>
      match inventory.get? binding.registry with
      | none => .error (.directory
          ("Registry " ++ binding.registry ++ " not present in " ++ d.path))
      | some devices =>
          .ok (d.snapshots.length,{ d with
            snapshots := d.snapshots ++ [{ binding,devices }]
            current := d.current.put binding.registry d.snapshots.length })

def push (d : FileDirectory) (handle : Nat) (device payload : String) :
    Except Fault FileDirectory :=
  match d.snapshot? handle with
  | none => .error (.deviceNotFound device)
  | some s =>
      match s.push device payload with
      | .error fault => .error fault
      | .ok s => .ok { d with snapshots := d.snapshots.set handle s }

end FileDirectory
end RegistryRelay
