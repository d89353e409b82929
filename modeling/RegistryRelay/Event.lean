import RegistryRelay.Fault

namespace RegistryRelay

inductive EventName where
  | targetCreateStart
  | targetCreateOk
  | targetDisabled
  | targetConfigKeyMissing
  | targetDevicesLoaded
  | publishDropNoSubfolder
  | publishDropUnknownDevice
  | publishSendAttempt
  | publishSendFailed
  | publishDropNoPublisher
  | publisherCreate
  | publisherCreateFailed
  | publisherReuse
  | publisherStale
  | publisherClose
  | publisherError
  | targetTerminate
  | inboundReceive
  | inboundIgnored
  | inboundInvalidTopic
  | inboundConfigUpdate
  | inboundConfigUpdateFailed
  | inboundTargetGone
  | mirrorEmit
  | mirrorSendFailed
deriving DecidableEq, Repr

namespace EventName

def text : EventName → String
  | targetCreateStart => "target_create_start"
  | targetCreateOk => "target_create_ok"
  | targetDisabled => "target_disabled"
  | targetConfigKeyMissing => "target_config_key_missing"
  | targetDevicesLoaded => "target_devices_loaded"
  | publishDropNoSubfolder => "publish_drop_no_subfolder"
  | publishDropUnknownDevice => "publish_drop_unknown_device"
  | publishSendAttempt => "publish_send_attempt"
  | publishSendFailed => "publish_send_failed"
  | publishDropNoPublisher => "publish_drop_no_publisher"
  | publisherCreate => "publisher_create"
  | publisherCreateFailed => "publisher_create_failed"
  | publisherReuse => "publisher_reuse"
  | publisherStale => "publisher_stale"
  | publisherClose => "publisher_close"
  | publisherError => "publisher_error"
  | targetTerminate => "target_terminate"
  | inboundReceive => "inbound_receive"
  | inboundIgnored => "inbound_ignored"
  | inboundInvalidTopic => "inbound_invalid_topic"
  | inboundConfigUpdate => "inbound_config_update"
  | inboundConfigUpdateFailed => "inbound_config_update_failed"
  | inboundTargetGone => "inbound_target_gone"
  | mirrorEmit => "mirror_emit"
  | mirrorSendFailed => "mirror_send_failed"

def catalogue : List EventName :=
  [targetCreateStart,targetCreateOk,targetDisabled,targetConfigKeyMissing,targetDevicesLoaded,
    publishDropNoSubfolder,publishDropUnknownDevice,publishSendAttempt,publishSendFailed,
    publishDropNoPublisher,publisherCreate,publisherCreateFailed,publisherReuse,publisherStale,
    publisherClose,publisherError,targetTerminate,inboundReceive,inboundIgnored,
    inboundInvalidTopic,inboundConfigUpdate,inboundConfigUpdateFailed,inboundTargetGone,
    mirrorEmit,mirrorSendFailed]

end EventName

inductive Reason where
  | notInScope
  | noSubFolder
  | notConfigTopic
  | malformedConfigTopic
  | terminatedDuringCreate
  | targetDropped
deriving DecidableEq, Repr

namespace Reason

def text : Reason → String
  | notInScope => "device_not_in_scope"
  | noSubFolder => "no_subfolder"
  | notConfigTopic => "not_config_topic"
  | malformedConfigTopic => "malformed_config_topic"
  | terminatedDuringCreate => "terminated_during_create"
  | targetDropped => "target_dropped"

def catalogue : List Reason :=
  [notInScope,noSubFolder,notConfigTopic,malformedConfigTopic,terminatedDuringCreate,
    targetDropped]

end Reason

structure PublisherKey where
  project : String
  registry : String
  device : String
deriving DecidableEq, Repr

def PublisherKey.text (key : PublisherKey) : String :=
  key.project ++ ":" ++ key.registry ++ ":" ++ key.device

-- Everything the relay reports about itself. The device list of `devicesLoaded` is shown
-- in order; `terminated` counts the publishers it closed.
inductive Event where
  | createStart (registry : String)
  | createPushing (registry project region : String)
  | createOk (registry : String)
  | disabled (registry : String)
  | targetKeyMissing (registry key : String)
  | regionKeyMissing (registry key : String)
  | devicesLoaded (registry devices : String)
  | noSubFolder (registry device : String)
  | unknownDevice (registry device subFolder : String)
  | sendAttempt (registry device subFolder : String)
  | sendFailed (registry device topic : String) (fault : Fault)
  | noPublisher (registry device : String)
  | publisherCreated (key : PublisherKey)
  | publisherFailed (registry device : String) (fault : Fault)
  | publisherReused (key : PublisherKey)
  | publisherStale (key : PublisherKey)
  | publisherClosed (key : PublisherKey)
  | publisherError (registry device : String) (fault : Fault)
  | terminated (registry : String) (closed : Nat)
  | received (registry topic : String)
  | ignored (registry topic : String)
  | invalidTopic (registry topic : String)
  | configUpdate (registry device : String)
  | configUpdateFailed (registry device : String) (fault : Fault)
  | messageAfterDrop (device topic : String)
  | errorAfterDrop (device : String) (fault : Fault)
  | mirrored (registry device subFolder : String)
  | mirrorClosed
deriving DecidableEq, Repr

inductive Level where
  | error
  | warn
  | info
  | debug
deriving DecidableEq, Repr

def Level.text : Level → String
  | .error => "ERROR"
  | .warn => "WARN"
  | .info => "INFO"
  | .debug => "DEBUG"

inductive FieldValue where
  | text (value : String)
  | count (value : Nat)
deriving DecidableEq, Repr

namespace Event

def eventField : String := "event"
def componentField : String := "component"
def registryField : String := "registry_id"
def deviceField : String := "device_id"
def subFolderField : String := "sub_folder"
def topicField : String := "topic"
def publisherKeyField : String := "publisher_key"
def reasonField : String := "reason"
def faultField : String := "err"

def fieldNames : List String :=
  [eventField,componentField,registryField,deviceField,subFolderField,topicField,
    publisherKeyField,reasonField,faultField]

def name : Event → EventName
  | createStart .. | createPushing .. => .targetCreateStart
  | createOk .. => .targetCreateOk
  | disabled .. => .targetDisabled
  | targetKeyMissing .. | regionKeyMissing .. => .targetConfigKeyMissing
  | devicesLoaded .. => .targetDevicesLoaded
  | noSubFolder .. => .publishDropNoSubfolder
  | unknownDevice .. => .publishDropUnknownDevice
  | sendAttempt .. => .publishSendAttempt
  | sendFailed .. => .publishSendFailed
  | noPublisher .. => .publishDropNoPublisher
  | publisherCreated .. => .publisherCreate
  | publisherFailed .. => .publisherCreateFailed
  | publisherReused .. => .publisherReuse
  | publisherStale .. => .publisherStale
  | publisherClosed .. => .publisherClose
  | publisherError .. => .publisherError
  | terminated .. => .targetTerminate
  | received .. => .inboundReceive
  | ignored .. => .inboundIgnored
  | invalidTopic .. => .inboundInvalidTopic
  | configUpdate .. => .inboundConfigUpdate
  | configUpdateFailed .. => .inboundConfigUpdateFailed
  | messageAfterDrop .. | errorAfterDrop .. => .inboundTargetGone
  | mirrored .. => .mirrorEmit
  | mirrorClosed => .mirrorSendFailed

def component : Event → String
  | targetKeyMissing .. | regionKeyMissing .. => "proxy_config"
  | publisherCreated .. | publisherReused .. | publisherStale .. | publisherClosed .. =>
      "publisher_pool"
  | messageAfterDrop .. | errorAfterDrop .. => "inbound_listener"
  | mirrorClosed => "mirror"
  | _ => "proxy_target"

def level : Event → Level
  | sendFailed .. | publisherFailed .. | publisherError .. | configUpdateFailed .. => .error
  | targetKeyMissing .. | regionKeyMissing .. | noPublisher .. | publisherStale ..
  | invalidTopic .. | mirrorClosed => .warn
  | publisherCreated .. | publisherReused .. | publisherClosed .. | ignored ..
  | messageAfterDrop .. | errorAfterDrop .. | mirrored .. => .debug
  | _ => .info

def message : Event → String
  | createStart .. => "creating proxy target"
  | createPushing .. => "pushing to destination registry"
  | createOk .. => "created proxy target"
  | disabled .. => "ignoring unknown proxy target"
  | targetKeyMissing .. => "proxy target key not found"
  | regionKeyMissing .. => "proxy region key not found"
  | devicesLoaded .. => "proxying for devices"
  | noSubFolder .. => "ignoring message with no subFolder"
  | unknownDevice .. => "ignoring message for device"
  | sendAttempt .. => "sending message"
  | sendFailed .. => "publish failed; tearing down registry publishers"
  | noPublisher .. => "publisher torn down while connecting; dropping message"
  | publisherCreated .. => "created destination publisher"
  | publisherFailed .. => "unable to create destination publisher; dropping message"
  | publisherReused .. => "reusing destination publisher"
  | publisherStale .. => "pool was cleared during acquire; closing publisher"
  | publisherClosed .. => "closing destination publisher"
  | publisherError .. => "publisher error"
  | terminated .. => "closed destination publishers"
  | received .. => "received message"
  | ignored .. => "ignoring inbound message"
  | invalidTopic .. => "unable to extract device from config topic"
  | configUpdate .. => "updating device config"
  | configUpdateFailed .. => "device config update failed"
  | messageAfterDrop .. => "dropping inbound message"
  | errorAfterDrop .. => "dropping publisher error"
  | mirrored .. => "mirroring message"
  | mirrorClosed => "mirror channel closed; dropping bundle"

def details : Event → List (String × FieldValue)
  | createStart registry | createOk registry | disabled registry =>
      [(registryField,.text registry)]
  | createPushing registry project region => [(registryField,.text registry),
      ("destination_project_id",.text project),("destination_region",.text region)]
  | targetKeyMissing registry key | regionKeyMissing registry key =>
      [(registryField,.text registry),("key",.text key)]
  | devicesLoaded registry devices =>
      [(registryField,.text registry),("devices",.text devices)]
  | noSubFolder registry device => [(registryField,.text registry),(deviceField,.text device),
      (reasonField,.text Reason.noSubFolder.text)]
  | unknownDevice registry device subFolder => [(registryField,.text registry),
      (deviceField,.text device),(subFolderField,.text subFolder),
      (reasonField,.text Reason.notInScope.text)]
  | sendAttempt registry device subFolder | mirrored registry device subFolder =>
      [(registryField,.text registry),(deviceField,.text device),
        (subFolderField,.text subFolder)]
  | sendFailed registry device topic fault => [(registryField,.text registry),
      (deviceField,.text device),(topicField,.text topic),(faultField,.text fault.message)]
  | noPublisher registry device => [(registryField,.text registry),(deviceField,.text device),
      (reasonField,.text Reason.terminatedDuringCreate.text)]
  | publisherCreated key | publisherReused key | publisherClosed key =>
      [(publisherKeyField,.text key.text)]
  | publisherStale key => [(publisherKeyField,.text key.text),
      (reasonField,.text Reason.terminatedDuringCreate.text)]
  | publisherFailed registry device fault | publisherError registry device fault
  | configUpdateFailed registry device fault => [(registryField,.text registry),
      (deviceField,.text device),(faultField,.text fault.message)]
  | terminated registry closed => [(registryField,.text registry),("closed",.count closed)]
  | received registry topic => [(registryField,.text registry),(topicField,.text topic)]
  | ignored registry topic => [(registryField,.text registry),(topicField,.text topic),
      (reasonField,.text Reason.notConfigTopic.text)]
  | invalidTopic registry topic => [(registryField,.text registry),(topicField,.text topic),
      (reasonField,.text Reason.malformedConfigTopic.text)]
  | configUpdate registry device => [(registryField,.text registry),(deviceField,.text device)]
  | messageAfterDrop device topic => [(deviceField,.text device),(topicField,.text topic),
      (reasonField,.text Reason.targetDropped.text)]
  | errorAfterDrop device fault => [(deviceField,.text device),
      (reasonField,.text Reason.targetDropped.text),(faultField,.text fault.message)]
  | mirrorClosed => [(faultField,.text "channel closed")]

def fields (event : Event) : List (String × FieldValue) :=
  (eventField,.text event.name.text) :: (componentField,.text event.component) ::
    ("level",.text event.level.text) :: ("message",.text event.message) :: event.details

end Event
end RegistryRelay
