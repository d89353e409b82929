import Mathlib.Data.List.DropRight
import RegistryRelay.Proofs.Relay.Transition
import RegistryRelay.Proofs.Topic.Shape

namespace RegistryRelay.Topic

def sliced (topic : String) : String := String.ofList ((topic.toList.drop 9).rdrop 7)

variable {topic device other : String}

theorem sliced_spelled (device : String) : sliced ("/devices/" ++ device ++ "/config") = device := by
  have front : "/devices/".toList.length = 9 := rfl
  have back : "/config".toList.length = 7 := rfl
  rw [sliced,String.toList_append,String.toList_append,List.append_assoc,← front,List.drop_left,
    List.rdrop,List.length_append,back,Nat.add_sub_cancel,List.take_left,String.ofList_toList]

theorem spelled_inj (same : "/devices/" ++ device ++ "/config" = "/devices/" ++ other ++ "/config") :
    device = other := by
  have cut := congrArg sliced same
  rwa [sliced_spelled,sliced_spelled] at cut

theorem Configures.sliced (configures : Configures device topic) : sliced topic = device := by
  rw [configures.2.2,sliced_spelled]

theorem Configures.dispatched (configures : Configures device topic) (relay : Relay)
    (s : Relay.State) (reply : Option Reply) (payload : String) :
    Relay.Transition relay s reply (.inbound topic payload) s (.updating device payload)
      [.note (.received relay.registry topic),.note (.configUpdate relay.registry device),
        .ask (.update device payload)] :=
  .push (isConfig_iff.mpr configures.ends) (configDevice?_eq_some_iff.mpr configures)

-- A topic names a device exactly when it is spelled out with it. Cutting both ends off gives the
-- same device, there is no other one, and no such topic is turned away.
theorem config_topics_exact (topic device : String) :
    (configDevice? topic = some device ↔
      device ≠ "" ∧ '/' ∉ device.toList ∧ topic = "/devices/" ++ device ++ "/config") ∧
    (configDevice? topic = some device →
      device = sliced topic ∧
      (∀ other, topic = "/devices/" ++ other ++ "/config" → other = device) ∧
      isConfig topic = true ∧
      ∀ (relay : Relay) (s : Relay.State) (reply : Option Reply) (payload : String),
        relay.step s reply (.inbound topic payload) = some (s,.updating device payload,
          [.note (.received relay.registry topic),.note (.configUpdate relay.registry device),
            .ask (.update device payload)])) := by
  refine ⟨configDevice?_eq_some_iff,fun found => ?_⟩
  have configures := configDevice?_eq_some_iff.mp found
  refine ⟨configures.sliced.symm,?_,isConfig_iff.mpr configures.ends,?_⟩
  · intro other spelled
    exact spelled_inj (spelled.symm.trans configures.2.2)
  · intro relay s reply payload
    exact Relay.step_complete (configures.dispatched relay s reply payload)

theorem config_topics_exact_namesake :
    configDevice? "/devices/config/config" = some "config" ∧
    sliced "/devices/config/config" = "config" ∧ isConfig "/devices/config/config" = true := by
  have found : configDevice? "/devices/config/config" = some "config" :=
    (config_topics_exact _ _).1.mpr ⟨by decide,by decide,by decide⟩
  obtain ⟨cut,_,passes,_⟩ := (config_topics_exact _ _).2 found
  exact ⟨found,cut.symm,passes⟩

-- Both ends of a topic may overlap. It is looked at then, and names nobody.
example : isConfig "/devices/config" = true ∧ configDevice? "/devices/config" = none := by decide

end RegistryRelay.Topic
