import RegistryRelay.Proofs.Bench.Sequence

namespace RegistryRelay
open Line (World)

namespace Bench

def trace (b : Bench) : List Command → List (Command × List Entry)
  | [] => []
  | command :: rest => (command,b.added command) :: (b.perform command).1.trace rest

end Bench

def forwarded (trace : List (Command × List Entry)) : List Message :=
  trace.flatMap fun step => accepted step.1.message? step.2

def outbound (trace : List (Command × List Entry)) : List Bundle :=
  trace.flatMap fun step =>
    if step.1.message?.isSome then step.2.filterMap Entry.mirrored? else []

theorem bundle_device (message : Message) (registry : String) :
    (message.bundle registry).device? = some message.device := by
  simp [Message.bundle,Bundle.routed,Bundle.device?,Bundle.attribute?,Dict.ofPairs,
    Bundle.deviceAttribute,Bundle.subFolderAttribute,Bundle.registryAttribute]

namespace Bench

variable {b later : Bench} {line next : Line} {command : Command}

theorem performs_delivers (steady : b.Steady line) (commands : List Command)
    (plain : ∀ command ∈ commands, command.isPlain = true) :
    (∀ device, (b.performs commands).rig.heard device = b.rig.heard device ++
      ((forwarded (b.trace commands)).filter (·.device = device)).map Message.sent) ∧
    ((b.performs commands).rig.Takes → b.rig.Takes ∧
      outbound (b.trace commands) =
        (forwarded (b.trace commands)).map (·.bundle line.relay.registry)) := by
  induction commands generalizing b line with
  | nil => exact ⟨fun device => (List.append_nil _).symm,fun takes => ⟨takes,rfl⟩⟩
  | cons command rest ih =>
      obtain ⟨next,entries,follows⟩ := perform_follows steady (plain command (.head _))
      obtain ⟨hears,mirrors⟩ := ih follows.steady fun other member => plain other (.tail _ member)
      have first : forwarded (b.trace (command :: rest)) =
          accepted command.message? entries ++ forwarded ((b.perform command).1.trace rest) := by
        rw [← follows.added]
        rfl
      refine ⟨fun device => ?_,fun takes => ?_⟩
      · rw [first,List.filter_append,List.map_append,← List.append_assoc,← follows.heard]
        exact hears device
      · obtain ⟨open',copies⟩ := mirrors takes
        refine ⟨follows.takes open',?_⟩
        have copy : (if command.message?.isSome then entries.filterMap Entry.mirrored? else []) =
            (accepted command.message? entries).map (·.bundle line.relay.registry) := by
          split
          · rename_i some
            exact follows.mirrored open' some
          · rename_i none
            rw [Option.not_isSome_iff_eq_none.mp none]
            simp [accepted]
        rw [first,List.map_append,← copy,← follows.relay,← copies,← follows.added]
        rfl

theorem delivered_in_order (fresh : b.Fresh line) (commands : List Command)
    (plain : ∀ command ∈ commands, command.isPlain = true) (device : String) :
    ((b.performs commands).rig.publishersFor device).flatMap
        (fun p => (b.performs commands).rig.messages p.publisher) =
      ((forwarded (b.trace commands)).filter (·.device = device)).map
        (fun message => (device,message.topic,message.data)) ∧
    ((b.performs commands).rig.Takes →
      (outbound (b.trace commands)).filter (·.device? = some device) =
        ((forwarded (b.trace commands)).filter (·.device = device)).map
          (·.bundle line.relay.registry)) := by
  obtain ⟨hears,mirrors⟩ := performs_delivers fresh.steady commands plain
  refine ⟨?_,fun takes => ?_⟩
  · have nothing : b.rig.heard device = [] := by
      unfold Rig.heard Rig.publishersFor
      rw [fresh.unused.publishers]
      rfl
    have all := hears device
    rw [nothing,List.nil_append] at all
    refine all.trans (List.map_congr_left fun message member => ?_)
    have own : message.device = device := by simpa using (List.mem_filter.mp member).2
    rw [Message.sent,own]
  · rw [(mirrors takes).2,List.filter_map]
    congr 1
    refine List.filter_congr fun message _ => ?_
    simp [bundle_device]

-- One message goes out before a teardown and one after it, through two publishers.
theorem delivered_in_order_reconnected :
    let commands : List Command := [.operate (.publish 0 "device" (some "state") "one"),
      .operate (.terminate 0),.operate (.publish 0 "device" (some "system") "two")]
    let later := (desk false).performs commands
    (later.rig.publishersFor "device").map OpenPublisher.publisher = [0,1] ∧
    (later.rig.publishersFor "device").flatMap (fun p => later.rig.messages p.publisher) =
      [("device","state","one"),("device","events/system","two")] ∧
    (outbound ((desk false).trace commands)).filter (·.device? = some "device") =
      [.routed "registry" "device" "state" "one",.routed "registry" "device" "system" "two"] := by
  intro commands later
  let b := desk false
  let one := World.perform ⟨deskLine,b.rig⟩ (.publish "device" (some "state") "one")
  let two := World.perform ⟨one.line,one.rig⟩ .terminating
  let three := World.perform ⟨two.line,two.rig⟩ (.publish "device" (some "system") "two")
  have started : b.Steady deskLine := (desk_fresh false).steady
  have published : (b.settle one).Steady one.line := settle_steady started _
  have emptied : ((b.settle one).settle two).Steady two.line := settle_steady published _
  have first : (b.perform (.operate (.publish 0 "device" (some "state") "one"))).1 =
      b.settle one := perform_call started rfl
  have second : ((b.settle one).perform (.operate (.terminate 0))).1 =
      (b.settle one).settle two := perform_call published rfl
  have third : (((b.settle one).settle two).perform
      (.operate (.publish 0 "device" (some "system") "two"))).1 =
        ((b.settle one).settle two).settle three := perform_call emptied rfl
  have reached : later = ((b.settle one).settle two).settle three := by
    change (((b.perform _).1.perform _).1.perform _).1 = _
    rw [first,second,third]
  have plain : ∀ command ∈ commands, command.isPlain = true := by simp [commands,Command.isPlain]
  have recording : later.rig.sink = .recording := by
    rw [reached]
    decide
  have takes : later.rig.Takes := by simp [Rig.Takes,recording]
  obtain ⟨told,copied⟩ := delivered_in_order (desk_fresh false) commands plain "device"
  have sent : (forwarded (b.trace commands)).filter (·.device = "device") =
      [⟨"device","state","one"⟩,⟨"device","system","two"⟩] := by
    simp only [commands,trace,added,first,second,third]
    decide
  refine ⟨?_,told.trans ?_,(copied takes).trans ?_⟩
  · rw [reached]
    decide
  · rw [sent]
    decide
  · rw [sent]
    rfl

end Bench
end RegistryRelay
