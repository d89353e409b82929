import RegistryRelay.Proofs.Bench.Sequence

namespace RegistryRelay
open Line (World)

namespace Rig

def behind (rig : Rig) (past : List Entry) : Rig := { rig with journal := past ++ rig.journal }

variable {rig : Rig} {past : List Entry}

def dealings (rig : Rig) : List Entry := rig.journal.filter fun entry => entry.event?.isNone

theorem messages_dealings (publisher : PublisherId) :
    rig.messages publisher = rig.dealings.filterMap (Entry.message? publisher) := by
  unfold dealings
  rw [List.filterMap_filter]
  apply List.filterMap_congr
  intro entry _
  cases entry <;> rfl

theorem closeCount_dealings (publisher : PublisherId) :
    rig.closeCount publisher = rig.dealings.countP (· == .closed publisher) := by
  unfold dealings closeCount
  rw [List.countP_filter]
  apply List.countP_congr
  intro entry _
  cases entry <;> simp [Entry.event?]

theorem extend_behind (entries : List Entry) :
    (rig.behind past).extend entries = (rig.extend entries).behind past := by
  simp only [behind,extend,List.append_assoc]

theorem performAll_behind (acts : List Act) :
    (rig.behind past).performAll acts = (rig.performAll acts).behind past := by
  rw [performAll_extends,performAll_extends]
  exact extend_behind _

theorem fetchDevice_behind (handle : Nat) (device : String) :
    (rig.behind past).fetchDevice handle device =
      ((rig.fetchDevice handle device).1,(rig.fetchDevice handle device).2.behind past) := by
  cases scripted : rig.script.fetch.get? device with
  | some fault =>
      simp only [fetchDevice,behind,scripted]
      exact congrArg (Prod.mk _) (extend_behind [.fetched device true])
  | none =>
      simp only [fetchDevice,behind,scripted]
      exact congrArg (Prod.mk _) (extend_behind [.fetched device false])

theorem updateDevice_behind (handle : Nat) (device payload : String) :
    (rig.behind past).updateDevice handle device payload =
      ((rig.updateDevice handle device payload).1,
        (rig.updateDevice handle device payload).2.behind past) := by
  obtain ⟨scripted,seen⟩ := rig.updateDevice_seen handle device payload
  have here : (rig.updateDevice handle device payload).2 = _ := congrArg Prod.snd (seen rig.journal)
  rw [here]
  refine (seen (past ++ rig.journal)).trans ?_
  simp only [behind,List.append_assoc]

theorem openPublisher_behind (publisher : PublisherId) (bound : PublisherBinding) :
    (rig.behind past).openPublisher publisher bound =
      ((rig.openPublisher publisher bound).1,(rig.openPublisher publisher bound).2.behind past) := by
  cases rejects : rig.rejectConnects with
  | true => simp only [openPublisher,behind,rejects,↓reduceIte]
  | false => simp only [openPublisher,behind,rejects,Bool.false_eq_true,↓reduceIte]

theorem send_behind (publisher : PublisherId) (device topic payload : String) :
    (rig.behind past).send publisher device topic payload =
      ((rig.send publisher device topic payload).1,
        (rig.send publisher device topic payload).2.behind past) :=
  congrArg (Prod.mk _) (extend_behind [.published publisher device topic payload])

end Rig
namespace Line.World

def behind (w : World) (past : List Entry) (ignored : List String) : World :=
  ⟨{ w.line with state := { w.line.state with ignored } },w.rig.behind past⟩

def bare (w : World) : World :=
  ⟨{ w.line with state := { w.line.state with ignored := [] } },{ w.rig with journal := [] }⟩

variable {w : World} {past : List Entry} {ignored : List String}

theorem bare_behind (w : World) : w.bare.behind w.rig.journal w.line.state.ignored = w := by
  simp only [behind,bare,Rig.behind,List.append_nil]

theorem behind_bare (past : List Entry) (ignored : List String) :
    (w.behind past ignored).bare = w.bare := rfl

theorem does_behind (acts : List Act) :
    (w.behind past ignored).does acts = (w.does acts).behind past ignored := by
  simp only [does,behind,Rig.performAll_behind]

theorem emptied_behind : (w.behind past ignored).emptied = w.emptied.behind past ignored :=
  does_behind (w := w.withPool { w.line.state.pool with cached := [] }) _

theorem mirror_behind (message : Message) :
    (w.behind past ignored).mirror message = (w.mirror message).behind past ignored := does_behind _

theorem deliver_behind (message : Message) (publisher : PublisherId) :
    (w.behind past ignored).deliver message publisher =
      (w.deliver message publisher).behind past ignored := by
  unfold deliver
  rw [behind,Rig.send_behind]
  generalize w.rig.send publisher message.device message.topic message.data = answer
  obtain ⟨fault,rig⟩ := answer
  cases fault with
  | none => exact mirror_behind (w := ⟨w.line,rig⟩) message
  | some fault =>
      let told := World.mk w.line rig
      let failed : Event := .sendFailed w.line.relay.registry message.device message.topic fault
      change (((told.behind past ignored).does [.note failed]).emptied).mirror message = _
      rw [does_behind,emptied_behind,mirror_behind]

theorem establish_behind (device : String) (slot : SlotId) (bound : PublisherBinding) :
    (w.behind past ignored).establish device slot bound =
      ((w.establish device slot bound).1,(w.establish device slot bound).2.behind past ignored) := by
  have attempted : ((w.behind past ignored).attempt device).rig = (w.attempt device).rig.behind past :=
    @Rig.extend_behind (w.rig.beginAttempt w.line.number device).2.2 past
      [.attempted w.rig.attempts.length]
  have connected : (w.behind past ignored).connect device bound =
      ((w.connect device bound).1,(w.connect device bound).2.behind past ignored) := by
    unfold connect
    rw [attempted,Rig.openPublisher_behind]
    rfl
  unfold establish
  rw [connected]
  generalize w.connect device bound = answer
  obtain ⟨result,opened⟩ := answer
  cases result with
  | error fault => exact congrArg (Prod.mk none) (does_behind _)
  | ok publisher =>
      exact congrArg (Prod.mk (some publisher))
        (does_behind (w := opened.withPool (opened.line.state.pool.fill slot (.holds publisher))) _)

theorem create_behind (device : String) (slot : SlotId) :
    (w.behind past ignored).create device slot =
      ((w.create device slot).1,(w.create device slot).2.behind past ignored) := by
  have credited : (w.behind past ignored).credentials device =
      ((w.credentials device).1,(w.credentials device).2.behind past ignored) := by
    unfold credentials
    rw [behind,Rig.fetchDevice_behind]
    rfl
  unfold create
  rw [credited]
  generalize w.credentials device = answer
  obtain ⟨key,asked⟩ := answer
  cases key with
  | error fault => exact congrArg (Prod.mk none) (does_behind _)
  | ok material => exact establish_behind device slot _

theorem acquire_behind (device : String) :
    (w.behind past ignored).acquire device =
      ((w.acquire device).1,(w.acquire device).2.behind past ignored) := by
  cases served : w.line.state.pool.serves? (w.line.relay.publisherKey device) with
  | some publisher =>
      rw [acquire_reused served,acquire_reused (w := w.behind past ignored) served]
      exact congrArg (Prod.mk (some publisher)) (does_behind _)
  | none =>
      rw [acquire_created served,acquire_created (w := w.behind past ignored) served]
      exact create_behind (w := w.withPool _) device _

theorem forward_behind (message : Message) :
    (w.behind past ignored).forward message = (w.forward message).behind past ignored := by
  let event : Event := .sendAttempt w.line.relay.registry message.device message.subFolder
  change dispatch message (((w.behind past ignored).does [.note event]).acquire message.device) =
    (dispatch message ((w.does [.note event]).acquire message.device)).behind past ignored
  rw [does_behind,acquire_behind]
  generalize (w.does [.note event]).acquire message.device = answer
  obtain ⟨publisher,acquired⟩ := answer
  cases publisher with
  | none => rfl
  | some publisher => exact deliver_behind message publisher

theorem update_behind (device payload : String) :
    (w.behind past ignored).update device payload = (w.update device payload).behind past ignored := by
  unfold update
  rw [behind,Rig.updateDevice_behind]
  generalize w.rig.updateDevice w.line.handle device payload = answer
  obtain ⟨fault,rig⟩ := answer
  cases fault with
  | none => exact mirror_behind (w := ⟨w.line,rig⟩) _
  | some fault => exact does_behind (w := ⟨w.line,rig⟩) _

theorem receive_behind (topic payload : String) :
    (w.behind past ignored).receive topic payload = (w.receive topic payload).behind past ignored := by
  unfold receive
  simp only [does_behind]
  split
  · split
    · rfl
    · exact update_behind _ _
  · rfl

def Stray (relay : Relay) : Call → Prop
  | .publish device subFolder _ => subFolder = none ∨ relay.devices.contains device = false
  | _ => False

-- What a call does that is no stray message hangs neither on what happened before nor on the
-- devices that are ignored.
theorem perform_behind {call : Call} (serious : ¬Stray w.line.relay call) :
    (w.behind past ignored).perform call = (w.perform call).behind past ignored := by
  cases call with
  | publish device subFolder data =>
      simp only [Stray,not_or,Bool.not_eq_false] at serious
      cases subFolder with
      | none => exact (serious.1 rfl).elim
      | some subFolder =>
          have known : (w.behind past ignored).line.relay.devices.contains device = true := serious.2
          simp only [perform,known,serious.2,↓reduceIte]
          exact forward_behind _
  | terminate progress after => exact emptied_behind
  | fault device fault =>
      simp only [perform]
      rw [← emptied_behind,← does_behind]
      rfl
  | inbound topic payload => exact receive_behind topic payload
  | _ => rfl

theorem perform_stray {call : Call} (stray : Stray w.line.relay call) :
    ∃ (events : List Event) (ignored : List String),
    w.perform call = ⟨{ w.line with state := { w.line.state with ignored } },
      w.rig.extend (events.map .note)⟩ := by
  cases call with
  | publish device subFolder data =>
      cases subFolder with
      | none => exact ⟨[.noSubFolder w.line.relay.registry device],w.line.state.ignored,rfl⟩
      | some subFolder =>
          have unknown : w.line.relay.devices.contains device = false := by simpa [Stray] using stray
          simp only [perform,unknown,Bool.false_eq_true,↓reduceIte,ignore]
          cases w.line.state.ignored.contains device with
          | true =>
              refine ⟨[],w.line.state.ignored,?_⟩
              rw [List.map_nil,Rig.extend_nil]
              rfl
          | false =>
              exact ⟨[.unknownDevice w.line.relay.registry device subFolder],
                device :: w.line.state.ignored,rfl⟩
  | _ => exact stray.elim

end Line.World

def Relay.drops (relay : Relay) : Command → Bool
  | .operate (.publish 0 device subFolder _) => subFolder.isNone || !relay.devices.contains device
  | _ => false

namespace Bench

structure Outcome where
  command : Command
  answer : Answer
  entries : List Entry
  size : Option Nat

def outcome (b : Bench) (command : Command) : Outcome :=
  ⟨command,(b.perform command).2,b.added command,((b.perform command).1.status 0).map (·.1)⟩

def outcomes (b : Bench) : List Command → List Outcome
  | [] => []
  | command :: rest => b.outcome command :: (b.perform command).1.outcomes rest

-- Benches with one relay each, in the same state but for what happened before and for the devices
-- that are ignored.
structure Level (b b' : Bench) (line line' : Line) : Prop where
  steady : b.Steady line
  steady' : b'.Steady line'
  bare : World.bare ⟨line,b.rig⟩ = World.bare ⟨line',b'.rig⟩

variable {b b' : Bench} {line line' : Line} {command : Command} {call : Call}

theorem Level.relay (level : Level b b' line line') : line.relay = line'.relay :=
  congrArg (fun w : World => w.line.relay) level.bare

theorem Level.size (level : Level b b' line line') :
    (b.status 0).map (·.1) = (b'.status 0).map (·.1) := by
  have pool : line.state.pool = line'.state.pool :=
    congrArg (fun w : World => w.line.state.pool) level.bare
  rw [status,level.steady.place,status,level.steady'.place]
  simp only [Option.map_some,pool]

theorem Level.listener (level : Level b b' line line') (name : ListenerName) :
    b.listener? name = b'.listener? name := by
  have attempts : b.rig.attempts = b'.rig.attempts :=
    congrArg (fun w : World => w.rig.attempts) level.bare
  have latest : b.rig.latest = b'.rig.latest := congrArg (fun w : World => w.rig.latest) level.bare
  cases name with
  | attempt number => rw [listener?,attempts,listener?]
  | device id => rw [listener?,attempts,latest,listener?]

theorem Level.calls (level : Level b b' line line') (command : Command) :
    b.call? command = b'.call? command := by
  cases command with
  | operate operation =>
      cases operation with
      | message name | error name => rw [call?,call?,level.listener]
      | publish target | terminate target => cases target <;> rfl
  | _ => rfl

theorem call_serious {relay : Relay} (calls : b.call? command = some call)
    (serious : relay.drops command = false) : ¬World.Stray relay call := by
  cases command with
  | operate operation =>
      cases operation with
      | publish target device subFolder data =>
          cases target with
          | zero =>
              cases calls
              rintro (unrouted | unknown)
              · subst unrouted
                cases serious
              · simp only [Relay.drops,unknown,Bool.not_false,Bool.or_true] at serious
                cases serious
          | succ n => cases calls
      | terminate target =>
          cases target with
          | zero => cases calls; exact id
          | succ n => cases calls
      | message name | error name =>
          obtain ⟨found,_,rfl⟩ := Option.map_eq_some_iff.mp calls
          exact id
  | _ => cases calls

theorem drops_call {relay : Relay} (drops : relay.drops command = true) :
    ∃ call, b.call? command = some call ∧ World.Stray relay call := by
  unfold Relay.drops at drops
  split at drops
  · refine ⟨_,rfl,?_⟩
    simpa [World.Stray,Bool.or_eq_true,Option.isNone_iff_eq_none] using drops
  · cases drops

theorem Level.answer (level : Level b b' line line') (operation : Operation) :
    (b.operate operation).2 = (b'.operate operation).2 := by
  cases operation with
  | publish target | terminate target =>
      cases target with
      | zero => simp only [operate,begin,level.steady.place,level.steady'.place]
      | succ n => simp only [operate,begin,level.steady.vacant,level.steady'.vacant]
  | message name | error name =>
      have same := level.listener name
      cases listens : b.listener? name with
      | none => simp only [operate,begin,listens,← same]
      | some found =>
          simp only [operate,begin,listens,← same,level.steady.own listens,level.steady.place,
            level.steady'.place]

theorem perform_bare (steady : b.Steady line) (calls : b.call? command = some call)
    (serious : ¬World.Stray line.relay call) :
    let done := World.perform (World.bare ⟨line,b.rig⟩) call
    b.added command = done.rig.journal ∧ ∃ next, (b.perform command).1.Steady next ∧
      next.relay = line.relay ∧ World.bare ⟨next,(b.perform command).1.rig⟩ = done.bare := by
  intro done
  have behind : World.perform ⟨line,b.rig⟩ call =
      done.behind b.rig.journal line.state.ignored := by
    rw [← World.perform_behind (w := World.bare ⟨line,b.rig⟩) serious]
    exact congrArg (World.perform · call) (World.bare_behind ⟨line,b.rig⟩).symm
  obtain ⟨entries,follows⟩ := call_follows steady calls
  have performed := perform_call steady calls
  rw [behind] at performed follows
  refine ⟨?_,_,follows.steady,follows.relay,?_⟩
  · unfold added
    rw [performed]
    exact List.drop_left
  · rw [performed]
    exact World.behind_bare (w := done) b.rig.journal line.state.ignored

theorem turn_level (level : Level b b' line line') (plain : command.isPlain = true)
    (calls : b.call? command = none) :
    (b.perform command).2 = (b'.perform command).2 ∧
    World.bare ⟨line,(b.perform command).1.rig⟩ = World.bare ⟨line',(b'.perform command).1.rig⟩ := by
  have bare : World.bare ⟨line,command.turn b.rig⟩ = World.bare ⟨line',command.turn b'.rig⟩ := by
    have turns (rig : Rig) : { command.turn rig with journal := [] } =
        command.turn { rig with journal := [] } := by cases command <;> rfl
    have same := congrArg (fun w : World => World.mk w.line (command.turn w.rig)) level.bare
    simp only [World.bare,← turns] at same
    exact same
  have calls' := (level.calls command).symm.trans calls
  refine ⟨?_,?_⟩
  · cases command with
    | operate operation => exact level.answer operation
    | deviceConfig registry device =>
        have backend : b.rig.backend = b'.rig.backend :=
          congrArg (fun w : World => w.rig.backend) level.bare
        simp only [perform,deviceConfig,backend]
    | create | drop | hookConnect | hookSend | concurrently => cases plain
    | _ => rfl
  · rw [perform_turn level.steady plain calls,perform_turn level.steady' plain calls']
    exact bare

theorem level_perform (level : Level b b' line line') (plain : command.isPlain = true)
    (serious : line.relay.drops command = false) :
    b.outcome command = b'.outcome command ∧ ∃ next next',
      Level (b.perform command).1 (b'.perform command).1 next next' ∧ next.relay = line.relay := by
  have same : (b.perform command).2 = (b'.perform command).2 ∧
      b.added command = b'.added command ∧ ∃ next next',
        Level (b.perform command).1 (b'.perform command).1 next next' ∧ next.relay = line.relay := by
    cases calls : b.call? command with
    | some call =>
        have calls' := (level.calls command).symm.trans calls
        have goes := call_serious calls serious
        obtain ⟨added,next,steady,relay,bare⟩ := perform_bare level.steady calls goes
        obtain ⟨added',next',steady',_,bare'⟩ :=
          perform_bare level.steady' calls' (level.relay ▸ goes)
        rw [← level.bare] at added' bare'
        refine ⟨?_,added.trans added'.symm,next,next',⟨steady,steady',bare.trans bare'.symm⟩,relay⟩
        cases command with
        | operate operation => exact level.answer operation
        | _ => cases calls
    | none =>
        have calls' := (level.calls command).symm.trans calls
        have idle := switch_follows level.steady plain calls
        have idle' := switch_follows level.steady' plain calls'
        obtain ⟨answer,bare⟩ := turn_level level plain calls
        exact ⟨answer,idle.added.trans idle'.added.symm,line,line',
          ⟨idle.steady,idle'.steady,bare⟩,rfl⟩
  obtain ⟨answer,added,next,next',later,relay⟩ := same
  refine ⟨?_,next,next',later,relay⟩
  rw [outcome,outcome,answer,added,later.size]

theorem level_drop (level : Level b b' line line') (drops : line.relay.drops command = true) :
    (b.perform command).2 = .done ∧
    (∀ entry ∈ b.added command, entry.event?.isSome = true) ∧
    ∃ next, Level (b.perform command).1 b' next line' ∧ next.relay = line.relay := by
  obtain ⟨call,calls,stray⟩ := drops_call drops
  obtain ⟨events,ignored,performed⟩ := World.perform_stray (w := ⟨line,b.rig⟩) stray
  obtain ⟨entries,follows⟩ := call_follows level.steady calls
  have comes := perform_call level.steady calls
  rw [performed] at comes follows
  refine ⟨?_,?_,_,⟨follows.steady,level.steady',?_⟩,rfl⟩
  · unfold Relay.drops at drops
    split at drops
    · simp only [perform,operate,begin,level.steady.place]
    · cases drops
  · intro entry member
    unfold added at member
    rw [comes] at member
    simp only [settle,Rig.extend,List.drop_left,List.mem_map] at member
    obtain ⟨event,_,rfl⟩ := member
    rfl
  · rw [comes]
    exact level.bare

def Outcome.Mute (outcome : Outcome) : Prop :=
  outcome.answer = .done ∧ ∀ entry ∈ outcome.entries, entry.event?.isSome = true

def serious (relay : Relay) (commands : List Command) : List Command :=
  commands.filter fun command => !relay.drops command

theorem level_performs (level : Level b b' line line') (commands : List Command)
    (plain : ∀ command ∈ commands, command.isPlain = true) :
    b'.outcomes (serious line.relay commands) =
      (b.outcomes commands).filter (fun outcome => !line.relay.drops outcome.command) ∧
    (∀ outcome ∈ b.outcomes commands, line.relay.drops outcome.command = true → outcome.Mute) ∧
    ∃ next next', Level (b.performs commands) (b'.performs (serious line.relay commands)) next next' := by
  induction commands generalizing b b' line line' with
  | nil => exact ⟨rfl,nofun,line,line',level⟩
  | cons command rest ih =>
      have others := fun other member => plain other (List.mem_cons_of_mem command member)
      cases drops : line.relay.drops command with
      | true =>
          obtain ⟨done,notes,next,later,relay⟩ := level_drop level drops
          obtain ⟨same,mute,last⟩ := ih later others
          rw [relay] at same mute last
          simp only [serious,outcomes,List.filter_cons,outcome,drops,Bool.not_true,
            Bool.false_eq_true,↓reduceIte]
          refine ⟨same,?_,last⟩
          intro outcome member dropped
          rcases List.mem_cons.mp member with rfl | member
          · exact ⟨done,notes⟩
          · exact mute outcome member dropped
      | false =>
          obtain ⟨equal,next,next',later,relay⟩ :=
            level_perform level (plain command (List.mem_cons_self ..)) drops
          obtain ⟨same,mute,last⟩ := ih later others
          rw [relay] at same mute last
          have keeps : serious line.relay (command :: rest) = command :: serious line.relay rest := by
            simp only [serious,List.filter_cons,drops,Bool.not_false,↓reduceIte]
          have own : line.relay.drops (b.outcome command).command = false := drops
          rw [keeps,outcomes,outcomes,List.filter_cons,own,same,equal]
          refine ⟨rfl,?_,last⟩
          intro outcome member dropped
          rcases List.mem_cons.mp member with rfl | member
          · rw [← equal] at dropped
            exact absurd (own.symm.trans dropped) Bool.false_ne_true
          · exact mute outcome member dropped

theorem performs_journal (steady : b.Steady line) (commands : List Command)
    (plain : ∀ command ∈ commands, command.isPlain = true) :
    (b.performs commands).rig.journal =
      b.rig.journal ++ (b.outcomes commands).flatMap Outcome.entries := by
  induction commands generalizing b line with
  | nil => exact (List.append_nil _).symm
  | cons command rest ih =>
      obtain ⟨next,entries,follows⟩ :=
        perform_follows steady (plain command (List.mem_cons_self ..))
      have journal := ih follows.steady fun other member =>
        plain other (List.mem_cons_of_mem command member)
      rw [follows.journal,← follows.added,List.append_assoc] at journal
      exact journal

theorem dealings_serious {outcomes : List Outcome} {drops : Command → Bool}
    (mute : ∀ outcome ∈ outcomes, drops outcome.command = true → outcome.Mute) :
    (outcomes.flatMap Outcome.entries).filter (fun entry => entry.event?.isNone) =
      ((outcomes.filter fun outcome => !drops outcome.command).flatMap Outcome.entries).filter
        (fun entry => entry.event?.isNone) := by
  induction outcomes with
  | nil => rfl
  | cons outcome rest ih =>
      have others := ih fun other member => mute other (List.mem_cons_of_mem outcome member)
      rw [List.flatMap_cons,List.filter_append,others,List.filter_cons]
      cases dropped : drops outcome.command with
      | true =>
          have notes := (mute outcome (List.mem_cons_self ..) dropped).2
          have nothing : outcome.entries.filter (fun entry => entry.event?.isNone) = [] := by
            apply List.filter_eq_nil_iff.mpr
            intro entry member
            simp [Option.isSome_iff_ne_none.mp (notes entry member)]
          rw [nothing]
          rfl
      | false =>
          simp only [Bool.not_false,↓reduceIte]
          rw [List.flatMap_cons,List.filter_append]

-- Dropping messages that go nowhere leaves everything else as it is: what the other commands come
-- to, all dealings with the collaborators, and the state but for the devices that are ignored.
theorem strays_unseen (fresh : b.Fresh line) (commands : List Command)
    (plain : ∀ command ∈ commands, command.isPlain = true) :
    let all := b.performs commands
    let kept := b.performs (serious line.relay commands)
    b.outcomes (serious line.relay commands) =
      (b.outcomes commands).filter (fun outcome => !line.relay.drops outcome.command) ∧
    (∀ outcome ∈ b.outcomes commands, line.relay.drops outcome.command = true → outcome.Mute) ∧
    kept.rig.dealings = all.rig.dealings ∧
    (∀ publisher, kept.rig.messages publisher = all.rig.messages publisher ∧
      kept.rig.closeCount publisher = all.rig.closeCount publisher) ∧
    { kept.rig with journal := [] } = { all.rig with journal := [] } ∧
    ∃ last ignored, all.places = [.occupied last] ∧
      kept.places = [.occupied { last with state := { last.state with ignored } }] := by
  intro all kept
  have steady := fresh.steady
  obtain ⟨same,mute,last,last',level⟩ := level_performs ⟨steady,steady,rfl⟩ commands plain
  have plain' : ∀ command ∈ serious line.relay commands, command.isPlain = true :=
    fun command member => plain command (List.mem_of_mem_filter member)
  have dealings : kept.rig.dealings = all.rig.dealings := by
    unfold Rig.dealings
    rw [performs_journal steady _ plain',performs_journal steady commands plain,same,
      List.filter_append,List.filter_append,dealings_serious mute]
  refine ⟨same,mute,dealings,?_,?_,last,last'.state.ignored,level.steady.places,?_⟩
  · intro publisher
    rw [Rig.messages_dealings,Rig.messages_dealings,Rig.closeCount_dealings,Rig.closeCount_dealings,
      dealings]
    exact ⟨rfl,rfl⟩
  · exact (congrArg World.rig level.bare).symm
  · have line := congrArg (fun w : World =>
      { w.line with state := { w.line.state with ignored := last'.state.ignored } }) level.bare
    exact level.steady'.places.trans (congrArg (fun line => [Place.occupied line]) line.symm)

theorem strays_unseen_between :
    let commands : List Command := [.operate (.publish 0 "stranger" (some "state") "one"),
      .operate (.publish 0 "device" (some "state") "two"),.operate (.publish 0 "device" none "three")]
    let all := (desk false).performs commands
    let kept := (desk false).performs [.operate (.publish 0 "device" (some "state") "two")]
    (∀ command ∈ commands, command.isPlain = true) ∧ kept.rig.dealings = all.rig.dealings ∧
      all.rig.messages 0 = [("device","state","two")] := by
  intro commands all kept
  have plain : ∀ command ∈ commands, command.isPlain = true := by simp [commands,Command.isPlain]
  obtain ⟨_,_,dealings,told,_⟩ := strays_unseen (desk_fresh false) commands plain
  have kept_told : kept.rig.messages 0 = [("device","state","two")] := by
    have calls : (desk false).call? (.operate (.publish 0 "device" (some "state") "two")) =
        some (.publish "device" (some "state") "two") := rfl
    change (((desk false).perform _).1).rig.messages 0 = _
    rw [perform_call (desk_fresh false).steady calls]
    decide
  exact ⟨plain,dealings,(told 0).1.symm.trans kept_told⟩

end Bench
end RegistryRelay
