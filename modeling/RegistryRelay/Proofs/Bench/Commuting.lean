import RegistryRelay.Proofs.Bench.Dropping
import RegistryRelay.Proofs.Bench.Interchange
import RegistryRelay.Proofs.Text.Order

namespace RegistryRelay
open Line (World)

variable {σ : Equiv.Perm PublisherId}

def ListenerName.rename (σ : PublisherId → PublisherId) : ListenerName → ListenerName
  | .attempt number => .attempt (σ number)
  | .device id => .device id

def Operation.rename (σ : PublisherId → PublisherId) : Operation → Operation
  | .message name topic payload => .message (name.rename σ) topic payload
  | .error name fault => .error (name.rename σ) fault
  | operation => operation

def Command.rename (σ : PublisherId → PublisherId) : Command → Command
  | .operate operation => .operate (operation.rename σ)
  | .concurrently operations => .concurrently (operations.map (Operation.rename σ))
  | command => command

theorem Command.rename_plain {command : Command} (plain : command.isPlain = true) :
    (command.rename σ).isPlain = true := by
  cases command with
  | concurrently operations => cases plain
  | _ => exact plain

theorem Command.turn_rename (command : Command) :
    (command.rename σ).turn = command.turn := by
  cases command <;> rfl

namespace Bench

-- Two commands came to the same, but for the numbers, and but for the order in which publishers
-- were closed.
structure Outcome.Renamed (σ : Equiv.Perm PublisherId) (outcome outcome' : Outcome) : Prop where
  command : outcome'.command = outcome.command.rename σ
  answer : outcome'.answer = outcome.answer
  entries : Entry.Alike σ outcome.entries outcome'.entries
  size : outcome'.size = outcome.size

structure Renamed (σ : Equiv.Perm PublisherId) (b b' : Bench) (line line' : Line) : Prop where
  steady : b.Steady line
  steady' : b'.Steady line'
  world : World.Renamed σ ⟨line,b.rig⟩ ⟨line',b'.rig⟩
  matched : Entry.Matched σ b.rig.journal b'.rig.journal

structure Agrees (σ : Equiv.Perm PublisherId) (b b' : Bench) : Prop where
  status : b'.status 0 = b.status 0
  cached : ∃ line line', b.places = [.occupied line] ∧ b'.places = [.occupied line'] ∧
    line.state.ignored.Perm line'.state.ignored ∧
    ∀ key, line'.state.pool.serves? key = (line.state.pool.serves? key).map σ
  publishers : ∀ device,
    b'.rig.publishersFor device = (b.rig.publishersFor device).map (OpenPublisher.rename σ)
  heard : ∀ device, b'.rig.heard device = b.rig.heard device
  messages : ∀ publisher, b'.rig.messages (σ publisher) = b.rig.messages publisher
  closes : ∀ publisher, b'.rig.closeCount (σ publisher) = b.rig.closeCount publisher
  fetched : (b.rig.journal.filterMap Entry.fetched?).Perm
    (b'.rig.journal.filterMap Entry.fetched?)
  mirrored : (b.rig.journal.filterMap Entry.mirrored?).Perm
    (b'.rig.journal.filterMap Entry.mirrored?)

variable {b b' : Bench} {line line' : Line} {command : Command} {call : Call}

theorem Renamed.status (renamed : Renamed σ b b' line line') : b'.status 0 = b.status 0 := by
  rw [Bench.status,Bench.status,renamed.steady.place,renamed.steady'.place]
  simp only [renamed.world.pool.size,ascending_congr renamed.world.ignored.symm]

theorem Renamed.agrees (renamed : Renamed σ b b' line line') : Agrees σ b b' := by
  have messages (publisher : PublisherId) :
      b'.rig.messages (σ publisher) = b.rig.messages publisher := renamed.matched.messages publisher
  refine ⟨renamed.status,⟨line,line',renamed.steady.places,renamed.steady'.places,
    renamed.world.ignored,renamed.world.pool.serves⟩,renamed.world.rig.publishers,fun device => ?_,
    messages,renamed.matched.closes,renamed.matched.seen _ fun entry => ?_,
    renamed.matched.seen _ fun entry => ?_⟩
  · rw [Rig.heard,renamed.world.rig.publishers,List.flatMap_map]
    exact List.flatMap_congr fun p _ => messages p.publisher
  · cases entry <;> rfl
  · cases entry <;> rfl

theorem Renamed.listener (renamed : Renamed σ b b' line line') (name : ListenerName) :
    b'.listener? (name.rename σ) = b.listener? name := by
  cases name with
  | attempt number => exact renamed.world.rig.attempts number
  | device id =>
      have latest := renamed.world.rig.latest id
      simp only [ListenerName.rename,listener?,latest]
      cases b.rig.latest.get? id with
      | none => rfl
      | some number => exact renamed.world.rig.attempts number

theorem Renamed.calls (renamed : Renamed σ b b' line line') (command : Command) :
    b'.call? (command.rename σ) = b.call? command := by
  cases command with
  | operate operation =>
      cases operation with
      | message name | error name =>
          simp only [Command.rename,Operation.rename,call?,renamed.listener]
      | publish target | terminate target => cases target <;> rfl
  | _ => rfl

theorem Renamed.answer (renamed : Renamed σ b b' line line') (operation : Operation) :
    (b'.operate (operation.rename σ)).2 = (b.operate operation).2 := by
  cases operation with
  | publish target | terminate target =>
      cases target with
      | zero =>
          simp only [Operation.rename,operate,begin,renamed.steady.place,renamed.steady'.place]
      | succ n =>
          simp only [Operation.rename,operate,begin,renamed.steady.vacant,renamed.steady'.vacant]
  | message name | error name =>
      have same := renamed.listener name
      cases listens : b.listener? name with
      | none => simp only [Operation.rename,operate,begin,same,listens]
      | some found =>
          simp only [Operation.rename,operate,begin,same,listens,renamed.steady.own listens,
            renamed.steady.place,renamed.steady'.place]

theorem Renamed.turn (renamed : Renamed σ b b' line line') (plain : command.isPlain = true)
    (calls : b.call? command = none) :
    (b'.perform (command.rename σ)).2 = (b.perform command).2 ∧
    World.Renamed σ ⟨line,(b.perform command).1.rig⟩
      ⟨line',(b'.perform (command.rename σ)).1.rig⟩ := by
  have turned := renamed.world.rig.turn command.turn fun _ _ _ _ _ => by cases command <;> rfl
  have plain' : (command.rename σ).isPlain = true := Command.rename_plain plain
  have calls' := (renamed.calls command).trans calls
  refine ⟨?_,?_⟩
  · cases command with
    | operate operation => exact renamed.answer operation
    | deviceConfig registry device =>
        have backend : b'.rig.backend = b.rig.backend :=
          renamed.world.rig.kin.field Rig.backend fun _ _ _ _ _ => rfl
        simp only [Command.rename,perform,deviceConfig,backend]
    | create | drop | hookConnect | hookSend | concurrently => cases plain
    | _ => rfl
  · rw [perform_turn renamed.steady plain calls,perform_turn renamed.steady' plain' calls',
      Command.turn_rename]
    exact { renamed.world with rig := turned }

theorem added_of {entries : List Entry}
    (grown : (b.perform command).1.rig.journal = b.rig.journal ++ entries) :
    b.added command = entries := by
  rw [added,grown,List.drop_left]

theorem perform_renamed (renamed : Renamed σ b b' line line') (plain : command.isPlain = true) :
    Outcome.Renamed σ (b.outcome command) (b'.outcome (command.rename σ)) ∧ ∃ next next',
      Renamed σ (b.perform command).1 (b'.perform (command.rename σ)).1 next next' := by
  cases calls : b.call? command with
  | some call =>
      have calls' := (renamed.calls command).trans calls
      have along := renamed.world.start.perform call
      obtain ⟨entries,entries',grown,grown',alike⟩ := along.added
      have here := perform_call renamed.steady calls
      have there := perform_call renamed.steady' calls'
      have later : Renamed σ (b.perform command).1 (b'.perform (command.rename σ)).1
          (World.perform ⟨line,b.rig⟩ call).line (World.perform ⟨line',b'.rig⟩ call).line := by
        rw [here,there]
        refine ⟨settle_steady renamed.steady call,settle_steady renamed.steady' call,
          along.toRenamed,?_⟩
        simp only [settle,grown,grown']
        exact renamed.matched.append alike.matched
      have answer : (b'.perform (command.rename σ)).2 = (b.perform command).2 := by
        cases command with
        | operate operation => exact renamed.answer operation
        | _ => cases calls
      have added : b.added command = entries := added_of (by rw [here]; exact grown)
      have added' : b'.added (command.rename σ) = entries' :=
        added_of (by rw [there]; exact grown')
      refine ⟨⟨rfl,answer,?_,congrArg (Option.map Prod.fst) later.status⟩,_,_,later⟩
      rw [outcome,outcome,added,added']
      exact alike
  | none =>
      have calls' := (renamed.calls command).trans calls
      have idle := switch_follows renamed.steady plain calls
      have idle' := switch_follows renamed.steady' (Command.rename_plain plain) calls'
      obtain ⟨answer,world⟩ := renamed.turn plain calls
      have later : Renamed σ (b.perform command).1 (b'.perform (command.rename σ)).1 line line' := by
        refine ⟨idle.steady,idle'.steady,world,?_⟩
        rw [idle.journal,idle'.journal]
        exact renamed.matched.append Entry.alike_nil.matched
      refine ⟨⟨rfl,answer,?_,congrArg (Option.map Prod.fst) later.status⟩,_,_,later⟩
      rw [outcome,outcome,idle.added,idle'.added]
      exact Entry.alike_nil

theorem performs_renamed (renamed : Renamed σ b b' line line') (commands : List Command)
    (plain : ∀ command ∈ commands, command.isPlain = true) :
    List.Forall₂ (Outcome.Renamed σ) (b.outcomes commands)
      (b'.outcomes (commands.map (Command.rename σ))) ∧ ∃ next next',
      Renamed σ (b.performs commands) (b'.performs (commands.map (Command.rename σ))) next next' := by
  induction commands generalizing b b' line line' with
  | nil => exact ⟨.nil,line,line',renamed⟩
  | cons command rest ih =>
      obtain ⟨same,next,next',later⟩ := perform_renamed renamed (plain command (.head _))
      obtain ⟨others,last⟩ := ih later fun other member => plain other (.tail _ member)
      exact ⟨.cons same others,last⟩

theorem Fresh.renamed (fresh : b.Fresh line) (unfiled : ∀ name, b.rig.latest.get? name = none) :
    Renamed (Equiv.refl _) b b line line := by
  have ready := fresh.steady.ready
  have nobody (device : String) : b.rig.publishersFor device = [] := by
    rw [Rig.publishersFor,fresh.unused.publishers]
    rfl
  refine ⟨fresh.steady,fresh.steady,⟨rfl,rfl,rfl,.refl _,?_,?_⟩,ready.matched fun _ _ => rfl⟩
  · refine ⟨ready.orderly,ready.orderly,ready.idle,ready.idle,fun key => ?_⟩
    rw [fresh.state]
    rfl
  · refine ⟨rfl,rfl,fun _ _ => rfl,fun _ => rfl,fun name n found => ?_,fun name => ?_,
      fun device => ?_⟩
    · cases (unfiled name).symm.trans found
    · rw [unfiled]
      rfl
    · rw [nobody]
      rfl

def post (device : String) (subFolder : Option String) (data : String) : Command :=
  .operate (.publish 0 device subFolder data)

section
variable {device other data data' : String} {subFolder subFolder' : Option String}

theorem perform_post (steady : b.Steady line) : (b.perform (post device subFolder data)).1 =
    b.settle (World.perform ⟨line,b.rig⟩ (.publish device subFolder data)) :=
  perform_call steady rfl

theorem perform_posts (steady : b.Steady line) :
    ((b.perform (post device subFolder data)).1.perform (post other subFolder' data')).1 =
      b.settle ((World.perform ⟨line,b.rig⟩ (.publish device subFolder data)).perform
        (.publish other subFolder' data')) := by
  rw [perform_post steady]
  exact perform_post (settle_steady steady _)

theorem posts_renamed (steady : b.Steady line)
    (swaps : World.Interchange σ ⟨line,b.rig⟩ (.publish device subFolder data)
      (.publish other subFolder' data')) :
    let one := post device subFolder data
    let two := post other subFolder' data'
    (b.perform two).1.added one = (b.added one).map (Entry.rename σ) ∧
    b.added two = ((b.perform one).1.added two).map (Entry.rename σ) ∧
    ∃ next next', Renamed σ (b.performs [one,two]) (b.performs [two,one]) next next' := by
  intro one two
  obtain ⟨entries,more,first,later,first',later'⟩ := swaps.adds
  let w : World := ⟨line,b.rig⟩
  let here := (w.perform (.publish device subFolder data)).perform (.publish other subFolder' data')
  let there := (w.perform (.publish other subFolder' data')).perform (.publish device subFolder data)
  have reached : ((b.perform one).1.perform two).1 = b.settle here := perform_posts steady
  have reached' : ((b.perform two).1.perform one).1 = b.settle there := perform_posts steady
  have addsOne : b.added one = entries :=
    added_of (by rw [perform_post steady]; exact first)
  have addsTwo : (b.perform one).1.added two = more :=
    added_of (by rw [reached,perform_post steady]; exact later)
  have addsTwo' : b.added two = more.map (Entry.rename σ) :=
    added_of (by rw [perform_post steady]; exact first')
  have addsOne' : (b.perform two).1.added one = entries.map (Entry.rename σ) :=
    added_of (by rw [reached',perform_post steady]; exact later')
  have steadyHere : (b.settle here).Steady here.line := settle_steady (settle_steady steady _) _
  have steadyThere : (b.settle there).Steady there.line := settle_steady (settle_steady steady _) _
  have renamed : Renamed σ ((b.perform one).1.perform two).1 ((b.perform two).1.perform one).1
      here.line there.line := by
    rw [reached,reached']
    exact ⟨steadyHere,steadyThere,swaps.renamed,swaps.matched⟩
  exact ⟨by rw [addsOne',addsOne],by rw [addsTwo',addsTwo],here.line,there.line,renamed⟩

end

-- Messages of two devices come to the same in either order, and so does everything after them,
-- but for the numbers of the publishers that they opened. No publisher that is in the pool then is
-- going to reject anything, so neither message can have the publisher of the other closed.
theorem publishes_commute (fresh : b.Fresh line) (unfiled : ∀ name, b.rig.latest.get? name = none)
    (before : List Command) (plain : ∀ command ∈ before, command.isPlain = true)
    (off : (b.performs before).rig.rejectSends = false) {device other : String}
    (differs : device ≠ other) (subFolder subFolder' : Option String) (data data' : String) :
    let now := b.performs before
    let one := post device subFolder data
    let two := post other subFolder' data'
    ∃ σ : Equiv.Perm PublisherId, (∀ n, n < now.rig.attempts.length → σ n = n) ∧
      (now.perform two).1.added one = (now.added one).map (Entry.rename σ) ∧
      now.added two = ((now.perform one).1.added two).map (Entry.rename σ) ∧
      ∀ commands : List Command, (∀ command ∈ commands, command.isPlain = true) →
        List.Forall₂ (Outcome.Renamed σ) ((now.performs [one,two]).outcomes commands)
          ((now.performs [two,one]).outcomes (commands.map (Command.rename σ))) ∧
        Agrees σ ((now.performs [one,two]).performs commands)
          ((now.performs [two,one]).performs (commands.map (Command.rename σ))) := by
  intro now one two
  obtain ⟨_,line,_,same⟩ := performs_renamed (fresh.renamed unfiled) before plain
  have steady : now.Steady line := same.steady
  have told := sequential_told (performs_sequential (.fresh fresh) before plain)
  obtain ⟨σ,swaps⟩ := World.interchange steady.ready told off same.world.rig.filed differs data data'
    subFolder subFolder'
  obtain ⟨adds,adds',_,_,renamed⟩ := posts_renamed steady swaps
  refine ⟨σ,swaps.below,adds,adds',fun commands further => ?_⟩
  obtain ⟨outcomes,_,_,last⟩ := performs_renamed renamed commands further
  exact ⟨outcomes,last.agrees⟩

theorem publishes_commute_opening :
    let one := post "one" (some "state") "first"
    let two := post "two" (some "state") "second"
    (pairDesk.performs [one,two]).rig.messages 1 = [("two","state","second")] ∧
    ∃ σ : Equiv.Perm PublisherId,
      (pairDesk.performs [two,one]).rig.messages (σ 1) = [("two","state","second")] ∧
      ∀ device, (pairDesk.performs [two,one]).rig.heard device =
        (pairDesk.performs [one,two]).rig.heard device := by
  intro one two
  have told : (pairDesk.performs [one,two]).rig.messages 1 = [("two","state","second")] := by
    have reached : pairDesk.performs [one,two] = _ := performs_posts pairDesk_fresh.steady
      [⟨"one","state","first"⟩,⟨"two","state","second"⟩]
    rw [reached]
    decide
  obtain ⟨σ,_,_,_,further⟩ := publishes_commute pairDesk_fresh (fun _ => rfl) []
    (List.forall_mem_nil _) rfl (show "one" ≠ "two" by decide) (some "state") (some "state")
    "first" "second"
  have agrees := (further [] (List.forall_mem_nil _)).2
  exact ⟨told,σ,(agrees.messages 1).trans told,agrees.heard⟩

end Bench
end RegistryRelay
