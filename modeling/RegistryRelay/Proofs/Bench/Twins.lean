import RegistryRelay.Proofs.Bench.Acts
import RegistryRelay.Proofs.Bench.Reordering
import RegistryRelay.Proofs.Relay.Twins

namespace RegistryRelay

variable {Paired : String → String → Prop}

inductive Entry.Twin (Paired : String → String → Prop) : Entry → Entry → Prop where
  | note : Entry.Twin Paired (.note event) (.note event)
  | bound : Entry.Twin Paired (.bound binding) (.bound binding)
  | listed : Entry.Twin Paired .listed .listed
  | fetched : Entry.Twin Paired (.fetched device scripted) (.fetched device scripted)
  | updated (payload : Paired data data') :
      Entry.Twin Paired (.updated device data scripted) (.updated device data' scripted)
  | attempted : Entry.Twin Paired (.attempted publisher) (.attempted publisher)
  | opened (bound : PublisherBinding.Twin binding binding') :
      Entry.Twin Paired (.opened publisher binding) (.opened publisher binding')
  | published (payload : Paired data data') :
      Entry.Twin Paired (.published publisher device topic data)
        (.published publisher device topic data')
  | closed : Entry.Twin Paired (.closed publisher) (.closed publisher)
  | mirrored (bundle : Bundle.Twin Paired copy copy') :
      Entry.Twin Paired (.mirrored copy) (.mirrored copy')

def Entry.Matches (Paired : String → String → Prop) : List Entry → List Entry → Prop :=
  Reordered Line.World.closing (Entry.Twin Paired)

def Act.Matches (Paired : String → String → Prop) : List Act → List Act → Prop :=
  Reordered Line.World.shutting (Act.Twin Paired)

inductive Logged.Twin (Paired : String → String → Prop) : Logged → Logged → Prop where
  | same : Logged.Twin Paired line line
  | mirroring (bundle : Bundle.Twin Paired copy copy') :
      Logged.Twin Paired (.mirroring copy) (.mirroring copy')

def Keyed (devices : Dict (Dict String)) : Prop := ∀ device metadata,
  devices.get? device = some metadata → ∃ key, Device.keyMaterial ⟨device,metadata⟩ = .ok key

def Backend.Twin (backend backend' : Backend) : Prop := ∃ devices devices' rejects,
  backend = .recording devices rejects ∧ backend' = .recording devices' rejects ∧
    devices.names = devices'.names ∧ Keyed devices ∧ Keyed devices'

inductive OpenPublisher.Twin : OpenPublisher → OpenPublisher → Prop where
  | mk (bound : PublisherBinding.Twin p.binding other) :
      OpenPublisher.Twin p { p with binding := other }

namespace Rig

-- What the collaborators have in common on both sides: everything but what they know of the
-- devices, the publishers they opened, and what they saw.
def outline (rig : Rig) : Rig :=
  { rig with backend := .recording {} false, publishers := [], journal := [] }

structure Alike (rig rig' : Rig) : Prop where
  backend : Backend.Twin rig.backend rig'.backend
  publishers : List.Forall₂ OpenPublisher.Twin rig.publishers rig'.publishers
  outlines : rig.outline = rig'.outline
  connects : rig.connectHooks = []
  sends : rig.sendHooks = []

-- The same, with what they saw since both sides were looked at last.
structure Twin (Paired : String → String → Prop) (past past' : List Entry) (rig rig' : Rig) : Prop
    extends Alike rig rig' where
  journal : ∃ added added', rig.journal = past ++ added ∧ rig'.journal = past' ++ added' ∧
    Entry.Matches Paired added added'

variable {past past' : List Entry} {rig rig' : Rig}

theorem updateDevice_recording {devices : Dict (Dict String)} {rejects : Bool}
    (backend : rig.backend = .recording devices rejects) (handle : Nat) (device payload : String) :
    rig.updateDevice handle device payload =
      match rig.script.update.get? device with
      | some fault => (some fault,rig.record (.updated device payload true))
      | none =>
          (if rejects then some (.directory "config update rejected") else none,
            rig.record (.updated device payload false)) := by
  cases rig
  cases backend
  rfl

theorem rejects_twin {publishers publishers' : List OpenPublisher}
    (same : List.Forall₂ OpenPublisher.Twin publishers publishers') (publisher : PublisherId) :
    (publishers.any fun p => p.publisher == publisher && p.rejects) =
      publishers'.any fun p => p.publisher == publisher && p.rejects := by
  induction same with
  | nil => rfl
  | cons first _ ih =>
      obtain ⟨_⟩ := first
      rw [List.any_cons,List.any_cons,ih]

theorem Alike.field (alike : Alike rig rig') (read : Rig → α)
    (outlined : ∀ rig : Rig, read rig.outline = read rig) : read rig = read rig' := by
  rw [← outlined rig,alike.outlines,outlined]

theorem Alike.start (alike : Alike rig rig') :
    Twin Paired rig.journal rig'.journal rig rig' :=
  { alike with journal := ⟨[],[],(List.append_nil _).symm,(List.append_nil _).symm,.nil⟩ }

section
variable (twin : Twin Paired past past' rig rig')
include twin

theorem Twin.extend {entries entries' : List Entry} (seen : Entry.Matches Paired entries entries') :
    Twin Paired past past' (rig.extend entries) (rig'.extend entries') := by
  obtain ⟨added,added',here,there,pairs⟩ := twin.journal
  refine { twin with journal := ⟨added ++ entries,added' ++ entries',?_,?_,pairs.append seen⟩ }
  · rw [Rig.extend,here,List.append_assoc]
  · rw [Rig.extend,there,List.append_assoc]

theorem Twin.record {entry entry' : Entry} (seen : Entry.Twin Paired entry entry') :
    Twin Paired past past' (rig.record entry) (rig'.record entry') :=
  twin.extend (.cons seen .nil)

theorem Twin.traces {act act' : Act} (same : Act.Twin Paired act act') :
    List.Forall₂ (Entry.Twin Paired) (rig.traces act) (rig'.traces act') := by
  cases same with
  | note => exact .cons .note .nil
  | ask request => exact .nil
  | opened bound => exact .cons (.opened bound) .nil
  | close => exact .cons .closed .nil
  | mirror bundle =>
      have sink : rig.sink = rig'.sink := twin.field Rig.sink fun _ => rfl
      have shut : rig.sinkClosed = rig'.sinkClosed := twin.field Rig.sinkClosed fun _ => rfl
      simp only [Rig.traces,Rig.receipt,← sink,← shut]
      split
      · exact .cons .note .nil
      · exact .cons (.mirrored bundle) .nil

theorem Twin.logs {entry entry' : Entry} (same : Entry.Twin Paired entry entry') :
    List.Forall₂ (Logged.Twin Paired) (rig.logs entry) (rig'.logs entry') := by
  cases same with
  | note => exact .cons .same .nil
  | @fetched device scripted =>
      obtain ⟨devices,devices',rejects,here,there,_⟩ := twin.backend
      cases scripted with
      | true => exact .nil
      | false =>
          simp only [Rig.logs,here,there]
          exact .cons .same .nil
  | opened bound =>
      obtain ⟨⟩ := bound
      exact .cons .same .nil
  | published payload => exact .cons .same .nil
  | mirrored bundle =>
      have sink : rig.sink = rig'.sink := twin.field Rig.sink fun _ => rfl
      simp only [Rig.logs,← sink]
      split
      · exact .cons (.mirroring bundle) .nil
      · exact .nil
  | _ => exact .nil

theorem Twin.performAll {acts acts' : List Act} (same : Act.Matches Paired acts acts') :
    Twin Paired past past' (rig.performAll acts) (rig'.performAll acts') := by
  rw [performAll_extends,performAll_extends]
  exact twin.extend (same.flatMap (fun _ _ => twin.traces) (fun _ => rfl) fun _ => rfl)

theorem Twin.connectDirectory (binding : DirectoryBinding) :
    (rig.connectDirectory binding).1 = (rig'.connectDirectory binding).1 ∧
    Twin Paired past past' (rig.connectDirectory binding).2 (rig'.connectDirectory binding).2 := by
  have script : rig.script = rig'.script := twin.field Rig.script fun _ => rfl
  obtain ⟨devices,devices',rejects,here,there,_⟩ := twin.backend
  simp only [Rig.connectDirectory,here,there,← script]
  split
  · exact ⟨rfl,twin⟩
  · exact ⟨rfl,twin.record .bound⟩

theorem Twin.listDevices (handle : Nat) :
    (rig.listDevices handle).1 = (rig'.listDevices handle).1 ∧
    Twin Paired past past' (rig.listDevices handle).2 (rig'.listDevices handle).2 := by
  have script : rig.script = rig'.script := twin.field Rig.script fun _ => rfl
  obtain ⟨devices,devices',rejects,here,there,names,_⟩ := twin.backend
  simp only [Rig.listDevices,here,there,← script,names]
  split
  · exact ⟨rfl,twin⟩
  · exact ⟨rfl,twin⟩
  · exact ⟨rfl,twin.record .listed⟩

theorem Twin.fetchDevice (handle : Nat) (device : String) :
    Reply.Twin (.fetched (rig.fetchDevice handle device).1)
      (.fetched (rig'.fetchDevice handle device).1) ∧
    Twin Paired past past' (rig.fetchDevice handle device).2 (rig'.fetchDevice handle device).2 := by
  have script : rig.script = rig'.script := twin.field Rig.script fun _ => rfl
  obtain ⟨devices,devices',rejects,here,there,names,keys,keys'⟩ := twin.backend
  have both : (devices.get? device).isSome = (devices'.get? device).isSome := by
    rw [Bool.eq_iff_iff,Dict.get?_isSome_iff,Dict.get?_isSome_iff,names]
  simp only [Rig.fetchDevice,here,there,← script]
  split
  · exact ⟨.notFetched,twin.record .fetched⟩
  · refine ⟨?_,twin.record .fetched⟩
    cases found : devices.get? device with
    | none =>
        rw [found] at both
        rw [Option.isSome_eq_false_iff.mp both.symm |> Option.isNone_iff_eq_none.mp]
        exact .notFetched
    | some metadata =>
        rw [found] at both
        obtain ⟨metadata',found'⟩ := Option.isSome_iff_exists.mp both.symm
        obtain ⟨key,material⟩ := keys device metadata found
        obtain ⟨key',material'⟩ := keys' device metadata' found'
        rw [found']
        exact .fetched material material'

theorem Twin.updateDevice (handle : Nat) (device : String) {data data' : String}
    (payload : Paired data data') :
    (rig.updateDevice handle device data).1 = (rig'.updateDevice handle device data').1 ∧
    Twin Paired past past' (rig.updateDevice handle device data).2
      (rig'.updateDevice handle device data').2 := by
  have script : rig.script = rig'.script := twin.field Rig.script fun _ => rfl
  obtain ⟨devices,devices',rejects,here,there,_⟩ := twin.backend
  rw [updateDevice_recording here,updateDevice_recording there,← script]
  split
  · exact ⟨rfl,twin.record (.updated payload)⟩
  · exact ⟨rfl,twin.record (.updated payload)⟩

theorem Twin.beginAttempt (relay : Nat) (device : String) :
    Twin Paired past past' (rig.beginAttempt relay device).2.2
      (rig'.beginAttempt relay device).2.2 :=
  { twin with
    outlines := congrArg (fun rig : Rig => (rig.beginAttempt relay device).2.2) twin.outlines
    connects := congrArg List.tail twin.connects }

theorem Twin.openPublisher (publisher : PublisherId) {bound bound' : PublisherBinding}
    (same : PublisherBinding.Twin bound bound') :
    (rig.openPublisher publisher bound).1 = (rig'.openPublisher publisher bound').1 ∧
    Twin Paired past past' (rig.openPublisher publisher bound).2
      (rig'.openPublisher publisher bound').2 := by
  have closed : rig.rejectConnects = rig'.rejectConnects := twin.field Rig.rejectConnects fun _ => rfl
  have rejects : rig.rejectSends = rig'.rejectSends := twin.field Rig.rejectSends fun _ => rfl
  have device : bound.device = bound'.device := by
    obtain ⟨⟩ := same
    rfl
  have there : rig'.openPublisher publisher bound' =
      if rig.rejectConnects then (.error (.transport "connect rejected"),rig')
      else
        (.ok publisher,
          { rig' with
            latest := rig'.latest.put bound.device publisher
            publishers := rig'.publishers ++ [⟨publisher,bound',rig.rejectSends⟩] }) := by
    rw [closed,rejects,device]
    rfl
  rw [there,Rig.openPublisher]
  split
  · exact ⟨rfl,twin⟩
  · exact ⟨rfl,{ twin with
      publishers := List.rel_append twin.publishers (.cons ⟨same⟩ .nil)
      outlines := congrArg
        (fun rig : Rig => { rig with latest := rig.latest.put bound.device publisher })
        twin.outlines }⟩

theorem Twin.send (publisher : PublisherId) (device topic : String) {data data' : String}
    (payload : Paired data data') :
    (rig.send publisher device topic data).1 = (rig'.send publisher device topic data').1 ∧
    Twin Paired past past' (rig.send publisher device topic data).2
      (rig'.send publisher device topic data').2 := by
  unfold Rig.send
  rw [← rejects_twin twin.publishers]
  exact ⟨rfl,twin.record (.published payload)⟩

end
end Rig

def Line.outline (line : Line) : Line := { line with relay := line.relay.outline }

namespace Line.World

structure Twin (Paired : String → String → Prop) (past past' : List Entry) (w w' : World) : Prop
    where
  line : w.line.outline = w'.line.outline
  rig : Rig.Twin Paired past past' w.rig w'.rig

inductive Answered (Paired : String → String → Prop) (past past' : List Entry) :
    World × Answer → World × Answer → Prop where
  | now (world : Twin Paired past past' w w') (reply : Option.Rel Reply.Twin said said') :
      Answered Paired past past' (w,.now said) (w',.now said')
  | later (world : Twin Paired past past' w w') :
      Answered Paired past past' (w,.later publisher) (w',.later publisher)

end Line.World

inductive Pace.Twin (Paired : String → String → Prop) : Pace → Pace → Prop where
  | ended : Pace.Twin Paired .ended .ended
  | waits (calls : Call.Twin Paired call call') : Pace.Twin Paired (.waits call) (.waits call')
  | sleeps (calls : Call.Twin Paired call call') :
      Pace.Twin Paired (.sleeps call publisher) (.sleeps call' publisher)

namespace Line.World

variable {past past' : List Entry} {w w' middle : World} {call call' : Call}
  {reply : Option Reply}

section
variable (twin : Twin Paired past past' w w')
include twin

theorem Twin.attempts : w.rig.attempts.length = w'.rig.attempts.length :=
  congrArg List.length (twin.rig.field Rig.attempts fun _ => rfl)

theorem Twin.number : w.line.number = w'.line.number := (congrArg Line.number twin.line :)

theorem Twin.handle : w.line.handle = w'.line.handle := (congrArg Line.handle twin.line :)

theorem Twin.state : w.line.state = w'.line.state := (congrArg Line.state twin.line :)

theorem Twin.outlines : w.line.relay.outline = w'.line.relay.outline :=
  congrArg Line.relay twin.line

theorem Twin.registry : w.line.relay.registry = w'.line.relay.registry :=
  (congrArg Relay.registry twin.outlines :)

theorem Twin.after {step step' : Relay.Step} (steps : Relay.Step.Twin Paired step step') :
    Twin Paired past past' (w.after step) (w'.after step') := by
  refine ⟨?_,twin.rig.performAll (.of_forall₂ steps.done)⟩
  rw [World.after,World.after,← steps.state]
  exact congrArg (fun line : Line => { line with state := step.1 }) twin.line

theorem Twin.attempt (device : String) :
    Twin Paired past past' (w.attempt device) (w'.attempt device) := by
  refine ⟨twin.line,?_⟩
  rw [World.attempt,World.attempt,← twin.attempts,← twin.number]
  exact (twin.rig.beginAttempt _ device).record .attempted

theorem Twin.connect (device : String) {bound bound' : PublisherBinding}
    (same : PublisherBinding.Twin bound bound') :
    (w.connect device bound).1 = (w'.connect device bound').1 ∧
    Twin Paired past past' (w.connect device bound).2 (w'.connect device bound').2 := by
  obtain ⟨result,rig⟩ := (twin.attempt device).rig.openPublisher w.rig.attempts.length same
  rw [World.connect,World.connect,← twin.attempts]
  exact ⟨result,twin.line,rig⟩

theorem Twin.respond (calls : Call.Twin Paired call call') :
    Answered Paired past past' (w.respond call) (w'.respond call') := by
  cases calls with
  | fetching message =>
      obtain ⟨_⟩ := message
      obtain ⟨found,rig⟩ := twin.rig.fetchDevice w.line.handle _
      rw [World.respond,World.respond,← twin.handle]
      exact .now ⟨twin.line,rig⟩ (.some found)
  | @connecting m _ _ _ _ message bound =>
      obtain ⟨_⟩ := message
      obtain ⟨result,connected⟩ := twin.connect m.device bound
      have idle : w'.rig.connectHooks = [] :=
        (twin.rig.field Rig.connectHooks fun _ => rfl).symm.trans twin.rig.connects
      have delayed : (w.attempt m.device).rig.delayed = (w'.attempt m.device).rig.delayed :=
        (twin.attempt _).rig.field Rig.delayed fun _ => rfl
      rw [respond_connecting twin.rig.connects,respond_connecting idle,← delayed,← twin.attempts,
        ← result]
      split
      · exact .later (twin.attempt _)
      · exact .now connected (.some .connected)
  | sending message =>
      obtain ⟨payload⟩ := message
      obtain ⟨fault,rig⟩ := twin.rig.send _ _ _ payload
      have idle : w'.rig.sendHooks = [] :=
        (twin.rig.field Rig.sendHooks fun _ => rfl).symm.trans twin.rig.sends
      simp only [World.respond,Rig.beginSend_idle twin.rig.sends,Rig.beginSend_idle idle,interrupt]
      exact .now ⟨twin.line,rig⟩ (fault ▸ .some .sent)
  | updating payload =>
      obtain ⟨fault,rig⟩ := twin.rig.updateDevice w.line.handle _ payload
      rw [World.respond,World.respond,← twin.handle]
      exact .now ⟨twin.line,rig⟩ (fault ▸ .some .updated)
  | _ => exact .now twin .none

theorem Twin.answered (calls : Call.Twin Paired call call')
    (undrained : ∀ after, call ≠ .terminate .starting after)
    (responds : w.respond call = (middle,.now reply)) : ∃ middle' reply',
      w'.respond call' = (middle',.now reply') ∧ Twin Paired past past' middle middle' ∧
      Option.Rel (Relay.Step.Twin Paired) (middle.line.relay.step middle.line.state reply call)
        (middle'.line.relay.step middle'.line.state reply' call') := by
  have said := twin.respond calls
  generalize there : w'.respond call' = answered at said
  rw [responds] at said
  cases said with
  | now world replies =>
      refine ⟨_,_,rfl,world,?_⟩
      rw [← world.state]
      exact Relay.step_twin world.outlines middle.line.state calls replies undrained

theorem Twin.closings (pool : Pool) :
    Act.Matches Paired (closings pool w.drained) (closings pool w'.drained) := by
  have same : w.line.state.pool.cached = w'.line.state.pool.cached := by rw [twin.state]
  have perm : w.drained.Perm w'.drained :=
    (same ▸ w.drained_perm).trans w'.drained_perm.symm
  rw [closings_shutting,closings_shutting]
  have shut : Act.Matches Paired _ _ := .blocks
    (perm.filterMap fun entry => (pool.held? entry.2).map (Prod.mk entry.1)) .nil
  rwa [List.append_nil,List.append_nil] at shut

end

structure Ran (Paired : String → String → Prop) (past past' : List Entry) (ran ran' : World × Pace)
    (acts acts' : List Act) : Prop where
  world : Twin Paired past past' ran.1 ran'.1
  pace : Pace.Twin Paired ran.2 ran'.2
  acts : Act.Matches Paired acts acts'

theorem Twin.torn (twin : Twin Paired past past' w w') {after after' : Option Message}
    (messages : Option.Rel (Message.Twin Paired) after after') :
    Ran Paired past past' (w.run (.terminate .starting after))
      (w'.run (.terminate .starting after')) (w.acts (.terminate .starting after))
      (w'.acts (.terminate .starting after')) := by
  have rest : List.Forall₂ (Act.Twin Paired) (afterActs w.line.relay after)
      (afterActs w'.line.relay after') := by
    cases messages with
    | none => exact .nil
    | some message =>
        obtain ⟨payload⟩ := message
        rw [afterActs,afterActs,← twin.registry]
        exact .cons .note (.cons (.mirror ⟨payload⟩) .nil)
  have acts : Act.Matches Paired (w.acts (.terminate .starting after))
      (w'.acts (.terminate .starting after')) := by
    rw [acts_emptied,acts_emptied,← twin.registry,← twin.state]
    exact (twin.closings _).append (.cons .note (.of_forall₂ rest))
  rw [run_torn,run_torn]
  refine ⟨⟨?_,twin.rig.performAll acts⟩,.ended,acts⟩
  exact congrArg (fun line : Line => { line with
    state := { line.state with pool := { line.state.pool with cached := [] } } }) twin.line

theorem Twin.run (twin : Twin Paired past past' w w') (calls : Call.Twin Paired call call') :
    Ran Paired past past' (w.run call) (w'.run call') (w.acts call) (w'.acts call') := by
  -- One side runs, and whichever way it goes on, the other side is made to go on that way too.
  -- Only teardowns do not go step by step: their slots come in an order of their own on each side.
  induction w,call using run_cases generalizing w' call' with
  | later w call middle publisher responds =>
      have said := twin.respond calls
      generalize there : w'.respond call' = answered at said
      rw [responds] at said
      cases said with
      | later world =>
          obtain ⟨ran,acts⟩ := run_later responds
          obtain ⟨ran',acts'⟩ := run_later there
          rw [ran,ran',acts,acts']
          exact ⟨world,.sleeps calls,.nil⟩
  | stepped w call middle reply step responds stepped ih =>
      by_cases drains : ∃ after, call = .terminate .starting after
      · obtain ⟨after,rfl⟩ := drains
        cases calls with
        | tearing => exact twin.torn .none
        | recovering message => exact twin.torn (.some message)
      obtain ⟨middle',reply',there,world,steps⟩ :=
        twin.answered calls (not_exists.mp drains) responds
      generalize stepped' : middle'.line.relay.step middle'.line.state reply' call' = other at steps
      rw [stepped] at steps
      obtain ⟨twins⟩ := steps
      obtain ⟨ran,acts⟩ := run_stepped responds stepped
      obtain ⟨ran',acts'⟩ := run_stepped there stepped'
      have rest := ih (world.after twins) twins.next
      rw [ran,ran',acts,acts']
      exact ⟨rest.world,rest.pace,(Reordered.of_forall₂ twins.done).append rest.acts⟩
  | finished w =>
      cases calls
      rw [run_finished,run_finished,acts_finished,acts_finished]
      exact ⟨twin,.ended,.nil⟩
  | stuck w call middle reply unfinished responds stuck =>
      have undrained : ∀ after, call ≠ .terminate .starting after := by
        rintro after rfl
        cases stuck
      obtain ⟨middle',reply',there,world,steps⟩ := twin.answered calls undrained responds
      generalize stuck' : middle'.line.relay.step middle'.line.state reply' call' = other at steps
      rw [stuck] at steps
      cases steps
      have unfinished' : call' ≠ .finished := by
        rintro rfl
        cases calls
        exact unfinished rfl
      obtain ⟨ran,acts⟩ := run_stuck unfinished responds stuck
      obtain ⟨ran',acts'⟩ := run_stuck unfinished' there stuck'
      rw [ran,ran',acts,acts']
      exact ⟨world,.waits calls,.nil⟩

theorem Twin.resume {pace pace' : Pace} (twin : Twin Paired past past' w w')
    (paces : Pace.Twin Paired pace pace') :
    Ran Paired past past' (w.resume pace) (w'.resume pace') (w.resumeActs pace)
      (w'.resumeActs pace') := by
  cases paces with
  | ended => exact ⟨twin,.ended,.nil⟩
  | waits calls => exact twin.run calls
  | @sleeps _ _ publisher calls =>
      cases calls with
      | @connecting m m' bound bound' slot message same =>
          have calls : Call.Twin Paired (.connecting m slot bound) (.connecting m' slot bound') :=
            .connecting message same
          obtain ⟨result,rig⟩ := twin.rig.openPublisher publisher same
          have answers : Option.Rel Reply.Twin
              (some (.connected (w.rig.openPublisher publisher bound).1))
              (some (.connected (w'.rig.openPublisher publisher bound').1)) :=
            result ▸ .some .connected
          have steps := Relay.step_twin twin.outlines w.line.state calls answers nofun
          simp only [World.resume,World.resumeActs,← twin.state]
          generalize w.line.relay.step _ _ (.connecting m slot bound) = here at steps ⊢
          generalize w'.line.relay.step _ _ (.connecting m' slot bound') = there at steps ⊢
          have opened : Twin Paired past past' ⟨w.line,(w.rig.openPublisher publisher bound).2⟩
              ⟨w'.line,(w'.rig.openPublisher publisher bound').2⟩ := ⟨twin.line,rig⟩
          cases steps with
          | none => exact ⟨opened,.sleeps calls,.nil⟩
          | some twins =>
              have rest := (opened.after twins).run twins.next
              exact ⟨rest.world,rest.pace,(Reordered.of_forall₂ twins.done).append rest.acts⟩
      | _ => exact ⟨twin,.sleeps (by constructor <;> assumption),.nil⟩

theorem Twin.complete (twin : Twin Paired past past' w w') (calls : Call.Twin Paired call call') :
    Twin Paired past past' (w.complete call) (w'.complete call') ∧
    Act.Matches Paired (w.completeActs call) (w'.completeActs call') := by
  have ran := twin.run calls
  have resumed := ran.world.resume ran.pace
  exact ⟨resumed.world,ran.acts.append resumed.acts⟩

end Line.World
end RegistryRelay
