import RegistryRelay.Proofs.Bench.Journal
import RegistryRelay.Proofs.Pool.Slots
import RegistryRelay.Proofs.Relay.Transition
import RegistryRelay.Relay.Interleaving

namespace RegistryRelay.Line.World

def does (w : World) (acts : List Act) : World := { w with rig := w.rig.performAll acts }

def withPool (w : World) (pool : Pool) : World :=
  { w with line := { w.line with state := { w.line.state with pool } } }

def closings (pool : Pool) (drained : List (PublisherKey × SlotId)) : List Act :=
  drained.flatMap fun entry =>
    match pool.held? entry.2 with
    | some publisher => [.note (.publisherClosed entry.1),.close publisher]
    | none => []

def shutting (served : PublisherKey × PublisherId) : List Act :=
  [.note (.publisherClosed served.1),.close served.2]

def closing (served : PublisherKey × PublisherId) : List Entry :=
  [.note (.publisherClosed served.1),.closed served.2]

theorem closings_shutting (pool : Pool) (drained : List (PublisherKey × SlotId)) :
    closings pool drained = (drained.filterMap fun entry =>
      (pool.held? entry.2).map (Prod.mk entry.1)).flatMap shutting := by
  induction drained with
  | nil => rfl
  | cons entry drained ih =>
      simp only [closings,List.flatMap_cons,List.filterMap_cons] at ih ⊢
      rw [ih]
      cases pool.held? entry.2 <;> rfl

def drained (w : World) : List (PublisherKey × SlotId) :=
  w.line.relay.order.arrange w.line.state.pool.cached

def emptied (w : World) : World :=
  let pool := w.line.state.pool
  (w.withPool { pool with cached := [] }).does
    (closings pool w.drained ++ [.note (.terminated w.line.relay.registry pool.size)])

def mirror (w : World) (message : Message) : World :=
  let registry := w.line.relay.registry
  w.does [.note (.mirrored registry message.device message.subFolder),
    .mirror (message.bundle registry)]

-- A message is handed to a publisher and mirrored. If it cannot be sent, everything is torn
-- down in between.
def deliver (w : World) (message : Message) (publisher : PublisherId) : World :=
  let (fault,rig) := w.rig.send publisher message.device message.topic message.data
  let w := { w with rig }
  match fault with
  | none => w.mirror message
  | some fault =>
      let failed : Event :=
        .sendFailed w.line.relay.registry message.device message.topic fault
      (w.does [.note failed]).emptied.mirror message

def credentials (w : World) (device : String) : Except Fault KeyMaterial × World :=
  let (found,rig) := w.rig.fetchDevice w.line.handle device
  (found.bind Device.keyMaterial,{ w with rig })

def attempt (w : World) (device : String) : World :=
  { w with
    rig := (w.rig.beginAttempt w.line.number device).2.2.record
      (.attempted w.rig.attempts.length) }

def connect (w : World) (device : String) (bound : PublisherBinding) :
    Except Fault PublisherId × World :=
  let (result,rig) := (w.attempt device).rig.openPublisher w.rig.attempts.length bound
  (result,{ w with rig })

def establish (w : World) (device : String) (slot : SlotId) (bound : PublisherBinding) :
    Option PublisherId × World :=
  match w.connect device bound with
  | (.error fault,w) =>
      (none,w.does [.note (.publisherFailed w.line.relay.registry device fault)])
  | (.ok publisher,w) =>
      (some publisher,(w.withPool (w.line.state.pool.fill slot (.holds publisher))).does
        [.opened publisher bound,.note (.publisherCreated (w.line.relay.publisherKey device))])

def create (w : World) (device : String) (slot : SlotId) : Option PublisherId × World :=
  match w.credentials device with
  | (.error fault,w) =>
      (none,w.does [.note (.publisherFailed w.line.relay.registry device fault)])
  | (.ok material,w) => w.establish device slot (w.line.relay.binding device material)

def acquire (w : World) (device : String) : Option PublisherId × World :=
  let key := w.line.relay.publisherKey device
  match w.line.state.pool.serves? key with
  | some publisher => (some publisher,w.does [.note (.publisherReused key)])
  | none =>
      let (pool,slot) := w.line.state.pool.slotFor key
      (w.withPool pool).create device slot

def dispatch (message : Message) : Option PublisherId × World → World
  | (none,w) => w
  | (some publisher,w) => w.deliver message publisher

def forward (w : World) (message : Message) : World :=
  dispatch message ((w.does [.note
    (.sendAttempt w.line.relay.registry message.device message.subFolder)]).acquire message.device)

def ignore (w : World) (device subFolder : String) : World :=
  let state := w.line.state
  if state.ignored.contains device then w
  else
    World.does { w with line :=
        { w.line with state := { state with ignored := device :: state.ignored } } }
      [.note (.unknownDevice w.line.relay.registry device subFolder)]

def update (w : World) (device payload : String) : World :=
  let (fault,rig) := w.rig.updateDevice w.line.handle device payload
  let w := { w with rig }
  match fault with
  | none => w.mirror ⟨device,Topic.configFolder,payload⟩
  | some fault => w.does [.note (.configUpdateFailed w.line.relay.registry device fault)]

def receive (w : World) (topic payload : String) : World :=
  let registry := w.line.relay.registry
  let w := w.does [.note (.received registry topic)]
  if Topic.isConfig topic then
    match Topic.configDevice? topic with
    | none => w.does [.note (.invalidTopic registry topic)]
    | some device => (w.does [.note (.configUpdate registry device)]).update device payload
  else w.does [.note (.ignored registry topic)]

def perform (w : World) : Call → World
  | .publish device none _ => w.does [.note (.noSubFolder w.line.relay.registry device)]
  | .publish device (some subFolder) data =>
      if w.line.relay.devices.contains device then w.forward ⟨device,subFolder,data⟩
      else w.ignore device subFolder
  | .terminate _ _ => w.emptied
  | .fault device fault =>
      (w.does [.note (.publisherError w.line.relay.registry device fault)]).emptied
  | .inbound topic payload => w.receive topic payload
  | _ => w

-- No call is on its way, and nothing is going to happen in the course of one.
structure Settled (w : World) : Prop where
  orderly : w.line.state.pool.Orderly
  idle : ∀ slot, w.line.state.pool.content slot ≠ .opening
  connects : w.rig.connectHooks = []
  sends : w.rig.sendHooks = []

variable {w middle : World} {call next : Call} {reply : Option Reply} {state : Relay.State}
  {acts : List Act}

theorem run_taken (responds : w.respond call = (middle,.now reply))
    (taken : Relay.Transition middle.line.relay middle.line.state reply call state next acts) :
    w.run call = (middle.after (state,next,acts)).run next := by
  have stepped := Relay.step_complete taken
  rw [run,responds]
  simp only
  split
  · rename_i step found
    cases found.symm.trans stepped
    rfl
  · rename_i found
    cases found.symm.trans stepped

theorem run_silent (responds : w.respond call = (w,.now none))
    (taken : Relay.Transition w.line.relay w.line.state none call state next acts) :
    w.run call = (w.after (state,next,acts)).run next := run_taken responds taken

theorem run_finished (w : World) : w.run .finished = (w,.ended) := by
  rw [run]
  rfl

theorem does_does (one two : List Act) : (w.does one).does two = w.does (one ++ two) := by
  simp only [does,Rig.performAll,List.foldl_append]

theorem run_mirroring (w : World) (message : Message) :
    w.run (.mirroring message) = (w.mirror message,.ended) := by
  rw [run_silent rfl .mirror,run_finished]
  rfl

def afterwards : Option Message → Call
  | some message => .mirroring message
  | none => .finished

theorem run_closing (w : World) (left : List (PublisherKey × SlotId)) (n : Nat)
    (after : Option Message) : w.run (.terminate (.closing left n) after) =
      (w.does (closings w.line.state.pool left ++ [.note (.terminated w.line.relay.registry
        (n + (left.filterMap fun entry => w.line.state.pool.held? entry.2).length))])).run
        (afterwards after) := by
  induction left generalizing w n with
  | nil =>
      cases after with
      | none => exact run_silent rfl .terminated
      | some message => exact run_silent rfl .recovered
  | cons entry left ih =>
      obtain ⟨key,slot⟩ := entry
      cases held : w.line.state.pool.held? slot with
      | none =>
          rw [run_silent rfl (.pass held)]
          refine (ih _ n).trans ?_
          simp [closings,held]
          rfl
      | some publisher =>
          rw [run_silent rfl (.shut held)]
          refine (ih _ (n + 1)).trans ?_
          simp [closings,held,Nat.add_assoc,Nat.add_comm 1]
          rfl

theorem drained_perm (w : World) : w.drained.Perm w.line.state.pool.cached :=
  w.line.relay.order.perm _

theorem drained_size (w : World) :
    (w.drained.filterMap fun entry => w.line.state.pool.held? entry.2).length =
      w.line.state.pool.size := (w.drained_perm.filterMap _).length_eq

theorem run_emptied (w : World) (after : Option Message) :
    w.run (.terminate .starting after) = w.emptied.run (afterwards after) := by
  rw [run_silent rfl .drain,run_closing,Nat.zero_add,emptied,← drained_size]
  rfl

theorem run_sending (sends : w.rig.sendHooks = []) (message : Message) (publisher : PublisherId) :
    w.run (.sending message publisher) = (w.deliver message publisher,.ended) := by
  have responds : w.respond (.sending message publisher) =
      ({ w with rig := (w.rig.send publisher message.device message.topic message.data).2 },
        .now (some (.sent
          (w.rig.send publisher message.device message.topic message.data).1))) := by
    simp only [respond,Rig.beginSend_idle sends]
    rfl
  cases sent : (w.rig.send publisher message.device message.topic message.data).1 with
  | none =>
      rw [sent] at responds
      rw [run_taken responds .sent]
      simp only [deliver,sent]
      exact run_mirroring _ message
  | some fault =>
      rw [sent] at responds
      rw [run_taken responds .notSent,run_emptied]
      simp only [deliver,sent]
      exact run_mirroring _ message

theorem run_checking (sends : w.rig.sendHooks = []) {message : Message} {slot : SlotId}
    (cached : w.line.state.pool.caches (w.line.relay.publisherKey message.device) slot = true)
    (publisher : PublisherId) (created : Bool) :
    w.run (.acquiring message (.checking slot publisher created)) =
      ((w.does [.note (if created then .publisherCreated (w.line.relay.publisherKey message.device)
        else .publisherReused (w.line.relay.publisherKey message.device))]).deliver message
          publisher,.ended) := by
  rw [run_silent rfl (.deliver cached)]
  refine run_sending ?_ message publisher
  rw [after,Rig.performAll_extends]
  exact sends

theorem complete_run {other : World} (same : w.run call = other.run next) :
    w.complete call = other.complete next := by simp only [complete,same]

theorem complete_ended {other : World} (ended : w.run call = (other,.ended)) :
    w.complete call = other := by simp only [complete,ended,resume]

theorem complete_taken (responds : w.respond call = (middle,.now reply))
    (taken : Relay.Transition middle.line.relay middle.line.state reply call state next acts) :
    w.complete call = (middle.after (state,next,acts)).complete next :=
  complete_run (run_taken responds taken)

theorem complete_silent (responds : w.respond call = (w,.now none))
    (taken : Relay.Transition w.line.relay w.line.state none call state next acts) :
    w.complete call = (w.after (state,next,acts)).complete next := complete_taken responds taken

theorem respond_connecting (hooks : w.rig.connectHooks = []) (message : Message) (slot : SlotId)
    (bound : PublisherBinding) : w.respond (.connecting message slot bound) =
      if (w.attempt message.device).rig.delayed then
        (w.attempt message.device,.later w.rig.attempts.length)
      else
        ((w.connect message.device bound).2,
          .now (some (.connected (w.connect message.device bound).1))) := by
  have begins : w.rig.beginAttempt w.line.number message.device = (w.rig.attempts.length,[],
      (w.rig.beginAttempt w.line.number message.device).2.2) :=
    Prod.ext rfl (Prod.ext (by simp only [Rig.beginAttempt,hooks,List.headD_nil]) rfl)
  simp only [respond]
  rw [begins]
  rfl

theorem complete_connecting {message : Message} {slot : SlotId} {bound : PublisherBinding}
    {result : Except Fault PublisherId} {last : World} (hooks : w.rig.connectHooks = [])
    (connects : w.connect message.device bound = (result,middle))
    (taken : Relay.Transition middle.line.relay middle.line.state (some (.connected result))
      (.connecting message slot bound) state next acts)
    (ends : (middle.after (state,next,acts)).run next = (last,.ended)) :
    w.complete (.connecting message slot bound) = last := by
  have answers := respond_connecting hooks message slot bound
  rw [connects] at answers
  cases sleeps : (w.attempt message.device).rig.delayed with
  | false =>
      refine complete_ended ((run_taken ?_ taken).trans ends)
      simpa only [sleeps,Bool.false_eq_true,↓reduceIte] using answers
  | true =>
      have asleep : w.run (.connecting message slot bound) = (w.attempt message.device,
          .sleeps (.connecting message slot bound) w.rig.attempts.length) := by
        rw [run,answers]
        simp only [sleeps,↓reduceIte]
      have wakes : (w.attempt message.device).resume
          (.sleeps (.connecting message slot bound) w.rig.attempts.length) = (last,.ended) := by
        have stepped := Relay.step_complete taken
        have first := congrArg Prod.fst connects
        have rig := congrArg (·.2.rig) connects
        have line : (w.attempt message.device).line = middle.line := congrArg (·.2.line) connects
        have opened : (w.attempt message.device).rig.openPublisher w.rig.attempts.length bound =
            (result,middle.rig) := Prod.ext first rig
        simp only [resume,opened,line]
        split
        · rename_i step found
          cases found.symm.trans stepped
          exact ends
        · rename_i found
          cases found.symm.trans stepped
      simp only [complete,asleep,wakes]

theorem after_failure {slot : SlotId} (empty : w.line.state.pool.content slot = .empty)
    (event : Event) :
    ((w.withPool (w.line.state.pool.fill slot .opening)).after ({ w.line.state with
      pool := (w.line.state.pool.fill slot .opening).fill slot .empty },.finished,
        [.note event])).run .finished = (w.does [.note event],.ended) := by
  rw [Pool.fill_fill,← empty,Pool.fill_content,run_finished]
  rfl

theorem connect_sends (w : World) (device : String) (bound : PublisherBinding) :
    (w.connect device bound).2.rig.sendHooks = w.rig.sendHooks := by
  simp only [connect,Rig.openPublisher]
  split <;> rfl

theorem complete_establishing {message : Message} {slot : SlotId} {bound : PublisherBinding}
    (hooks : w.rig.connectHooks = []) (sends : w.rig.sendHooks = [])
    (empty : w.line.state.pool.content slot = .empty)
    (cached : w.line.state.pool.caches (w.line.relay.publisherKey message.device) slot = true) :
    (w.withPool (w.line.state.pool.fill slot .opening)).complete (.connecting message slot bound) =
      dispatch message (w.establish message.device slot bound) := by
  have connects : (w.withPool (w.line.state.pool.fill slot .opening)).connect message.device bound =
      ((w.connect message.device bound).1,
        (w.connect message.device bound).2.withPool (w.line.state.pool.fill slot .opening)) := rfl
  have line : (w.connect message.device bound).2.line = w.line := rfl
  have idle := w.connect_sends message.device bound
  unfold establish
  generalize w.connect message.device bound = connected at connects line idle ⊢
  obtain ⟨result,opened⟩ := connected
  simp only at connects line idle
  rw [← line] at empty cached connects ⊢
  cases result with
  | error fault =>
      exact complete_connecting hooks connects .notConnected (after_failure empty _)
  | ok publisher =>
      refine complete_connecting hooks connects .connected ?_
      refine (run_checking ?_ ?_ publisher true).trans ?_
      · exact idle.trans sends
      · exact cached
      · simp only [withPool,Pool.fill_fill]
        rfl

theorem credentials_extends (w : World) (device : String) : ∃ scripted,
    (w.credentials device).2 = { w with rig := w.rig.extend [.fetched device scripted] } := by
  obtain ⟨scripted,grown⟩ := w.rig.fetchDevice_extends w.line.handle device
  exact ⟨scripted,by rw [← grown]; rfl⟩

theorem complete_fetching {message : Message} {slot : SlotId} (hooks : w.rig.connectHooks = [])
    (sends : w.rig.sendHooks = []) (empty : w.line.state.pool.content slot = .empty)
    (cached : w.line.state.pool.caches (w.line.relay.publisherKey message.device) slot = true) :
    (w.withPool (w.line.state.pool.fill slot .opening)).complete (.fetching message slot) =
      dispatch message (w.create message.device slot) := by
  have responds : (w.withPool (w.line.state.pool.fill slot .opening)).respond
      (.fetching message slot) =
        ((w.credentials message.device).2.withPool (w.line.state.pool.fill slot .opening),
          .now (some (.fetched (w.rig.fetchDevice w.line.handle message.device).1))) := rfl
  cases found : (w.rig.fetchDevice w.line.handle message.device).1 with
  | error fault =>
      rw [found] at responds
      have same : w.create message.device slot = (none,(w.credentials message.device).2.does
          [.note (.publisherFailed w.line.relay.registry message.device fault)]) := by
        simp only [create,credentials,found,Except.bind]
      rw [same]
      exact complete_ended ((run_taken responds .notFetched).trans
        (after_failure (w := (w.credentials message.device).2) empty _))
  | ok device =>
      rw [found] at responds
      cases key : device.keyMaterial with
      | error fault =>
          have same : w.create message.device slot = (none,(w.credentials message.device).2.does
              [.note (.publisherFailed w.line.relay.registry message.device fault)]) := by
            simp only [create,credentials,found,Except.bind,key]
          rw [same]
          exact complete_ended ((run_taken responds (.noKey key)).trans
            (after_failure (w := (w.credentials message.device).2) empty _))
      | ok material =>
          rw [complete_taken responds (.fetched key)]
          have same : w.create message.device slot = (w.credentials message.device).2.establish
              message.device slot (w.line.relay.binding message.device material) := by
            simp only [create,credentials,found,Except.bind,key]
          rw [same]
          obtain ⟨scripted,grown⟩ := w.credentials_extends message.device
          rw [grown]
          exact complete_establishing (w := { w with rig := _ }) hooks sends empty cached

theorem acquire_reused {device : String} {publisher : PublisherId}
    (served : w.line.state.pool.serves? (w.line.relay.publisherKey device) = some publisher) :
    w.acquire device =
      (some publisher,w.does [.note (.publisherReused (w.line.relay.publisherKey device))]) := by
  simp only [acquire]
  rw [served]

theorem acquire_created {device : String}
    (unserved : w.line.state.pool.serves? (w.line.relay.publisherKey device) = none) :
    w.acquire device =
      (w.withPool (w.line.state.pool.slotFor (w.line.relay.publisherKey device)).1).create device
        (w.line.state.pool.slotFor (w.line.relay.publisherKey device)).2 := by
  simp only [acquire]
  rw [unserved]

theorem complete_acquiring (settled : w.Settled) (message : Message) :
    w.complete (.acquiring message .asking) = dispatch message (w.acquire message.device) := by
  let key := w.line.relay.publisherKey message.device
  let found := w.withPool (w.line.state.pool.slotFor key).1
  have cached : found.line.state.pool.caches key (w.line.state.pool.slotFor key).2 = true :=
    Pool.caches_slotFor settled.orderly
  have looked : w.complete (.acquiring message .asking) =
      found.complete (.acquiring message (.waiting (w.line.state.pool.slotFor key).2)) :=
    complete_silent rfl .look
  rw [looked]
  cases served : w.line.state.pool.serves? key with
  | some publisher =>
      obtain ⟨same,held⟩ := Pool.slotFor_serving settled.orderly served
      have here : found = w := by simp only [found,same]; rfl
      rw [here] at cached ⊢
      rw [complete_silent rfl (.join held),acquire_reused served]
      exact complete_ended (run_checking settled.sends cached publisher false)
  | none =>
      have empty : found.line.state.pool.content (w.line.state.pool.slotFor key).2 = .empty :=
        (Pool.content_slotFor _).trans (Pool.slotFor_empty settled.orderly settled.idle served)
      rw [complete_silent rfl (.start empty),acquire_created served]
      exact complete_fetching settled.connects settled.sends empty cached

theorem Settled.does (settled : w.Settled) (acts : List Act) : (w.does acts).Settled := by
  refine ⟨settled.orderly,settled.idle,?_,?_⟩
  · rw [World.does,Rig.performAll_extends]
    exact settled.connects
  · rw [World.does,Rig.performAll_extends]
    exact settled.sends

theorem run_updating (w : World) (device payload : String) :
    w.run (.updating device payload) = (w.update device payload,.ended) := by
  have responds : w.respond (.updating device payload) =
      ({ w with rig := (w.rig.updateDevice w.line.handle device payload).2 },
        .now (some (.updated (w.rig.updateDevice w.line.handle device payload).1))) := rfl
  unfold update
  generalize w.rig.updateDevice w.line.handle device payload = answer at responds ⊢
  obtain ⟨fault,rig⟩ := answer
  cases fault with
  | none => exact (run_taken responds .updated).trans (run_mirroring _ _)
  | some fault => exact (run_taken responds .notUpdated).trans (run_finished _)

theorem run_inbound (w : World) (topic payload : String) :
    w.run (.inbound topic payload) = (w.receive topic payload,.ended) := by
  cases config : Topic.isConfig topic with
  | false =>
      rw [run_silent rfl (.notConfig config),run_finished]
      simp only [receive,config,Bool.false_eq_true,↓reduceIte,does_does]
      rfl
  | true =>
      cases device? : Topic.configDevice? topic with
      | none =>
          rw [run_silent rfl (.invalid config device?),run_finished]
          simp only [receive,config,device?,↓reduceIte,does_does]
          rfl
      | some device =>
          rw [run_silent rfl (.push config device?),run_updating]
          simp only [receive,config,device?,↓reduceIte,does_does]
          rfl

-- Run on its own, a call never has to wait for another one: it comes to what it does in a
-- straight line.
theorem complete_perform (settled : w.Settled) (begins : call.isEntry = true) :
    w.complete call = w.perform call := by
  cases call with
  | publish device subFolder data =>
      cases subFolder with
      | none => exact complete_ended ((run_silent rfl .unrouted).trans (run_finished _))
      | some subFolder =>
          cases known : w.line.relay.devices.contains device with
          | true =>
              rw [complete_silent rfl (.attempt known)]
              refine (complete_acquiring (settled.does [_]) ⟨device,subFolder,data⟩).trans ?_
              simp only [perform,known,↓reduceIte]
              rfl
          | false =>
              cases seen : w.line.state.ignored.contains device with
              | true =>
                  refine complete_ended ((run_silent rfl (.ignoreAgain known seen)).trans ?_)
                  rw [run_finished]
                  simp only [perform,known,Bool.false_eq_true,↓reduceIte,ignore,seen]
                  rfl
              | false =>
                  refine complete_ended ((run_silent rfl (.ignore known seen)).trans ?_)
                  rw [run_finished]
                  simp only [perform,known,Bool.false_eq_true,↓reduceIte,ignore,seen]
                  rfl
  | terminate progress after =>
      cases progress with
      | starting =>
          cases after with
          | none => exact complete_ended ((run_emptied w none).trans (run_finished _))
          | some message => cases begins
      | closing left n => cases begins
  | fault device fault =>
      refine complete_ended ((run_silent rfl .fault).trans ?_)
      exact (run_emptied _ none).trans (run_finished _)
  | inbound topic payload => exact complete_ended (run_inbound w topic payload)
  | _ => cases begins

end RegistryRelay.Line.World
