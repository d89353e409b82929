import RegistryRelay.Proofs.Bench.Keeping

namespace RegistryRelay

def Message.sent (message : Message) : String × String × String :=
  (message.device,message.topic,message.data)

def Entry.acquires : Entry → Bool
  | .note (.publisherCreated _) | .note (.publisherReused _) => true
  | _ => false

def Call.message? : Call → Option Message
  | .publish device (some subFolder) data => some ⟨device,subFolder,data⟩
  | _ => none

def accepted (message? : Option Message) (entries : List Entry) : List Message :=
  if entries.any Entry.acquires then message?.toList else []

def Rig.Takes (rig : Rig) : Prop := ¬(rig.sink = .channel ∧ rig.sinkClosed)

namespace Line.World

-- From one world to a later one: what the journal has gained, and which messages publishers
-- were told in between.
structure Onto (w later : World) (entries : List Entry) (told : List Message) : Prop where
  relay : later.line.relay = w.line.relay
  number : later.line.number = w.line.number
  sink : later.rig.sink = w.rig.sink
  shut : later.rig.sinkClosed = w.rig.sinkClosed
  publishers : w.rig.publishers <+: later.rig.publishers
  journal : later.rig.journal = w.rig.journal ++ entries
  heard : ∀ device, later.rig.heard device =
    w.rig.heard device ++ (told.filter (·.device = device)).map Message.sent

variable {w middle later : World} {entries others : List Entry} {told rest : List Message}
  {device : String} {publisher : PublisherId}

theorem Onto.refl (w : World) : Onto w w [] [] :=
  ⟨rfl,rfl,rfl,rfl,List.prefix_rfl,(List.append_nil _).symm,fun _ => (List.append_nil _).symm⟩

theorem Onto.trans (one : Onto w middle entries told) (two : Onto middle later others rest) :
    Onto w later (entries ++ others) (told ++ rest) := by
  refine ⟨two.relay.trans one.relay,two.number.trans one.number,two.sink.trans one.sink,
    two.shut.trans one.shut,one.publishers.trans two.publishers,?_,?_⟩
  · rw [two.journal,one.journal,List.append_assoc]
  · intro device
    rw [two.heard,one.heard,List.filter_append,List.map_append,List.append_assoc]

theorem heard_same (rig after : Rig) (publishers : after.publishers = rig.publishers)
    (messages : ∀ publisher, after.messages publisher = rig.messages publisher) (device : String) :
    after.heard device = rig.heard device := by
  unfold Rig.heard Rig.publishersFor
  rw [publishers]
  simp only [messages]

theorem onto_extend (w : World) (silent : Entry.Silent entries) :
    Onto w { w with rig := w.rig.extend entries } entries [] := by
  refine ⟨rfl,rfl,rfl,rfl,List.prefix_rfl,rfl,fun device => ?_⟩
  rw [List.filter_nil,List.map_nil,List.append_nil]
  exact heard_same w.rig (w.rig.extend entries) rfl (Rig.messages_silent silent) device

theorem onto_does (w : World) (acts : List Act) (silent : Entry.Silent (acts.flatMap w.rig.traces)) :
    Onto w (w.does acts) (acts.flatMap w.rig.traces) [] := by
  rw [does,Rig.performAll_extends]
  exact onto_extend w silent

theorem does_publishers (w : World) (acts : List Act) :
    (w.does acts).rig.publishers = w.rig.publishers := by
  rw [does,Rig.performAll_extends]
  rfl

theorem onto_vary (w : World) (state : Relay.State) (backend : Backend) :
    Onto w ⟨{ w.line with state },{ w.rig with backend }⟩ [] [] :=
  ⟨rfl,rfl,rfl,rfl,List.prefix_rfl,(List.append_nil _).symm,fun _ => (List.append_nil _).symm⟩

theorem onto_withPool (w : World) (pool : Pool) : Onto w (w.withPool pool) [] [] :=
  onto_vary w { w.line.state with pool } w.rig.backend

theorem onto_attempt (w : World) (device : String) :
    Onto w (w.attempt device) [.attempted w.rig.attempts.length] [] := by
  have plain : ∀ entry ∈ [Entry.attempted w.rig.attempts.length], entry.plain = true := by
    simp [Entry.plain]
  refine ⟨rfl,rfl,rfl,rfl,List.prefix_rfl,rfl,fun device => ?_⟩
  rw [List.filter_nil,List.map_nil,List.append_nil]
  exact heard_same w.rig (w.rig.extend [_]) rfl (Rig.messages_plain plain) device

theorem onto_emptied (w : World) : Onto w w.emptied w.remains [] := by
  rw [emptied_extends]
  exact (onto_withPool w _).trans (onto_extend _ w.remains_silent)

structure Past (w later : World) (entries : List Entry) : Prop where
  ready : later.Ready
  onto : Onto w later entries []
  silent : Entry.Silent entries
  publishers : later.rig.publishers = w.rig.publishers

theorem Past.refl (ready : w.Ready) : w.Past w [] :=
  ⟨ready,.refl w,List.forall_mem_nil _,rfl⟩

theorem Past.trans (one : w.Past middle entries) (two : middle.Past later others) :
    w.Past later (entries ++ others) :=
  ⟨two.ready,one.onto.trans two.onto,List.forall_mem_append.mpr ⟨one.silent,two.silent⟩,
    two.publishers.trans one.publishers⟩

theorem Past.publishersFor (past : w.Past later entries) (device : String) :
    later.rig.publishersFor device = w.rig.publishersFor device := by
  unfold Rig.publishersFor
  rw [past.publishers]

theorem past_does (ready : w.Ready) (acts : List Act)
    (plain : ∀ entry ∈ acts.flatMap w.rig.traces, entry.plain = true) :
    w.Past (w.does acts) (acts.flatMap w.rig.traces) :=
  ⟨ready.does acts plain,onto_does w acts (Entry.plain_silent plain),Entry.plain_silent plain,
    does_publishers w acts⟩

theorem past_note (ready : w.Ready) (event : Event) : w.Past (w.does [.note event]) [.note event] :=
  past_does ready _ (by simp [Rig.traces,Entry.plain])

theorem past_attempt (ready : w.Ready) (device : String) :
    w.Past (w.attempt device) [.attempted w.rig.attempts.length] :=
  ⟨ready.attempt device,onto_attempt w device,by simp [Entry.Silent,Entry.message?],rfl⟩

theorem past_emptied (ready : w.Ready) : w.Past w.emptied w.remains :=
  ⟨ready.toKept.emptied_ready,onto_emptied w,w.remains_silent,by rw [emptied_extends]; rfl⟩

theorem onto_welcome {n : PublisherId} (vacant : w.Vacant n) (bound : PublisherBinding)
    (rejects : Bool) : Onto w (w.welcome ⟨n,bound,rejects⟩) [] [] := by
  refine ⟨rfl,rfl,rfl,rfl,List.prefix_append _ _,(List.append_nil _).symm,fun device => ?_⟩
  rw [List.filter_nil,List.map_nil,List.append_nil]
  unfold Rig.heard Rig.publishersFor welcome
  rw [List.filter_append,List.flatMap_append]
  refine (congrArg _ (List.flatMap_eq_nil_iff.mpr fun p member => ?_)).trans (List.append_nil _)
  cases List.mem_singleton.mp (List.mem_filter.mp member).1
  exact vacant.untold

-- What the publisher in the pool is told comes last of all that its device was told, because it
-- was opened last.
theorem onto_tell (kept : w.Kept) (message : Message)
    (served : w.line.state.pool.serves? (w.line.relay.publisherKey message.device) =
      some publisher) :
    Onto w (w.tell message publisher)
      [.published publisher message.device message.topic message.data] [message] := by
  refine ⟨rfl,rfl,rfl,rfl,List.prefix_rfl,rfl,fun device => ?_⟩
  obtain ⟨owner,front,bound,rejects,key,newest⟩ := (kept.serving _ publisher served).newest
  cases congrArg PublisherKey.device key
  let newest' : OpenPublisher := ⟨publisher,bound,rejects⟩
  obtain ⟨last,owned⟩ := Rig.newest_member newest
  have others {p : OpenPublisher} (member : p ∈ w.rig.publishers) (differs : p ≠ newest') :
      publisher ≠ p.publisher := fun same =>
    differs (List.inj_on_of_nodup_map kept.distinct member last same.symm)
  change (w.rig.publishersFor device).flatMap
    (fun p => (w.tell message publisher).rig.messages p.publisher) = _
  simp only [messages_tell]
  by_cases same : message.device = device
  · subst same
    have unique : (w.rig.publishersFor message.device).Nodup :=
      (List.Nodup.of_map _ kept.distinct).filter _
    rw [newest] at unique
    -- Those that were opened earlier hear nothing of it.
    have before : front.flatMap (fun p => w.rig.messages p.publisher ++
        if publisher = p.publisher then [(message.device,message.topic,message.data)] else []) =
          front.flatMap fun p => w.rig.messages p.publisher := by
      refine List.flatMap_congr fun p member => ?_
      have opened : p ∈ w.rig.publishersFor message.device := by
        rw [newest]
        exact List.mem_append_left _ member
      have differs : p ≠ newest' :=
        (List.nodup_append.mp unique).2.2 p member newest' (List.mem_singleton_self _)
      rw [if_neg (others (List.mem_filter.mp opened).1 differs),List.append_nil]
    rw [Rig.heard,newest,List.flatMap_append,List.flatMap_append,before]
    simp [Message.sent]
  · rw [List.filter_cons_of_neg (by simpa using same),List.filter_nil,List.map_nil,List.append_nil]
    refine List.flatMap_congr fun p member => ?_
    obtain ⟨opened,own⟩ := List.mem_filter.mp member
    have differs : p ≠ newest' := by
      rintro rfl
      exact same (owned.symm.trans (beq_iff_eq.mp own))
    rw [if_neg (others opened differs),List.append_nil]

def asked (w : World) (device : String) (scripted : Bool) : World :=
  { w.withPool (w.line.state.pool.slotFor (w.line.relay.publisherKey device)).1 with
    rig := w.rig.extend [.fetched device scripted] }

def enriched (w : World) (device : String) (bound : PublisherBinding) (slot : SlotId) : World :=
  (((w.attempt device).welcome ⟨w.rig.attempts.length,bound,w.rig.rejectSends⟩).withPool
    (w.line.state.pool.fill slot (.holds w.rig.attempts.length))).does
      [.opened w.rig.attempts.length bound,
        .note (.publisherCreated (w.line.relay.publisherKey device))]

inductive Acquires (w : World) (device : String) : Option PublisherId × World → Prop where
  | reused {publisher : PublisherId}
      (served : w.line.state.pool.serves? (w.line.relay.publisherKey device) = some publisher) :
      Acquires w device
        (some publisher,w.does [.note (.publisherReused (w.line.relay.publisherKey device))])
  | refused (scripted : Bool) (fault : Fault) :
      Acquires w device (none,(w.asked device scripted).does
        [.note (.publisherFailed w.line.relay.registry device fault)])
  | unconnected (scripted : Bool) (fault : Fault) :
      Acquires w device (none,((w.asked device scripted).attempt device).does
        [.note (.publisherFailed w.line.relay.registry device fault)])
  | created (scripted : Bool) (material : KeyMaterial)
      (unserved : w.line.state.pool.serves? (w.line.relay.publisherKey device) = none) :
      Acquires w device (some w.rig.attempts.length,(w.asked device scripted).enriched device
        (w.line.relay.binding device material)
        (w.line.state.pool.slotFor (w.line.relay.publisherKey device)).2)

theorem establish_eq (w : World) (device : String) (slot : SlotId) (bound : PublisherBinding) :
    w.establish device slot bound =
      if w.rig.rejectConnects then
        (none,(w.attempt device).does [.note (.publisherFailed w.line.relay.registry device
          (.transport "connect rejected"))])
      else (some w.rig.attempts.length,w.enriched device bound slot) := by
  unfold establish
  rw [connect_eq]
  cases w.rig.rejectConnects <;> rfl

theorem acquire_sound (w : World) (device : String) : w.Acquires device (w.acquire device) := by
  cases served : w.line.state.pool.serves? (w.line.relay.publisherKey device) with
  | some publisher =>
      rw [acquire_reused served]
      exact .reused served
  | none =>
      obtain ⟨scripted,asks⟩ := (w.withPool (w.line.state.pool.slotFor
        (w.line.relay.publisherKey device)).1).credentials_extends device
      rw [acquire_created served]
      unfold create
      generalize (w.withPool _).credentials device = answer at asks ⊢
      obtain ⟨found,next⟩ := answer
      cases asks
      cases found with
      | error fault => exact .refused scripted fault
      | ok material =>
          simp only
          rw [establish_eq]
          split
          · exact .unconnected scripted _
          · exact .created scripted material served

theorem past_asked (ready : w.Ready) (device : String) (scripted : Bool) :
    w.Past (w.asked device scripted) [.fetched device scripted] := by
  have silent : Entry.Silent [.fetched device scripted] := by simp [Entry.Silent,Entry.message?]
  exact ⟨(ready.look (w.line.relay.publisherKey device)).extend (by simp [Entry.plain]),
    (onto_withPool w _).trans (onto_extend _ silent),silent,rfl⟩

theorem Ready.enriched (ready : w.Ready) {slot : SlotId} {bound : PublisherBinding}
    (own : bound.device = device)
    (placed : (w.line.relay.publisherKey device,slot) ∈ w.line.state.pool.cached)
    (empty : w.line.state.pool.content slot = .empty)
    (unserved : w.line.state.pool.serves? (w.line.relay.publisherKey device) = none) :
    (w.enriched device bound slot).Ready := by
  subst own
  have trying := ready.attempt bound.device
  have vacant := ready.vacant bound.device
  have kept : (w.enriched bound.device bound slot).Kept :=
    trying.toKept.opening placed empty unserved vacant w.rig.rejectSends
  refine ⟨kept,fun p member rejects inside => ?_⟩
  have told : (w.enriched bound.device bound slot).rig.messages p.publisher =
      (w.attempt bound.device).rig.messages p.publisher := by
    rw [World.enriched,World.does,Rig.performAll_extends]
    exact Rig.messages_silent (by simp [Entry.Silent,Rig.traces,Entry.message?]) _
  rw [told]
  rcases List.mem_append.mp member with old | last
  · obtain ⟨key,place,cached,held⟩ := Pool.mem_publishers.mp inside
    rcases Pool.held_fill held with before | ⟨_,new⟩
    · exact trying.untried p old rejects (Pool.mem_publishers.mpr ⟨key,place,cached,before⟩)
    · exact absurd (Content.holds.inj new).symm (vacant.free p old)
  · cases List.mem_singleton.mp last
    exact vacant.untold

theorem onto_enriched (kept : w.Kept) (device : String) (bound : PublisherBinding) (slot : SlotId) :
    Onto w (w.enriched device bound slot) [.attempted w.rig.attempts.length,
      .opened w.rig.attempts.length bound,
      .note (.publisherCreated (w.line.relay.publisherKey device))] [] := by
  have welcomed := (onto_attempt w device).trans
    (onto_welcome (kept.vacant device) bound w.rig.rejectSends)
  have filled := welcomed.trans (onto_withPool _
    (w.line.state.pool.fill slot (.holds w.rig.attempts.length)))
  exact filled.trans (onto_does _ _ (by simp [Entry.Silent,Rig.traces,Entry.message?]))

-- Whoever acquires a publisher tells nobody anything, and opens none for other devices. The
-- publisher that was acquired is the one in the pool from then on.
structure Acquired (w : World) (device : String) (answer : Option PublisherId × World)
    (entries : List Entry) : Prop where
  ready : answer.2.Ready
  onto : Onto w answer.2 entries []
  serves : ∀ publisher, answer.1 = some publisher →
    answer.2.line.state.pool.serves? (w.line.relay.publisherKey device) = some publisher
  found : entries.any Entry.acquires = answer.1.isSome
  silent : Entry.Silent entries
  unmirrored : entries.filterMap Entry.mirrored? = []
  others : ∀ other, other ≠ device → answer.2.rig.publishersFor other = w.rig.publishersFor other

theorem Past.unacquired (past : w.Past later entries) (quiet : entries.any Entry.acquires = false)
    (unmirrored : entries.filterMap Entry.mirrored? = []) :
    w.Acquired device (none,later) entries := by
  refine ⟨past.ready,past.onto,fun publisher same => ?_,quiet,past.silent,unmirrored,
    fun other _ => past.publishersFor other⟩
  cases same

theorem acquire_acquired (ready : w.Ready) (device : String) :
    ∃ entries, w.Acquired device (w.acquire device) entries := by
  have way := w.acquire_sound device
  generalize w.acquire device = answer at way ⊢
  cases way with
  | @reused publisher served =>
      have noted := past_note ready (.publisherReused (w.line.relay.publisherKey device))
      refine ⟨_,noted.ready,noted.onto,fun other same => ?_,rfl,noted.silent,rfl,
        fun other _ => noted.publishersFor other⟩
      rw [← same]
      exact served
  | refused scripted fault =>
      have asking := past_asked ready device scripted
      exact ⟨_,(asking.trans (past_note asking.ready _)).unacquired rfl rfl⟩
  | unconnected scripted fault =>
      have asking := past_asked ready device scripted
      have trying := asking.trans (past_attempt asking.ready device)
      exact ⟨_,(trying.trans (past_note trying.ready _)).unacquired rfl rfl⟩
  | created scripted material unserved =>
      let key := w.line.relay.publisherKey device
      let slot := (w.line.state.pool.slotFor key).2
      have asking := past_asked ready device scripted
      have placed : (key,slot) ∈ (w.line.state.pool.slotFor key).1.cached :=
        Pool.mem_slotFor.mpr (.inr rfl)
      have empty : (w.line.state.pool.slotFor key).1.content slot = .empty :=
        (Pool.content_slotFor _).trans (Pool.slotFor_empty ready.orderly ready.idle unserved)
      have still : (w.line.state.pool.slotFor key).1.serves? key = none :=
        (Pool.serves?_slotFor ready.orderly).trans unserved
      refine ⟨_,asking.ready.enriched rfl placed empty still,
        asking.onto.trans (onto_enriched asking.ready.toKept device _ _),
        fun publisher same => ?_,rfl,by simp [Entry.Silent,Entry.message?],rfl,
        fun other differs => ?_⟩
      · cases same
        exact Pool.serves?_fill_here asking.ready.orderly
          (Pool.keyOf?_lt (asking.ready.orderly.placed _ _ placed)) placed
      · unfold enriched Rig.publishersFor
        rw [does_publishers]
        refine (List.filter_append _ _).trans ?_
        simp [Relay.binding,Ne.symm differs]
        rfl

def copied (w : World) (message : Message) : List Entry :=
  [.note (.mirrored w.line.relay.registry message.device message.subFolder),
    w.rig.receipt (message.bundle w.line.relay.registry)]

theorem copied_plain (w : World) (message : Message) :
    ∀ entry ∈ w.copied message, entry.plain = true := by
  refine List.forall_mem_cons.mpr ⟨rfl,List.forall_mem_singleton.mpr ?_⟩
  unfold Rig.receipt
  split <;> rfl

theorem copied_mirrored (takes : w.rig.Takes) (message : Message) :
    (w.copied message).filterMap Entry.mirrored? = [message.bundle w.line.relay.registry] := by
  unfold copied Rig.receipt
  rw [if_neg takes]
  rfl

theorem remains_mirrored (w : World) : w.remains.filterMap Entry.mirrored? = [] := by
  refine List.filterMap_eq_nil_iff.mpr fun entry member => ?_
  rcases mem_remains member with ⟨key,rfl⟩ | ⟨other,rfl⟩ | ⟨n,rfl⟩ <;> rfl

theorem Ready.mirror (ready : w.Ready) (message : Message) : (w.mirror message).Ready :=
  ready.does _ (w.copied_plain message)

theorem onto_mirror (w : World) (message : Message) :
    Onto w (w.mirror message) (w.copied message) [] :=
  onto_does w _ (Entry.plain_silent (w.copied_plain message))

theorem Onto.takes (onto : Onto w later entries told) (takes : w.rig.Takes) : later.rig.Takes := by
  unfold Rig.Takes
  rw [onto.sink,onto.shut]
  exact takes

theorem deliver_eq (w : World) (message : Message) (publisher : PublisherId) :
    w.deliver message publisher =
      if w.rig.publishers.any fun p => p.publisher == publisher && p.rejects then
        ((w.tell message publisher).does [.note (.sendFailed w.line.relay.registry message.device
          message.topic (.transport "publish rejected"))]).emptied.mirror message
      else (w.tell message publisher).mirror message := by
  unfold deliver Rig.send
  cases w.rig.publishers.any fun p => p.publisher == publisher && p.rejects <;> rfl

theorem deliver_publishers (w : World) (message : Message) (publisher : PublisherId) :
    (w.deliver message publisher).rig.publishers = w.rig.publishers := by
  rw [deliver_eq]
  split
  · rw [mirror,does_publishers,emptied,does_publishers]
    exact does_publishers _ _
  · exact does_publishers _ _

structure Delivered (w : World) (message : Message) (publisher : PublisherId) (later : World)
    (entries : List Entry) : Prop where
  ready : later.Ready
  onto : Onto w later entries [message]
  mirrored : w.rig.Takes → entries.filterMap Entry.mirrored? =
    [message.bundle w.line.relay.registry]
  told : ∀ other device topic payload, .published other device topic payload ∈ entries →
    other = publisher
  torn : (∃ p ∈ w.rig.publishers, p.publisher = publisher ∧ p.rejects = true) →
    later.line.state.pool.cached = []

theorem deliver_delivered (ready : w.Ready) (message : Message)
    (served : w.line.state.pool.serves? (w.line.relay.publisherKey message.device) =
      some publisher) :
    ∃ entries, w.Delivered message publisher (w.deliver message publisher) entries := by
  let fault : Event := .sendFailed w.line.relay.registry message.device message.topic
    (.transport "publish rejected")
  have inside : publisher ∈ w.line.state.pool.publishers :=
    (Pool.mem_publishers_iff ready.orderly).mpr ⟨_,served⟩
  have kept : (w.tell message publisher).Kept := ready.toKept.tell served (by
    rintro p member rejects rfl
    exact ready.untried p member rejects inside) message
  have told := onto_tell ready.toKept message served
  rw [deliver_eq]
  split
  · have failed := told.trans (onto_does _ [.note fault]
      (by simp [Entry.Silent,Rig.traces,Entry.message?]))
    have torn := failed.trans (onto_emptied _)
    refine ⟨_,(kept.does _ (by simp [Rig.traces,Entry.plain])).emptied_ready.mirror message,
      torn.trans (onto_mirror _ message),fun takes => ?_,?_,fun _ => rfl⟩
    · simp only [List.filterMap_append,remains_mirrored,copied_mirrored (torn.takes takes)]
      rfl
    · intro other device topic payload member
      rcases List.mem_append.mp member with torn | copied
      · rcases List.mem_append.mp torn with failed | remains
        · rcases List.mem_append.mp failed with here | noted
          · cases List.mem_singleton.mp here
            rfl
          · cases List.mem_singleton.mp noted
        · exact absurd remains (Entry.silent_untold (remains_silent _) _ _ _ _)
      · exact absurd copied (Entry.silent_untold (Entry.plain_silent (copied_plain _ _)) _ _ _ _)
  · rename_i accepts
    refine ⟨_,Ready.mirror ⟨kept,fun p member rejects cached => ?_⟩ message,
      told.trans (onto_mirror _ message),fun takes => ?_,?_,?_⟩
    · have differs : publisher ≠ p.publisher := by
        rintro rfl
        exact accepts (List.any_eq_true.mpr ⟨p,member,by simp [rejects]⟩)
      rw [messages_tell,if_neg differs,List.append_nil]
      exact ready.untried p member rejects cached
    · simp only [List.filterMap_append,copied_mirrored (told.takes takes)]
      rfl
    · intro other device topic payload member
      rcases List.mem_append.mp member with here | copied
      · cases List.mem_singleton.mp here
        rfl
      · exact absurd copied (Entry.silent_untold (Entry.plain_silent (copied_plain _ _)) _ _ _ _)
    · rintro ⟨p,member,rfl,rejects⟩
      exact absurd (List.any_eq_true.mpr ⟨p,member,by simp [rejects]⟩) accepts

theorem accepted_none (message? : Option Message) (quiet : entries.any Entry.acquires = false) :
    accepted message? entries = [] := by rw [accepted,quiet]; rfl

theorem accepted_some (message : Message) (found : entries.any Entry.acquires = true) :
    accepted (some message) entries = [message] := by rw [accepted,found]; rfl

-- What a call comes to that forwards a message or none. It is forwarded exactly if its publisher
-- is acquired, and is mirrored then.
structure Handled (w later : World) (message? : Option Message) (entries : List Entry) : Prop where
  ready : later.Ready
  onto : Onto w later entries (accepted message? entries)
  mirrored : w.rig.Takes → message?.isSome → entries.filterMap Entry.mirrored? =
    (accepted message? entries).map (·.bundle w.line.relay.registry)
  others : ∀ device, (∀ message, message? = some message → message.device ≠ device) →
    later.rig.publishersFor device = w.rig.publishersFor device
  torn : ∀ p ∈ later.rig.publishers, p.rejects = true → ∀ device topic payload,
    .published p.publisher device topic payload ∈ entries → later.line.state.pool.cached = []

theorem handled_dropped {message? : Option Message} (ready : later.Ready)
    (onto : Onto w later entries []) (silent : Entry.Silent entries)
    (dropped : accepted message? entries = [])
    (unmirrored : message?.isSome → entries.filterMap Entry.mirrored? = [])
    (same : ∀ device, (∀ message, message? = some message → message.device ≠ device) →
      later.rig.publishersFor device = w.rig.publishersFor device) :
    w.Handled later message? entries := by
  refine ⟨ready,?_,fun _ some => ?_,same,fun p _ _ device topic payload inside => ?_⟩
  · rw [dropped]
    exact onto
  · rw [dropped]
    exact unmirrored some
  · exact absurd inside (Entry.silent_untold silent _ _ _ _)

theorem forward_handled (ready : w.Ready) (message : Message) :
    ∃ entries, w.Handled (w.forward message) (some message) entries := by
  let event : Event := .sendAttempt w.line.relay.registry message.device message.subFolder
  have announced := past_note ready event
  obtain ⟨entries,acquired⟩ := acquire_acquired announced.ready message.device
  have through := announced.onto.trans acquired.onto
  unfold forward
  generalize (w.does [.note event]).acquire message.device = answer at *
  obtain ⟨publisher?,reached⟩ := answer
  have silent : Entry.Silent ([.note event] ++ entries) :=
    List.forall_mem_append.mpr ⟨announced.silent,acquired.silent⟩
  have same (device : String) (others : ∀ other, some message = some other →
      other.device ≠ device) : reached.rig.publishersFor device = w.rig.publishersFor device :=
    (acquired.others device (others message rfl).symm).trans (announced.publishersFor device)
  cases publisher? with
  | none =>
      have quiet : ([Entry.note event] ++ entries).any Entry.acquires = false := by
        rw [List.any_append,acquired.found]
        rfl
      have unmirrored : ([Entry.note event] ++ entries).filterMap Entry.mirrored? = [] := by
        rw [List.filterMap_append,acquired.unmirrored]
        rfl
      exact ⟨_,handled_dropped acquired.ready through silent (accepted_none _ quiet)
        (fun _ => unmirrored) same⟩
  | some publisher =>
      have served : reached.line.state.pool.serves?
          (reached.line.relay.publisherKey message.device) = some publisher := by
        rw [through.relay]
        exact acquired.serves publisher rfl
      obtain ⟨rest,delivered⟩ := deliver_delivered acquired.ready message served
      have one : accepted (some message) ([.note event] ++ entries ++ rest) = [message] :=
        accepted_some message (by rw [List.any_append,List.any_append,acquired.found]; simp)
      refine ⟨[.note event] ++ entries ++ rest,delivered.ready,?_,fun takes _ => ?_,?_,?_⟩
      · rw [one]
        exact through.trans delivered.onto
      · rw [one,List.filterMap_append,List.filterMap_append,acquired.unmirrored,
          delivered.mirrored (through.takes takes),through.relay]
        rfl
      · intro device others
        refine Eq.trans ?_ (same device others)
        unfold dispatch Rig.publishersFor
        rw [deliver_publishers]
      · intro p member rejects device topic payload inside
        change p ∈ (reached.deliver message publisher).rig.publishers at member
        rw [deliver_publishers] at member
        rcases List.mem_append.mp inside with early | late
        · exact absurd early (Entry.silent_untold silent _ _ _ _)
        · exact delivered.torn ⟨p,member,delivered.told _ _ _ _ late,rejects⟩

theorem ignore_handled (ready : w.Ready) (message : Message) :
    ∃ entries, w.Handled (w.ignore message.device message.subFolder) (some message) entries := by
  unfold ignore
  simp only
  split
  · exact ⟨[],handled_dropped ready (.refl w) (List.forall_mem_nil _) rfl (fun _ => rfl)
      fun _ _ => rfl⟩
  · let event : Event := .unknownDevice w.line.relay.registry message.device message.subFolder
    have ignoring := ready.vary (message.device :: w.line.state.ignored) w.rig.backend w.rig.script
      w.rig.rejectConnects w.rig.rejectSends w.rig.sinkClosed
    have noted := past_note ignoring event
    exact ⟨[.note event],handled_dropped noted.ready ((onto_vary w _ w.rig.backend).trans noted.onto)
      noted.silent rfl (fun _ => rfl) fun device _ => noted.publishersFor device⟩

theorem past_update (ready : w.Ready) (device payload : String) :
    ∃ entries, w.Past (w.update device payload) entries := by
  obtain ⟨backend,scripted,answers⟩ := w.rig.updateDevice_extends w.line.handle device payload
  have silent : Entry.Silent [.updated device payload scripted] := by
    simp [Entry.Silent,Entry.message?]
  have asked : w.Past { w with rig := (w.rig.updateDevice w.line.handle device payload).2 }
      [.updated device payload scripted] := by
    rw [answers]
    exact ⟨(ready.extend (by simp [Entry.plain])).vary _ backend _ _ _ _,
      (onto_extend w silent).trans (onto_vary _ _ backend),silent,rfl⟩
  unfold update
  generalize w.rig.updateDevice w.line.handle device payload = answer at asked ⊢
  obtain ⟨fault,rig⟩ := answer
  cases fault with
  | none => exact ⟨_,asked.trans (past_does asked.ready _ (copied_plain _ _))⟩
  | some fault => exact ⟨_,asked.trans (past_note asked.ready _)⟩

theorem past_receive (ready : w.Ready) (topic payload : String) :
    ∃ entries, w.Past (w.receive topic payload) entries := by
  have received := past_note ready (.received w.line.relay.registry topic)
  unfold receive
  simp only
  split
  · split
    · exact ⟨_,received.trans (past_note received.ready _)⟩
    · rename_i device _
      have asking := past_note received.ready (.configUpdate w.line.relay.registry device)
      obtain ⟨entries,updated⟩ := past_update asking.ready device payload
      exact ⟨_,received.trans (asking.trans updated)⟩
  · exact ⟨_,received.trans (past_note received.ready _)⟩

theorem Past.handled (past : w.Past later entries) : w.Handled later none entries :=
  handled_dropped past.ready past.onto past.silent (by simp [accepted]) nofun
    fun device _ => past.publishersFor device

theorem perform_handled (ready : w.Ready) (call : Call) :
    ∃ entries, w.Handled (w.perform call) call.message? entries := by
  cases call with
  | publish device subFolder data =>
      cases subFolder with
      | none => exact ⟨_,(past_note ready _).handled⟩
      | some subFolder =>
          cases known : w.line.relay.devices.contains device with
          | true =>
              simp only [perform,known,↓reduceIte]
              exact forward_handled ready ⟨device,subFolder,data⟩
          | false =>
              simp only [perform,known,Bool.false_eq_true,↓reduceIte]
              exact ignore_handled ready ⟨device,subFolder,data⟩
  | terminate progress after => exact ⟨_,(past_emptied ready).handled⟩
  | fault device fault =>
      have noted := past_note ready (.publisherError w.line.relay.registry device fault)
      exact ⟨_,(noted.trans (past_emptied noted.ready)).handled⟩
  | inbound topic payload =>
      obtain ⟨entries,past⟩ := past_receive ready topic payload
      exact ⟨entries,past.handled⟩
  | _ => exact ⟨[],(Past.refl ready).handled⟩

end Line.World
end RegistryRelay
