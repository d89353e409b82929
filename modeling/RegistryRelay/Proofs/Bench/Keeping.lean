import RegistryRelay.Proofs.Bench.Solo

namespace RegistryRelay.Line.World

structure Serving (w : World) (key : PublisherKey) (publisher : PublisherId) : Prop where
  newest : ∃ device front bound rejects, key = w.line.relay.publisherKey device ∧
    w.rig.publishersFor device = front ++ [⟨publisher,bound,rejects⟩]
  unclosed : w.rig.closeCount publisher = 0

-- What is true whenever no message is being handed over. A publisher is open as long as it is
-- in the pool, and once it has left, it was closed exactly once.
structure Kept (w : World) : Prop extends Settled w where
  own : ∀ listener ∈ w.rig.attempts, listener.relay = w.line.number
  distinct : (w.rig.publishers.map OpenPublisher.publisher).Nodup
  begun : ∀ p ∈ w.rig.publishers, p.publisher < w.rig.attempts.length
  unused : ∀ n, w.rig.attempts.length ≤ n → w.rig.closeCount n = 0 ∧ w.rig.messages n = []
  serving : ∀ key publisher, w.line.state.pool.serves? key = some publisher →
    w.Serving key publisher
  closed : ∀ p ∈ w.rig.publishers,
    (∀ key, w.line.state.pool.serves? key ≠ some p.publisher) → w.rig.closeCount p.publisher = 1
  tried : ∀ p ∈ w.rig.publishers, p.rejects = true → (w.rig.messages p.publisher).length ≤ 1
  opened : w.rig.journal.filterMap Entry.opened? =
    w.rig.publishers.map fun p => (p.publisher,p.binding)
  spaced : Spaced w.rig.journal
  cleared : ∀ device, w.line.state.pool.serves? (w.line.relay.publisherKey device) = none →
    Cleared w.rig.journal device

-- What is true between two calls: whoever is still in the pool has not failed anyone.
structure Ready (w : World) : Prop extends Kept w where
  untried : ∀ p ∈ w.rig.publishers, p.rejects = true →
    p.publisher ∈ w.line.state.pool.publishers → w.rig.messages p.publisher = []

variable {w : World} {entries : List Entry} {device : String} {publisher : PublisherId}

theorem Kept.extend (kept : w.Kept) (plain : ∀ entry ∈ entries, entry.plain = true) :
    Kept { w with rig := w.rig.extend entries } := by
  refine ⟨⟨kept.orderly,kept.idle,kept.connects,kept.sends⟩,kept.own,kept.distinct,kept.begun,
    ?_,?_,?_,?_,?_,?_,?_⟩
  · intro n beyond
    rw [Rig.closeCount_plain plain,Rig.messages_plain plain]
    exact kept.unused n beyond
  · intro key publisher served
    refine ⟨(kept.serving key publisher served).newest,?_⟩
    rw [Rig.closeCount_plain plain]
    exact (kept.serving key publisher served).unclosed
  · intro p member away
    rw [Rig.closeCount_plain plain]
    exact kept.closed p member away
  · intro p member rejects
    rw [Rig.messages_plain plain]
    exact kept.tried p member rejects
  · have unopened : ∀ entry ∈ entries, entry.opened? = none :=
      fun entry member => Entry.plain_opened (plain entry member)
    exact (Rig.opened_append unopened).trans kept.opened
  · exact kept.spaced.append fun entry member => Entry.plain_opens (plain entry member)
  · intro device unserved
    exact (kept.cleared device unserved).append fun entry member =>
      Entry.plain_opens (plain entry member) device

theorem Kept.withPool (kept : w.Kept) {pool : Pool} (orderly : pool.Orderly)
    (idle : ∀ slot, pool.content slot ≠ .opening)
    (same : ∀ key, pool.serves? key = w.line.state.pool.serves? key) : (w.withPool pool).Kept := by
  refine ⟨⟨orderly,idle,kept.connects,kept.sends⟩,kept.own,kept.distinct,kept.begun,kept.unused,
    ?_,?_,kept.tried,kept.opened,kept.spaced,?_⟩
  · intro key publisher served
    have before := kept.serving key publisher ((same key).symm.trans served)
    exact ⟨before.newest,before.unclosed⟩
  · intro p member away
    exact kept.closed p member fun key served => away key ((same key).trans served)
  · intro device unserved
    exact kept.cleared device ((same _).symm.trans unserved)

theorem Kept.look (kept : w.Kept) (key : PublisherKey) :
    (w.withPool (w.line.state.pool.slotFor key).1).Kept :=
  kept.withPool (Pool.slotFor_orderly kept.orderly)
    (fun slot => by rw [Pool.content_slotFor]; exact kept.idle slot)
    fun _ => Pool.serves?_slotFor kept.orderly

theorem Kept.does (kept : w.Kept) (acts : List Act)
    (plain : ∀ entry ∈ acts.flatMap w.rig.traces, entry.plain = true) : (w.does acts).Kept := by
  rw [World.does,Rig.performAll_extends]
  exact kept.extend plain

theorem Kept.attempt (kept : w.Kept) (device : String) : (w.attempt device).Kept := by
  have longer : w.rig.attempts.length ≤
      (w.rig.attempts ++ [(⟨w.line.number,device⟩ : Listener)]).length := by simp
  have numbered : Kept { w with rig := (w.rig.beginAttempt w.line.number device).2.2 } := by
    refine ⟨⟨kept.orderly,kept.idle,?_,kept.sends⟩,?_,kept.distinct,?_,?_,?_,kept.closed,
      kept.tried,kept.opened,kept.spaced,kept.cleared⟩
    · simp only [Rig.beginAttempt,kept.connects,List.tail_nil]
    · intro listener member
      rcases List.mem_append.mp member with old | new
      · exact kept.own listener old
      · cases List.mem_singleton.mp new
        rfl
    · intro p member
      exact Nat.lt_of_lt_of_le (kept.begun p member) longer
    · intro n beyond
      exact kept.unused n (Nat.le_trans longer beyond)
    · intro key publisher served
      exact ⟨(kept.serving key publisher served).newest,(kept.serving key publisher served).unclosed⟩
  exact numbered.extend (by simp [Entry.plain])

theorem closings_count (rig : Rig) (pool : Pool) (drained : List (PublisherKey × SlotId))
    (publisher : PublisherId) :
    ((closings pool drained).flatMap rig.traces).countP (· == .closed publisher) =
      (drained.filterMap fun entry => pool.held? entry.2).count publisher := by
  induction drained with
  | nil => rfl
  | cons entry drained ih =>
      cases held : pool.held? entry.2 with
      | none => simpa [closings,held] using ih
      | some other =>
          simp only [closings] at ih
          simp [closings,held,Rig.traces,List.count_cons,List.countP_cons,ih]

def remains (w : World) : List Entry :=
  (closings w.line.state.pool w.drained).flatMap w.rig.traces ++
    [.note (.terminated w.line.relay.registry w.line.state.pool.size)]

theorem emptied_extends (w : World) : w.emptied =
    { w.withPool { w.line.state.pool with cached := [] } with rig := w.rig.extend w.remains } := by
  simp only [emptied,does,Rig.performAll_extends,List.flatMap_append]
  rfl

theorem mem_remains {entry : Entry} (member : entry ∈ w.remains) :
    (∃ key, entry = .note (.publisherClosed key)) ∨ (∃ publisher, entry = .closed publisher) ∨
      ∃ n, entry = .note (.terminated w.line.relay.registry n) := by
  rcases List.mem_append.mp member with closing | last
  · obtain ⟨act,performed,left⟩ := List.mem_flatMap.mp closing
    obtain ⟨drained,_,closes⟩ := List.mem_flatMap.mp performed
    split at closes
    · rename_i publisher held
      rcases List.mem_cons.mp closes with rfl | last
      · exact .inl ⟨_,List.mem_singleton.mp left⟩
      · cases List.mem_singleton.mp last
        exact .inr (.inl ⟨publisher,List.mem_singleton.mp left⟩)
    · cases closes
  · exact .inr (.inr ⟨_,List.mem_singleton.mp last⟩)

theorem remains_silent (w : World) : Entry.Silent w.remains := by
  intro entry member publisher
  rcases mem_remains member with ⟨key,rfl⟩ | ⟨other,rfl⟩ | ⟨n,rfl⟩ <;> rfl

theorem remains_count (w : World) (publisher : PublisherId) :
    w.remains.countP (· == .closed publisher) = w.line.state.pool.publishers.count publisher := by
  rw [remains,List.countP_append,closings_count,(w.drained_perm.filterMap _).count_eq]
  rfl

theorem Serving.member {key : PublisherKey} (serving : w.Serving key publisher) :
    ∃ p ∈ w.rig.publishers, p.publisher = publisher := by
  obtain ⟨device,front,bound,rejects,_,newest⟩ := serving.newest
  exact ⟨_,(Rig.newest_member newest).1,rfl⟩

theorem Kept.apart (kept : w.Kept) (publisher : PublisherId) (key other : PublisherKey)
    (one : w.line.state.pool.serves? key = some publisher)
    (two : w.line.state.pool.serves? other = some publisher) : key = other := by
  obtain ⟨device,front,bound,rejects,rfl,newest⟩ := (kept.serving key publisher one).newest
  obtain ⟨device',front',bound',rejects',rfl,newest'⟩ := (kept.serving other publisher two).newest
  obtain ⟨member,own⟩ := Rig.newest_member newest
  obtain ⟨member',own'⟩ := Rig.newest_member newest'
  cases List.inj_on_of_nodup_map kept.distinct member member' rfl
  rw [← own,← own']

theorem Kept.counted (kept : w.Kept) : w.line.state.pool.publishers.Nodup :=
  Pool.publishers_nodup kept.orderly kept.apart

theorem Kept.emptied (kept : w.Kept) : w.emptied.Kept := by
  have tells (publisher : PublisherId) : (w.rig.extend w.remains).messages publisher =
      w.rig.messages publisher := Rig.messages_silent w.remains_silent publisher
  have unopened : ∀ entry ∈ w.remains, entry.opened? = none := by
    intro entry member
    rcases mem_remains member with ⟨key,rfl⟩ | ⟨other,rfl⟩ | ⟨n,rfl⟩ <;> rfl
  have closes (publisher : PublisherId) : (w.rig.extend w.remains).closeCount publisher =
      w.rig.closeCount publisher + w.line.state.pool.publishers.count publisher := by
    rw [Rig.closeCount_extend,remains_count]
  rw [emptied_extends]
  refine ⟨⟨Pool.drain_orderly,kept.idle,kept.connects,kept.sends⟩,kept.own,kept.distinct,kept.begun,
    ?_,?_,?_,?_,?_,?_,?_⟩
  · intro n beyond
    have absent : n ∉ w.line.state.pool.publishers := by
      intro inside
      obtain ⟨key,served⟩ := (Pool.mem_publishers_iff kept.orderly).mp inside
      obtain ⟨p,member,rfl⟩ := (kept.serving key n served).member
      exact absurd (kept.begun p member) (Nat.not_lt.mpr beyond)
    rw [closes,tells,List.count_eq_zero.mpr absent]
    exact kept.unused n beyond
  · intro key publisher served
    cases served
  · intro p member _
    rw [closes]
    by_cases inside : p.publisher ∈ w.line.state.pool.publishers
    · obtain ⟨key,served⟩ := (Pool.mem_publishers_iff kept.orderly).mp inside
      rw [(kept.serving key _ served).unclosed,List.count_eq_one_of_mem kept.counted inside]
    · rw [List.count_eq_zero.mpr inside]
      exact kept.closed p member fun key served =>
        inside ((Pool.mem_publishers_iff kept.orderly).mpr ⟨key,served⟩)
  · intro p member rejects
    rw [tells]
    exact kept.tried p member rejects
  · exact (Rig.opened_append unopened).trans kept.opened
  · exact kept.spaced.append fun entry member device => by rw [Entry.opens,unopened entry member]; rfl
  · intro device _
    have rest := cleared_teardown
      (w.rig.journal ++ (closings w.line.state.pool w.drained).flatMap w.rig.traces)
      (.note (.terminated w.line.relay.registry w.line.state.pool.size)) rfl device
    rwa [List.append_assoc] at rest

structure Vacant (w : World) (n : PublisherId) : Prop where
  taken : n < w.rig.attempts.length
  free : ∀ p ∈ w.rig.publishers, p.publisher ≠ n
  unclosed : w.rig.closeCount n = 0
  untold : w.rig.messages n = []

theorem Kept.vacant (kept : w.Kept) (device : String) :
    (w.attempt device).Vacant w.rig.attempts.length := by
  have plain : ∀ entry ∈ [Entry.attempted w.rig.attempts.length], entry.plain = true := by
    simp [Entry.plain]
  have unused := kept.unused _ (Nat.le_refl _)
  refine ⟨?_,?_,?_,?_⟩
  · simp [World.attempt,Rig.beginAttempt,Rig.record]
  · intro p member
    exact Nat.ne_of_lt (kept.begun p member)
  · exact (Rig.closeCount_plain plain _).trans unused.1
  · exact (Rig.messages_plain plain _).trans unused.2

def welcome (w : World) (p : OpenPublisher) : World :=
  { w with
    rig := { w.rig with
      latest := w.rig.latest.put p.binding.device p.publisher
      publishers := w.rig.publishers ++ [p] } }

theorem connect_eq (w : World) (device : String) (bound : PublisherBinding) :
    w.connect device bound =
      if w.rig.rejectConnects then (.error (.transport "connect rejected"),w.attempt device)
      else (.ok w.rig.attempts.length,
        (w.attempt device).welcome ⟨w.rig.attempts.length,bound,w.rig.rejectSends⟩) := by
  simp only [connect,Rig.openPublisher]
  split
  · rename_i on
    exact (if_pos on).symm
  · rename_i off
    exact (if_neg off).symm

theorem Kept.opening (kept : w.Kept) {slot : SlotId} {bound : PublisherBinding} {n : PublisherId}
    (placed : (w.line.relay.publisherKey bound.device,slot) ∈ w.line.state.pool.cached)
    (empty : w.line.state.pool.content slot = .empty)
    (unserved : w.line.state.pool.serves? (w.line.relay.publisherKey bound.device) = none)
    (vacant : w.Vacant n) (rejects : Bool) :
    (((w.welcome ⟨n,bound,rejects⟩).withPool (w.line.state.pool.fill slot (.holds n))).does
      [.opened n bound,.note (.publisherCreated (w.line.relay.publisherKey bound.device))]).Kept := by
  let new : OpenPublisher := ⟨n,bound,rejects⟩
  let key := w.line.relay.publisherKey bound.device
  let entries : List Entry := [.opened n bound,.note (.publisherCreated key)]
  have made := Pool.keyOf?_lt (kept.orderly.placed _ _ placed)
  have fills (other : PublisherKey) : (w.line.state.pool.fill slot (.holds n)).serves? other =
      if other = key then some n else w.line.state.pool.serves? other :=
    Pool.serves?_fill_empty kept.orderly placed empty n other
  have others {device : String} (differs : bound.device ≠ device) :
      (w.rig.publishers ++ [new]).filter (fun p => p.binding.device == device) =
        w.rig.publishersFor device := by
    simp [List.filter_append,new,differs,Rig.publishersFor]
  have silent : Entry.Silent entries := by simp [entries,Entry.Silent,Entry.message?]
  have told (publisher : PublisherId) : (w.rig.extend entries).messages publisher =
      w.rig.messages publisher := Rig.messages_silent silent publisher
  have closes (publisher : PublisherId) : (w.rig.extend entries).closeCount publisher =
      w.rig.closeCount publisher := by
    rw [Rig.closeCount_extend]
    rfl
  rw [World.does,Rig.performAll_extends]
  refine ⟨⟨Pool.fill_orderly kept.orderly _,?_,kept.connects,kept.sends⟩,kept.own,?_,?_,?_,?_,?_,?_,
    ?_,?_,?_⟩
  · intro place
    change (w.line.state.pool.fill slot (.holds n)).content place ≠ .opening
    rw [Pool.content_fill made]
    split
    · simp
    · exact kept.idle place
  · change ((w.rig.publishers ++ [new]).map OpenPublisher.publisher).Nodup
    rw [List.map_append]
    refine List.nodup_append.mpr ⟨kept.distinct,by simp,?_⟩
    intro a before b last same
    obtain ⟨p,member,rfl⟩ := List.mem_map.mp before
    exact vacant.free p member (same.trans (List.mem_singleton.mp last))
  · intro p member
    rcases List.mem_append.mp member with old | last
    · exact kept.begun p old
    · cases List.mem_singleton.mp last
      exact vacant.taken
  · intro m beyond
    have unused := kept.unused m beyond
    exact ⟨(closes m).trans unused.1,(told m).trans unused.2⟩
  · intro other publisher served
    have found := (fills other).symm.trans served
    split at found
    · rename_i same
      cases found
      -- The new publisher comes last of all, so it is the newest of its device.
      refine ⟨⟨bound.device,w.rig.publishersFor bound.device,bound,rejects,same,?_⟩,
        (closes n).trans vacant.unclosed⟩
      exact (List.filter_append _ _).trans (congrArg _ (List.filter_eq_self.mpr (by simp)))
    · rename_i apart
      have before := kept.serving other publisher found
      obtain ⟨device,front,bound',rejects',rfl,newest⟩ := before.newest
      refine ⟨⟨device,front,bound',rejects',rfl,?_⟩,(closes publisher).trans before.unclosed⟩
      exact (others fun equal => apart (by rw [← equal])).trans newest
  · intro p member gone
    rcases List.mem_append.mp member with old | last
    · refine (closes _).trans (kept.closed p old fun other served => gone other ?_)
      refine (fills other).trans ((if_neg ?_).trans served)
      rintro rfl
      cases unserved.symm.trans served
    · cases List.mem_singleton.mp last
      exact absurd ((fills key).trans (if_pos rfl)) (gone key)
  · intro p member refuses
    refine (congrArg List.length (told _)).trans_le ?_
    rcases List.mem_append.mp member with old | last
    · exact kept.tried p old refuses
    · cases List.mem_singleton.mp last
      exact Nat.le_trans (Nat.le_of_eq (congrArg List.length vacant.untold)) (Nat.zero_le _)
  · change (w.rig.journal ++ entries).filterMap Entry.opened? =
      (w.rig.publishers ++ [new]).map fun p => (p.publisher,p.binding)
    rw [List.filterMap_append,List.map_append,kept.opened]
    rfl
  · -- The device was not served, so none was opened for it since the last teardown.
    change Spaced (w.rig.journal ++ ([_] ++ [_]))
    rw [← List.append_assoc]
    refine Spaced.append (kept.spaced.concat fun device opens => ?_) (by simp [Entry.opens,Entry.opened?])
    cases beq_iff_eq.mp opens
    exact kept.cleared _ unserved
  · intro device unserved'
    have missing := (fills _).symm.trans unserved'
    split at missing
    · cases missing
    · rename_i apart
      have differs : bound.device ≠ device := by
        rintro rfl
        exact apart rfl
      refine (kept.cleared device missing).append ?_
      simp [Entry.opens,Entry.opened?,Rig.traces,differs]

def tell (w : World) (message : Message) (publisher : PublisherId) : World :=
  { w with
    rig := w.rig.extend [.published publisher message.device message.topic message.data] }

theorem messages_tell (w : World) (message : Message) (publisher other : PublisherId) :
    (w.tell message publisher).rig.messages other = w.rig.messages other ++
      if publisher = other then [(message.device,message.topic,message.data)] else [] :=
  Rig.messages_published _ _ _ _ _

theorem Kept.tell (kept : w.Kept) {key : PublisherKey}
    (served : w.line.state.pool.serves? key = some publisher)
    (untried : ∀ p ∈ w.rig.publishers, p.rejects = true → p.publisher = publisher →
      w.rig.messages publisher = []) (message : Message) : (w.tell message publisher).Kept := by
  have closes (other : PublisherId) :
      (w.tell message publisher).rig.closeCount other = w.rig.closeCount other :=
    Rig.closeCount_extend _ _
  have unopened : ∀ entry ∈ [Entry.published publisher message.device message.topic message.data],
      ∀ device, entry.opens device = false := by simp [Entry.opens,Entry.opened?]
  refine ⟨⟨kept.orderly,kept.idle,kept.connects,kept.sends⟩,kept.own,kept.distinct,kept.begun,
    ?_,?_,?_,?_,?_,kept.spaced.append unopened,?_⟩
  · intro n beyond
    obtain ⟨p,member,rfl⟩ := (kept.serving key publisher served).member
    have differs : p.publisher ≠ n := Nat.ne_of_lt (Nat.lt_of_lt_of_le (kept.begun p member) beyond)
    rw [closes,messages_tell,if_neg differs,List.append_nil]
    exact kept.unused n beyond
  · intro other p found
    exact ⟨(kept.serving other p found).newest,(closes p).trans (kept.serving other p found).unclosed⟩
  · intro p member gone
    exact (closes _).trans (kept.closed p member gone)
  · intro p member rejects
    rw [messages_tell]
    split
    · rename_i same
      rw [← same,untried p member rejects same.symm]
      exact Nat.le_refl 1
    · rw [List.append_nil]
      exact kept.tried p member rejects
  · exact (Rig.opened_append (by simp [Entry.opened?])).trans kept.opened
  · intro device unserved
    exact (kept.cleared device unserved).append fun entry member => unopened entry member device

theorem Ready.extend (ready : w.Ready) (plain : ∀ entry ∈ entries, entry.plain = true) :
    Ready { w with rig := w.rig.extend entries } := by
  refine ⟨ready.toKept.extend plain,fun p member rejects inside => ?_⟩
  rw [Rig.messages_plain plain]
  exact ready.untried p member rejects inside

theorem Ready.does (ready : w.Ready) (acts : List Act)
    (plain : ∀ entry ∈ acts.flatMap w.rig.traces, entry.plain = true) : (w.does acts).Ready := by
  rw [World.does,Rig.performAll_extends]
  exact ready.extend plain

theorem Ready.look (ready : w.Ready) (key : PublisherKey) :
    (w.withPool (w.line.state.pool.slotFor key).1).Ready := by
  refine ⟨ready.toKept.look key,fun p member rejects inside => ready.untried p member rejects ?_⟩
  obtain ⟨other,served⟩ := (Pool.mem_publishers_iff (Pool.slotFor_orderly ready.orderly)).mp inside
  rw [Pool.serves?_slotFor ready.orderly] at served
  exact (Pool.mem_publishers_iff ready.orderly).mpr ⟨other,served⟩

theorem Ready.attempt (ready : w.Ready) (device : String) : (w.attempt device).Ready := by
  have plain : ∀ entry ∈ [Entry.attempted w.rig.attempts.length], entry.plain = true := by
    simp [Entry.plain]
  refine ⟨ready.toKept.attempt device,fun p member rejects inside => ?_⟩
  exact (Rig.messages_plain plain _).trans (ready.untried p member rejects inside)

theorem Kept.emptied_ready (kept : w.Kept) : w.emptied.Ready := by
  refine ⟨kept.emptied,fun p member rejects inside => ?_⟩
  obtain ⟨key,served⟩ := (Pool.mem_publishers_iff kept.emptied.orderly).mp inside
  cases served

theorem Ready.vary (ready : w.Ready) (ignored : List String) (backend : Backend) (script : Script)
    (rejectConnects rejectSends sinkClosed : Bool) :
    Ready ⟨{ w.line with state := { w.line.state with ignored } },
      { w.rig with backend,script,rejectConnects,rejectSends,sinkClosed }⟩ :=
  ⟨⟨⟨ready.orderly,ready.idle,ready.connects,ready.sends⟩,ready.own,ready.distinct,ready.begun,
    ready.unused,
    fun key publisher served =>
      ⟨(ready.serving key publisher served).newest,(ready.serving key publisher served).unclosed⟩,
    ready.closed,ready.tried,ready.opened,ready.spaced,ready.cleared⟩,ready.untried⟩

end RegistryRelay.Line.World
