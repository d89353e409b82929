import Mathlib.Data.Prod.Basic
import Mathlib.Logic.Equiv.Basic
import RegistryRelay.Proofs.Bench.Sequence

namespace RegistryRelay
open Line (World)

variable {σ : Equiv.Perm PublisherId}

namespace Entry

def rename (σ : PublisherId → PublisherId) : Entry → Entry
  | .attempted n => .attempted (σ n)
  | .opened n binding => .opened (σ n) binding
  | .published n device topic payload => .published (σ n) device topic payload
  | .closed n => .closed (σ n)
  | entry => entry

def closes : Entry → Bool
  | .note (.publisherClosed _) | .closed _ => true
  | _ => false

-- Two stretches of journals tell the same, but for the numbers, and but for the order in which
-- publishers are closed.
structure Alike (σ : Equiv.Perm PublisherId) (entries entries' : List Entry) : Prop where
  rest : (entries.filter fun entry => !entry.closes).map (rename σ) =
    entries'.filter fun entry => !entry.closes
  all : (entries.map (rename σ)).Perm entries'

variable {entries entries' more more' : List Entry}

theorem closes_rename (entry : Entry) : (entry.rename σ).closes = entry.closes := by
  cases entry <;> rfl

theorem alike_map (entries : List Entry) : Alike σ entries (entries.map (rename σ)) := by
  refine ⟨?_,.refl _⟩
  rw [List.filter_map]
  congr 1
  refine List.filter_congr fun entry _ => ?_
  rw [Function.comp,closes_rename]

theorem alike_eq (same : entries' = entries.map (rename σ)) : Alike σ entries entries' :=
  same ▸ alike_map entries

theorem alike_nil : Alike σ [] [] := alike_map []

theorem Alike.append (first : Alike σ entries entries') (second : Alike σ more more') :
    Alike σ (entries ++ more) (entries' ++ more') := by
  refine ⟨?_,?_⟩
  · rw [List.filter_append,List.filter_append,List.map_append,first.rest,second.rest]
  · rw [List.map_append]
    exact first.all.append second.all

end Entry
namespace Pool

def served (pool : Pool) : List (PublisherKey × PublisherId) :=
  pool.cached.filterMap fun entry => (pool.held? entry.2).map (Prod.mk entry.1)

structure Renamed (σ : Equiv.Perm PublisherId) (pool pool' : Pool) : Prop where
  orderly : pool.Orderly
  orderly' : pool'.Orderly
  idle : ∀ slot, pool.content slot ≠ .opening
  idle' : ∀ slot, pool'.content slot ≠ .opening
  serves : ∀ key, pool'.serves? key = (pool.serves? key).map σ

variable {pool pool' : Pool} {key : PublisherKey} {publisher : PublisherId}

theorem mem_served (orderly : pool.Orderly) :
    (key,publisher) ∈ pool.served ↔ pool.serves? key = some publisher := by
  simp only [serves?_eq_some_iff orderly,served,List.mem_filterMap,Option.map_eq_some_iff,
    held?_eq_some_iff,Prod.mk.injEq,Prod.exists]
  constructor
  · rintro ⟨_,slot,member,_,held,rfl,rfl⟩
    exact ⟨slot,member,held⟩
  · rintro ⟨slot,member,held⟩
    exact ⟨key,slot,member,publisher,held,rfl,rfl⟩

theorem served_nodup (orderly : pool.Orderly) : pool.served.Nodup := by
  refine List.pairwise_filterMap.mpr ((List.pairwise_map.mp orderly.unique).imp ?_)
  intro one two differs _ first _ second same
  obtain ⟨_,_,rfl⟩ := Option.map_eq_some_iff.mp first
  obtain ⟨_,_,rfl⟩ := Option.map_eq_some_iff.mp second
  exact differs (Prod.mk.inj same).1

theorem size_served (pool : Pool) : pool.size = pool.served.length := by
  simp only [size,publishers,served,List.length_filterMap_eq_countP,Option.isSome_map]

theorem Renamed.served (renamed : Renamed σ pool pool') :
    (pool.served.map (Prod.map id σ)).Perm pool'.served := by
  refine (List.perm_ext_iff_of_nodup ?_ (served_nodup renamed.orderly')).mpr ?_
  · exact (served_nodup renamed.orderly).map (Function.injective_id.prodMap σ.injective)
  · rintro ⟨key,publisher⟩
    rw [mem_served renamed.orderly',renamed.serves]
    simp only [List.mem_map,Prod.exists,Prod.map,id,Prod.mk.injEq,mem_served renamed.orderly,
      Option.map_eq_some_iff]
    constructor
    · rintro ⟨_,old,serves,rfl,rfl⟩
      exact ⟨old,serves,rfl⟩
    · rintro ⟨old,serves,rfl⟩
      exact ⟨key,old,serves,rfl,rfl⟩

theorem Renamed.size (renamed : Renamed σ pool pool') : pool'.size = pool.size := by
  rw [size_served,size_served,← renamed.served.length_eq,List.length_map]

theorem Renamed.slotFor (renamed : Renamed σ pool pool') (key : PublisherKey) :
    Renamed σ (pool.slotFor key).1 (pool'.slotFor key).1 := by
  refine ⟨slotFor_orderly renamed.orderly,slotFor_orderly renamed.orderly',fun slot => ?_,
    fun slot => ?_,fun other => ?_⟩
  · rw [content_slotFor]
    exact renamed.idle slot
  · rw [content_slotFor]
    exact renamed.idle' slot
  · rw [serves?_slotFor renamed.orderly,serves?_slotFor renamed.orderly',renamed.serves]

theorem fill_idle (orderly : pool.Orderly) (idle : ∀ slot, pool.content slot ≠ .opening)
    {slot : SlotId} (placed : (key,slot) ∈ pool.cached) (publisher : PublisherId) :
    ∀ place, (pool.fill slot (.holds publisher)).content place ≠ .opening := by
  intro place
  rw [content_fill (keyOf?_lt (orderly.placed _ _ placed))]
  split
  · exact Content.noConfusion
  · exact idle place

theorem Renamed.fill (renamed : Renamed σ pool pool') {slot slot' : SlotId}
    (placed : (key,slot) ∈ pool.cached) (placed' : (key,slot') ∈ pool'.cached)
    (empty : pool.content slot = .empty) (empty' : pool'.content slot' = .empty)
    (publisher : PublisherId) :
    Renamed σ (pool.fill slot (.holds publisher)) (pool'.fill slot' (.holds (σ publisher))) := by
  refine ⟨fill_orderly renamed.orderly _,fill_orderly renamed.orderly' _,
    fill_idle renamed.orderly renamed.idle placed _,
    fill_idle renamed.orderly' renamed.idle' placed' _,fun other => ?_⟩
  rw [serves?_fill_empty renamed.orderly placed empty,
    serves?_fill_empty renamed.orderly' placed' empty',renamed.serves]
  split <;> rfl

theorem Renamed.drain (renamed : Renamed σ pool pool') :
    Renamed σ { pool with cached := [] } { pool' with cached := [] } :=
  ⟨drain_orderly,drain_orderly,renamed.idle,renamed.idle',fun _ => rfl⟩

end Pool

def OpenPublisher.rename (σ : PublisherId → PublisherId) (p : OpenPublisher) : OpenPublisher :=
  { p with publisher := σ p.publisher }

namespace Rig

abbrev Kin (rig rig' : Rig) : Prop :=
  rig' = { rig with
    attempts := rig'.attempts
    latest := rig'.latest
    publishers := rig'.publishers
    journal := rig'.journal }

-- Rigs that are the same but for the numbers of attempts and publishers, for the order in which
-- publishers of different devices were opened, and for the journal.
structure Renamed (σ : Equiv.Perm PublisherId) (rig rig' : Rig) : Prop where
  kin : rig.Kin rig'
  length : rig'.attempts.length = rig.attempts.length
  beyond : ∀ n, rig.attempts.length ≤ n → σ n = n
  attempts : ∀ n : Nat, rig'.attempts[σ n]? = rig.attempts[n]?
  filed : ∀ device n, rig.latest.get? device = some n → n < rig.attempts.length
  latest : ∀ device, rig'.latest.get? device = (rig.latest.get? device).map σ
  publishers : ∀ device,
    rig'.publishersFor device = (rig.publishersFor device).map (OpenPublisher.rename σ)

variable {rig rig' : Rig}

variable {near far : Rig}

theorem Kin.across (one : rig.Kin near) (two : rig.Kin far) : near.Kin far :=
  Eq.trans two (congrArg (fun rig : Rig => { rig with
    attempts := far.attempts
    latest := far.latest
    publishers := far.publishers
    journal := far.journal }) one.symm)

theorem Kin.trans (one : rig.Kin near) (two : near.Kin far) : rig.Kin far :=
  Eq.trans two (congrArg (fun rig : Rig => { rig with
    attempts := far.attempts
    latest := far.latest
    publishers := far.publishers
    journal := far.journal }) one)

theorem Kin.field {β : Type} (kin : rig.Kin rig') (f : Rig → β)
    (blind : ∀ (rig : Rig) attempts latest publishers journal,
      f { rig with attempts,latest,publishers,journal } = f rig) : f rig' = f rig :=
  (congrArg f kin).trans (blind rig _ _ _ _)

theorem Kin.fetched (kin : rig.Kin rig') (handle : Nat) (device : String) :
    (rig'.fetchDevice handle device).1 = (rig.fetchDevice handle device).1 := by
  refine kin.field (fun rig => (rig.fetchDevice handle device).1) fun rig _ _ _ _ => ?_
  cases scripted : rig.script.fetch.get? device <;> simp only [Rig.fetchDevice,scripted]

theorem fetchDevice_eq (rig : Rig) (handle : Nat) (device : String) :
    rig.fetchDevice handle device = ((rig.fetchDevice handle device).1,
      rig.extend [.fetched device (rig.script.fetch.get? device).isSome]) := by
  cases scripted : rig.script.fetch.get? device with
  | some fault =>
      simp only [Rig.fetchDevice,scripted]
      rfl
  | none =>
      simp only [Rig.fetchDevice,scripted]
      rfl

theorem Renamed.extend (renamed : Renamed σ rig rig') (entries entries' : List Entry) :
    Renamed σ (rig.extend entries) (rig'.extend entries') :=
  ⟨congrArg (fun rig : Rig => rig.extend entries') renamed.kin,renamed.length,renamed.beyond,
    renamed.attempts,renamed.filed,renamed.latest,renamed.publishers⟩

theorem Renamed.lt_iff (renamed : Renamed σ rig rig') (n : Nat) :
    σ n < rig.attempts.length ↔ n < rig.attempts.length := by
  constructor
  · intro below
    by_contra beyond
    have fixed := renamed.beyond n (Nat.not_lt.mp beyond)
    exact beyond (fixed ▸ below)
  · intro below
    by_contra beyond
    have fixed := renamed.beyond (σ n) (Nat.not_lt.mp beyond)
    exact beyond (by rwa [σ.injective fixed])

theorem Renamed.attempt (renamed : Renamed σ rig rig') (relay : Nat) (device : String) :
    Renamed σ (rig.beginAttempt relay device).2.2 (rig'.beginAttempt relay device).2.2 := by
  refine ⟨congrArg (fun rig : Rig => { rig with
      attempts := rig'.attempts ++ [(⟨relay,device⟩ : Listener)]
      connectHooks := rig.connectHooks.tail }) renamed.kin,?_,?_,?_,?_,renamed.latest,
    renamed.publishers⟩
  · simp only [beginAttempt,List.length_append,renamed.length]
  · intro n beyond
    refine renamed.beyond n (Nat.le_trans ?_ beyond)
    simp [beginAttempt]
  · intro n
    simp only [beginAttempt,List.getElem?_append,renamed.length,renamed.lt_iff,renamed.attempts]
    split
    · rfl
    · rename_i beyond
      rw [renamed.beyond n (Nat.not_lt.mp beyond)]
  · intro device n filed
    refine Nat.lt_of_lt_of_le (renamed.filed device n filed) ?_
    simp [beginAttempt]

theorem Renamed.welcome (renamed : Renamed σ rig rig') {n : PublisherId}
    (taken : n < rig.attempts.length) (binding : PublisherBinding) (rejects : Bool) :
    Renamed σ
      { rig with
        latest := rig.latest.put binding.device n
        publishers := rig.publishers ++ [⟨n,binding,rejects⟩] }
      { rig' with
        latest := rig'.latest.put binding.device (σ n)
        publishers := rig'.publishers ++ [⟨σ n,binding,rejects⟩] } := by
  refine ⟨congrArg (fun rig : Rig => { rig with
      latest := rig'.latest.put binding.device (σ n)
      publishers := rig'.publishers ++ [(⟨σ n,binding,rejects⟩ : OpenPublisher)] })
    renamed.kin,renamed.length,renamed.beyond,renamed.attempts,?_,?_,?_⟩
  · intro device number filed
    rw [Dict.get?_put] at filed
    split at filed
    · cases filed
      exact taken
    · exact renamed.filed device number filed
  · intro device
    rw [Dict.get?_put,Dict.get?_put,renamed.latest]
    split <;> rfl
  · intro device
    have before := renamed.publishers device
    simp only [publishersFor] at before ⊢
    rw [List.filter_append,List.filter_append,List.map_append,before]
    congr 1
    by_cases own : binding.device = device
    · simp [own,OpenPublisher.rename]
    · simp [own]

theorem Renamed.rejects (renamed : Renamed σ rig rig') (n : PublisherId) :
    (rig'.publishers.any fun p => p.publisher == σ n && p.rejects) =
      rig.publishers.any fun p => p.publisher == n && p.rejects := by
  rw [Bool.eq_iff_iff,List.any_eq_true,List.any_eq_true]
  have member (rig : Rig) (p : OpenPublisher) :
      p ∈ rig.publishersFor p.binding.device ↔ p ∈ rig.publishers := by
    simp [publishersFor]
  constructor
  · rintro ⟨p,inside,holds⟩
    rw [← member,renamed.publishers] at inside
    obtain ⟨q,own,rfl⟩ := List.mem_map.mp inside
    refine ⟨q,(member rig q).mp own,?_⟩
    simpa [OpenPublisher.rename] using holds
  · rintro ⟨q,inside,holds⟩
    rw [← member] at inside
    refine ⟨q.rename σ,(member rig' _).mp ?_,by simpa [OpenPublisher.rename] using holds⟩
    exact renamed.publishers _ ▸ List.mem_map_of_mem inside

theorem Renamed.fetchDevice (renamed : Renamed σ rig rig') (handle : Nat) (device : String) :
    rig'.fetchDevice handle device = ((rig.fetchDevice handle device).1,
      rig'.extend [.fetched device (rig.script.fetch.get? device).isSome]) := by
  have script : rig'.script = rig.script := renamed.kin.field Rig.script fun _ _ _ _ _ => rfl
  rw [fetchDevice_eq,renamed.kin.fetched,script]

theorem Renamed.turn (renamed : Renamed σ rig rig') (turn : Rig → Rig)
    (turns : ∀ (rig : Rig) attempts latest publishers journal,
      turn { rig with attempts,latest,publishers,journal } =
        { turn rig with attempts,latest,publishers,journal }) :
    Renamed σ (turn rig) (turn rig') := by
  have kept (rig : Rig) : turn rig = { turn rig with
      attempts := rig.attempts
      latest := rig.latest
      publishers := rig.publishers
      journal := rig.journal } := turns rig rig.attempts rig.latest rig.publishers rig.journal
  have turned := (congrArg turn renamed.kin).trans (turns rig _ _ _ _)
  rw [kept rig,kept rig']
  exact ⟨congrArg (fun after : Rig => { after with
      attempts := rig'.attempts
      latest := rig'.latest
      publishers := rig'.publishers
      journal := rig'.journal }) turned,renamed.length,renamed.beyond,renamed.attempts,
    renamed.filed,renamed.latest,renamed.publishers⟩

theorem Renamed.updateDevice (renamed : Renamed σ rig rig') (handle : Nat)
    (device payload : String) : ∃ scripted backend,
    rig.updateDevice handle device payload = ((rig.updateDevice handle device payload).1,
      { rig.extend [.updated device payload scripted] with backend }) ∧
    rig'.updateDevice handle device payload = ((rig.updateDevice handle device payload).1,
      { rig'.extend [.updated device payload scripted] with backend }) := by
  have script : rig'.script = rig.script := renamed.kin.field Rig.script fun _ _ _ _ _ => rfl
  have backend : rig'.backend = rig.backend := renamed.kin.field Rig.backend fun _ _ _ _ _ => rfl
  cases scripted : rig.script.update.get? device with
  | some fault =>
      refine ⟨true,rig.backend,?_,?_⟩
      · simp only [Rig.updateDevice,scripted]
        rfl
      · simp only [Rig.updateDevice,script,scripted,← backend]
        rfl
  | none =>
      refine ⟨false,(rig.updateDevice handle device payload).2.backend,?_,?_⟩
      all_goals
        simp only [Rig.updateDevice,script,scripted,Rig.record,Rig.extend,backend]
        generalize rig.backend = directory at backend ⊢
        cases directory with
        | recording devices rejects => simp only [← backend]
        | file file directory =>
            simp only
            split <;> simp only [← backend]

end Rig
namespace Line.World

theorem remains_served (w : World) : ∃ shut : List (PublisherKey × PublisherId),
    shut.Perm w.line.state.pool.served ∧ w.remains = shut.flatMap closing ++
      [.note (.terminated w.line.relay.registry w.line.state.pool.size)] := by
  refine ⟨_,w.drained_perm.filterMap _,?_⟩
  rw [remains,closings_shutting,List.flatMap_assoc]
  rfl

theorem does_extends (w : World) (acts : List Act) :
    w.does acts = { w with rig := w.rig.extend (acts.flatMap w.rig.traces) } := by
  rw [does,Rig.performAll_extends]

theorem credentials_eq (w : World) (device : String) :
    (w.withPool (w.line.state.pool.slotFor (w.line.relay.publisherKey device)).1).credentials
      device = ((w.credentials device).1,
        w.asked device (w.rig.script.fetch.get? device).isSome) := by
  refine Prod.ext rfl ?_
  exact congrArg (fun answer => { w.withPool (w.line.state.pool.slotFor
      (w.line.relay.publisherKey device)).1 with rig := answer.2 })
    (w.rig.fetchDevice_eq w.line.handle device)

theorem mirror_extends (w : World) (message : Message) :
    w.mirror message = { w with rig := w.rig.extend (w.copied message) } := by
  rw [mirror,does_extends]
  rfl

structure Renamed (σ : Equiv.Perm PublisherId) (w w' : World) : Prop where
  relay : w'.line.relay = w.line.relay
  number : w'.line.number = w.line.number
  handle : w'.line.handle = w.line.handle
  ignored : w.line.state.ignored.Perm w'.line.state.ignored
  pool : Pool.Renamed σ w.line.state.pool w'.line.state.pool
  rig : Rig.Renamed σ w.rig w'.rig

structure Along (σ : Equiv.Perm PublisherId) (past past' : List Entry) (w w' : World) : Prop
    extends Renamed σ w w' where
  added : ∃ entries entries', w.rig.journal = past ++ entries ∧
    w'.rig.journal = past' ++ entries' ∧ Entry.Alike σ entries entries'

variable {past past' entries entries' : List Entry} {w w' : World} {publisher : PublisherId}
  {device : String}

theorem Renamed.start (renamed : Renamed σ w w') : Along σ w.rig.journal w'.rig.journal w w' :=
  ⟨renamed,[],[],(List.append_nil _).symm,(List.append_nil _).symm,Entry.alike_nil⟩

theorem Renamed.copied (renamed : Renamed σ w w') (message : Message) :
    w'.copied message = (w.copied message).map (Entry.rename σ) := by
  have sink : w'.rig.sink = w.rig.sink := renamed.rig.kin.field Rig.sink fun _ _ _ _ _ => rfl
  have shut : w'.rig.sinkClosed = w.rig.sinkClosed :=
    renamed.rig.kin.field Rig.sinkClosed fun _ _ _ _ _ => rfl
  simp only [World.copied,Rig.receipt,sink,shut,renamed.relay]
  split <;> rfl

theorem Renamed.remains (renamed : Renamed σ w w') : Entry.Alike σ w.remains w'.remains := by
  obtain ⟨shut,same,here⟩ := w.remains_served
  obtain ⟨shut',same',there⟩ := w'.remains_served
  rw [here,there,renamed.relay,renamed.pool.size]
  refine Entry.Alike.append ⟨?_,?_⟩ (Entry.alike_map [.note (.terminated _ _)])
  · have none (served : List (PublisherKey × PublisherId)) :
        (served.flatMap closing).filter (fun entry => !entry.closes) = [] := by
      induction served with
      | nil => rfl
      | cons first served ih => rw [List.flatMap_cons,List.filter_append,ih]; rfl
    rw [none,none]
    rfl
  · have moved := (((same.map _).trans renamed.pool.served).trans same'.symm).flatMap_right closing
    rw [List.flatMap_map] at moved
    rw [List.map_flatMap]
    exact moved

section
variable (along : Along σ past past' w w')
include along

theorem Along.extend (alike : Entry.Alike σ entries entries') : Along σ past past'
    { w with rig := w.rig.extend entries } { w' with rig := w'.rig.extend entries' } := by
  obtain ⟨before,before',here,there,same⟩ := along.added
  refine ⟨{ along.toRenamed with rig := along.rig.extend _ _ },before ++ entries,
    before' ++ entries',?_,?_,same.append alike⟩
  · rw [← List.append_assoc,← here]
    rfl
  · rw [← List.append_assoc,← there]
    rfl

theorem Along.note (event : Event) :
    Along σ past past' (w.does [.note event]) (w'.does [.note event]) :=
  along.extend (Entry.alike_map [.note event])

theorem Along.mirror (message : Message) :
    Along σ past past' (w.mirror message) (w'.mirror message) := by
  rw [mirror_extends,mirror_extends]
  exact along.extend (Entry.alike_eq (along.copied message))

theorem Along.withPool {pool pool' : Pool} (renamed : Pool.Renamed σ pool pool') :
    Along σ past past' (w.withPool pool) (w'.withPool pool') :=
  { along with pool := renamed }

theorem Along.emptied : Along σ past past' w.emptied w'.emptied := by
  rw [emptied_extends,emptied_extends]
  exact (along.withPool along.pool.drain).extend along.remains

theorem Along.deliver (message : Message) (publisher : PublisherId) :
    Along σ past past' (w.deliver message publisher) (w'.deliver message (σ publisher)) := by
  have told : Along σ past past' (w.tell message publisher) (w'.tell message (σ publisher)) :=
    along.extend (Entry.alike_map [.published publisher _ _ _])
  rw [deliver_eq,deliver_eq,along.rig.rejects,along.relay]
  split
  · exact (told.note _).emptied.mirror message
  · exact told.mirror message

theorem Along.attempt (device : String) :
    Along σ past past' (w.attempt device) (w'.attempt device) := by
  have fixed := along.rig.beyond _ (Nat.le_refl _)
  have tried : Along σ past past' { w with rig := (w.rig.beginAttempt w.line.number device).2.2 }
      { w' with rig := (w'.rig.beginAttempt w.line.number device).2.2 } :=
    { along with rig := along.rig.attempt w.line.number device }
  have numbered : Entry.Alike σ [.attempted w.rig.attempts.length]
      [.attempted w'.rig.attempts.length] := by
    refine Entry.alike_eq ?_
    rw [along.rig.length,List.map_singleton,Entry.rename,fixed]
  have same : w'.attempt device = { w' with
      rig := (w'.rig.beginAttempt w.line.number device).2.2.extend
        [.attempted w'.rig.attempts.length] } := by
    rw [World.attempt,along.number]
    rfl
  rw [same]
  exact tried.extend numbered

theorem Along.asked (device : String) (scripted : Bool) :
    Along σ past past' (w.asked device scripted) (w'.asked device scripted) := by
  have looked := along.withPool (along.pool.slotFor (w.line.relay.publisherKey device))
  have asks := looked.extend (Entry.alike_map [.fetched device scripted])
  unfold World.asked
  rw [along.relay]
  exact asks

theorem Along.enriched {slot slot' : SlotId} (bound : PublisherBinding)
    (placed : (w.line.relay.publisherKey device,slot) ∈ w.line.state.pool.cached)
    (placed' : (w.line.relay.publisherKey device,slot') ∈ w'.line.state.pool.cached)
    (empty : w.line.state.pool.content slot = .empty)
    (empty' : w'.line.state.pool.content slot' = .empty) :
    Along σ past past' (w.enriched device bound slot) (w'.enriched device bound slot') := by
  have fixed := along.rig.beyond _ (Nat.le_refl _)
  have trying := along.attempt device
  have taken : w.rig.attempts.length < (w.attempt device).rig.attempts.length := by
    simp [World.attempt,Rig.beginAttempt,Rig.record]
  have rejects : w'.rig.rejectSends = w.rig.rejectSends :=
    along.rig.kin.field Rig.rejectSends fun _ _ _ _ _ => rfl
  have welcomed : Along σ past past'
      ((w.attempt device).welcome ⟨w.rig.attempts.length,bound,w.rig.rejectSends⟩)
      ((w'.attempt device).welcome ⟨σ w.rig.attempts.length,bound,w.rig.rejectSends⟩) :=
    { trying with rig := trying.rig.welcome taken bound w.rig.rejectSends }
  have filled := welcomed.withPool
    (along.pool.fill placed placed' empty empty' w.rig.attempts.length)
  have told := filled.extend (Entry.alike_map [.opened w.rig.attempts.length bound,
    .note (.publisherCreated (w.line.relay.publisherKey device))])
  simp only [List.map_cons,List.map_nil,Entry.rename,fixed] at told
  unfold World.enriched
  rw [along.rig.length,along.relay,rejects,does_extends,does_extends]
  exact told

theorem Along.credentials (device : String) :
    (w'.withPool (w'.line.state.pool.slotFor (w'.line.relay.publisherKey device)).1).credentials
      device = ((w.credentials device).1,
        w'.asked device (w.rig.script.fetch.get? device).isSome) := by
  simp only [World.credentials,World.asked,World.withPool,along.handle,along.rig.fetchDevice]

theorem Along.acquire (device : String) :
    (w'.acquire device).1 = (w.acquire device).1.map σ ∧
    Along σ past past' (w.acquire device).2 (w'.acquire device).2 := by
  have key : w'.line.relay.publisherKey device = w.line.relay.publisherKey device := by
    rw [along.relay]
  have serves := along.pool.serves (w.line.relay.publisherKey device)
  cases served : w.line.state.pool.serves? (w.line.relay.publisherKey device) with
  | some publisher =>
      have served' : w'.line.state.pool.serves? (w'.line.relay.publisherKey device) =
          some (σ publisher) := by rw [key,serves,served]; rfl
      rw [acquire_reused served,acquire_reused served',key]
      exact ⟨rfl,along.note _⟩
  | none =>
      have served' : w'.line.state.pool.serves? (w'.line.relay.publisherKey device) = none := by
        rw [key,serves,served]
        rfl
      rw [acquire_created served,acquire_created served']
      unfold create
      rw [w.credentials_eq device,along.credentials device]
      generalize (w.rig.script.fetch.get? device).isSome = scripted
      have asking := along.asked device scripted
      cases (w.credentials device).1 with
      | error fault =>
          refine ⟨rfl,?_⟩
          simp only [asking.relay]
          exact asking.note _
      | ok material =>
          have connects : (w'.asked device scripted).rig.rejectConnects =
              (w.asked device scripted).rig.rejectConnects :=
            asking.rig.kin.field Rig.rejectConnects fun _ _ _ _ _ => rfl
          simp only [establish_eq,connects,asking.relay]
          split
          · exact ⟨rfl,(asking.attempt device).note _⟩
          · refine ⟨?_,?_⟩
            · rw [Option.map_some,asking.rig.length,
                asking.rig.beyond _ (Nat.le_refl _)]
            · rw [key]
              exact asking.enriched _ (Pool.mem_slotFor.mpr (.inr rfl))
                (key ▸ Pool.mem_slotFor.mpr (.inr rfl))
                ((Pool.content_slotFor _).trans
                  (Pool.slotFor_empty along.pool.orderly along.pool.idle served))
                ((Pool.content_slotFor _).trans
                  (Pool.slotFor_empty along.pool.orderly' along.pool.idle' (key ▸ served')))

theorem Along.forward (message : Message) :
    Along σ past past' (w.forward message) (w'.forward message) := by
  have announced := along.note
    (.sendAttempt w.line.relay.registry message.device message.subFolder)
  obtain ⟨same,acquired⟩ := announced.acquire message.device
  unfold World.forward
  rw [along.relay]
  generalize (w.does _).acquire message.device = here at same acquired ⊢
  generalize (w'.does _).acquire message.device = there at same acquired ⊢
  obtain ⟨publisher?,reached⟩ := here
  obtain ⟨_,reached'⟩ := there
  cases same
  cases publisher? with
  | none => exact acquired
  | some publisher => exact acquired.deliver message publisher

theorem Along.ignore (device subFolder : String) :
    Along σ past past' (w.ignore device subFolder) (w'.ignore device subFolder) := by
  have seen : w'.line.state.ignored.contains device = w.line.state.ignored.contains device := by
    rw [Bool.eq_iff_iff,List.contains_iff_mem,List.contains_iff_mem,along.ignored.mem_iff]
  have event : Event.unknownDevice w'.line.relay.registry device subFolder =
      .unknownDevice w.line.relay.registry device subFolder := by rw [along.relay]
  unfold World.ignore
  simp only [seen,event]
  split
  · exact along
  · have ignoring : Along σ past past'
        ⟨{ w.line with state :=
          { w.line.state with ignored := device :: w.line.state.ignored } },w.rig⟩
        ⟨{ w'.line with state :=
          { w'.line.state with ignored := device :: w'.line.state.ignored } },w'.rig⟩ :=
      { along with ignored := along.ignored.cons device }
    exact ignoring.note _

theorem Along.update (device payload : String) :
    Along σ past past' (w.update device payload) (w'.update device payload) := by
  obtain ⟨scripted,backend,here,there⟩ := along.rig.updateDevice w.line.handle device payload
  have asked := along.extend (Entry.alike_map [.updated device payload scripted])
  have taken : Along σ past past'
      { w with rig := { w.rig.extend [.updated device payload scripted] with backend } }
      { w' with rig := { w'.rig.extend [.updated device payload scripted] with backend } } :=
    { asked with rig := asked.rig.turn (fun rig => { rig with backend }) fun _ _ _ _ _ => rfl }
  unfold World.update
  rw [along.handle,here,there]
  cases (w.rig.updateDevice w.line.handle device payload).1 with
  | none => exact taken.mirror _
  | some fault =>
      simp only [along.relay]
      exact taken.note _

theorem Along.receive (topic payload : String) :
    Along σ past past' (w.receive topic payload) (w'.receive topic payload) := by
  have received := along.note (.received w.line.relay.registry topic)
  unfold World.receive
  simp only [along.relay]
  split
  · split
    · exact received.note _
    · exact (received.note _).update _ payload
  · exact received.note _

theorem Along.perform (call : Call) :
    Along σ past past' (w.perform call) (w'.perform call) := by
  cases call with
  | publish device subFolder data =>
      cases subFolder with
      | none =>
          simp only [World.perform,along.relay]
          exact along.note _
      | some subFolder =>
          simp only [World.perform,along.relay]
          split
          · exact along.forward _
          · exact along.ignore _ _
  | terminate progress after => exact along.emptied
  | fault device fault =>
      simp only [World.perform,along.relay]
      exact (along.note _).emptied
  | inbound topic payload => exact along.receive topic payload
  | _ => exact along

end
end Line.World
end RegistryRelay
