import RegistryRelay.Proofs.Bench.Publishing
import RegistryRelay.Proofs.Bench.Renaming

namespace RegistryRelay.Line.World

-- What a message that is published does to a world: whether its device is ignored from now on,
-- what became of an attempt, if one was made, and what is left of it in the journal. The number
-- of the attempt is still open.
structure Effect where
  ignores : Bool := false
  attempt : Option (Option PublisherBinding) := none
  entries : PublisherId → List Entry

def Effect.opened? (effect : Effect) : Option PublisherBinding := effect.attempt.join

def Effect.numbers (effect : Effect) : Nat := if effect.attempt.isSome then 1 else 0

def Effect.opens (effect : Effect) (n : PublisherId) (rejects : Bool) : List OpenPublisher :=
  (effect.opened?.map fun binding => ⟨n,binding,rejects⟩).toList

def handed (w : World) (message : Message) (publisher : PublisherId) : List Entry :=
  .published publisher message.device message.topic message.data :: w.copied message

def forwarding (w : World) (message : Message) : Effect :=
  let key := w.line.relay.publisherKey message.device
  let registry := w.line.relay.registry
  let start := [Entry.note (.sendAttempt registry message.device message.subFolder)]
  match w.line.state.pool.serves? key with
  | some publisher =>
      { entries := fun _ => start ++ [.note (.publisherReused key)] ++ w.handed message publisher }
  | none =>
      let asked := start ++
        [.fetched message.device (w.rig.script.fetch.get? message.device).isSome]
      match (w.credentials message.device).1 with
      | .error fault =>
          { entries := fun _ => asked ++ [.note (.publisherFailed registry message.device fault)] }
      | .ok material =>
          if w.rig.rejectConnects then
            { attempt := some none
              entries := fun n => asked ++ [.attempted n] ++
                [.note (.publisherFailed registry message.device (.transport "connect rejected"))] }
          else
            let binding := w.line.relay.binding message.device material
            { attempt := some (some binding)
              entries := fun n => asked ++
                [.attempted n,.opened n binding,.note (.publisherCreated key)] ++
                  w.handed message n }

def effect (w : World) (device : String) (data : String) : Option String → Effect
  | none => { entries := fun _ => [.note (.noSubFolder w.line.relay.registry device)] }
  | some subFolder =>
      if w.line.relay.devices.contains device then w.forwarding ⟨device,subFolder,data⟩
      else if w.line.state.ignored.contains device then { entries := fun _ => [] }
      else
        { ignores := true
          entries := fun _ => [.note (.unknownDevice w.line.relay.registry device subFolder)] }

structure Gains (w later : World) (device : String) (effect : Effect) : Prop where
  relay : later.line.relay = w.line.relay
  number : later.line.number = w.line.number
  handle : later.line.handle = w.line.handle
  kin : w.rig.Kin later.rig
  ignored : later.line.state.ignored =
    if effect.ignores then device :: w.line.state.ignored else w.line.state.ignored
  serves : ∀ key, later.line.state.pool.serves? key =
    if effect.opened?.isSome ∧ key = w.line.relay.publisherKey device then
      some w.rig.attempts.length
    else w.line.state.pool.serves? key
  attempts : later.rig.attempts = w.rig.attempts ++
    List.replicate effect.numbers ⟨w.line.number,device⟩
  latest : ∀ other, later.rig.latest.get? other =
    if effect.opened?.isSome ∧ other = device then some w.rig.attempts.length
    else w.rig.latest.get? other
  publishers : later.rig.publishers = w.rig.publishers ++
    effect.opens w.rig.attempts.length w.rig.rejectSends
  journal : later.rig.journal = w.rig.journal ++ effect.entries w.rig.attempts.length

variable {w later : World} {device other : String} {message : Message}

-- None of the publishers in the pool is going to reject anything: all of them have been told
-- something before, and the first one that rejects has everything torn down.
theorem Ready.accepts (ready : w.Ready) (told : w.rig.Told none) {key : PublisherKey}
    {publisher : PublisherId} (served : w.line.state.pool.serves? key = some publisher) :
    ¬(w.rig.publishers.any fun p => p.publisher == publisher && p.rejects) = true := by
  intro rejecting
  obtain ⟨p,member,holds⟩ := List.any_eq_true.mp rejecting
  obtain ⟨same,rejects⟩ := Bool.and_eq_true_iff.mp holds
  cases beq_iff_eq.mp same
  have untold := ready.untried p member rejects
    ((Pool.mem_publishers_iff ready.orderly).mpr ⟨key,served⟩)
  rcases (told.heard p.publisher).mp (List.mem_map_of_mem member) with heard | none
  · exact heard untold
  · cases none

theorem Ready.accepts_new (ready : w.Ready) (off : w.rig.rejectSends = false)
    (binding : PublisherBinding) :
    ¬((w.rig.publishers ++ [(⟨w.rig.attempts.length,binding,w.rig.rejectSends⟩ :
        OpenPublisher)]).any fun p => p.publisher == w.rig.attempts.length && p.rejects) = true := by
  intro rejecting
  obtain ⟨p,member,holds⟩ := List.any_eq_true.mp rejecting
  obtain ⟨same,rejects⟩ := Bool.and_eq_true_iff.mp holds
  rcases List.mem_append.mp member with old | new
  · exact absurd (beq_iff_eq.mp same) (Nat.ne_of_lt (ready.begun p old))
  · cases List.mem_singleton.mp new
    exact absurd (off.symm.trans rejects) Bool.false_ne_true

theorem deliver_accepted {publisher : PublisherId}
    (accepts : ¬(w.rig.publishers.any fun p => p.publisher == publisher && p.rejects) = true)
    (message : Message) : w.deliver message publisher =
      { w with rig := w.rig.extend (w.handed message publisher) } := by
  rw [deliver_eq,if_neg accepts,mirror_extends]
  exact congrArg (fun rig => { w with rig }) (Rig.extend_extend _ _)

theorem Gains.start (w : World) (device : String) : w.Gains w device { entries := fun _ => [] } :=
  ⟨rfl,rfl,rfl,rfl,rfl,fun _ => rfl,(List.append_nil _).symm,fun _ => rfl,
    (List.append_nil _).symm,(List.append_nil _).symm⟩

variable {effect : Effect}

theorem Gains.extend (gains : w.Gains later device effect) (more : PublisherId → List Entry) :
    w.Gains { later with rig := later.rig.extend (more w.rig.attempts.length) } device
      { effect with entries := fun n => effect.entries n ++ more n } :=
  { gains with
    kin := congrArg (fun rig : Rig => rig.extend (more w.rig.attempts.length)) gains.kin
    journal := by
      rw [← List.append_assoc,← gains.journal]
      rfl }

theorem Gains.withPool (gains : w.Gains later device effect) {pool : Pool}
    (same : ∀ key, pool.serves? key = later.line.state.pool.serves? key) :
    w.Gains (later.withPool pool) device effect :=
  { gains with serves := fun key => (same key).trans (gains.serves key) }

theorem Gains.attempt (gains : w.Gains later device effect) (first : effect.attempt = none)
    (idle : later.rig.connectHooks = []) :
    w.Gains (later.attempt device) device
      { effect with
        attempt := some none
        entries := fun n => effect.entries n ++ [.attempted n] } := by
  have attempts : later.rig.attempts = w.rig.attempts := by
    rw [gains.attempts,Effect.numbers,first]
    exact List.append_nil _
  have unopened : effect.opened? = none := by rw [Effect.opened?,first]; rfl
  have quiet : later.rig.connectHooks.tail = later.rig.connectHooks := by rw [idle]; rfl
  have tried : later.attempt device = { later with rig := { later.rig with
      attempts := w.rig.attempts ++ [(⟨w.line.number,device⟩ : Listener)]
      journal := later.rig.journal ++ [.attempted w.rig.attempts.length] } } := by
    simp only [World.attempt,Rig.beginAttempt,Rig.record,attempts,gains.number,quiet]
  rw [tried]
  refine ⟨gains.relay,gains.number,gains.handle,?_,gains.ignored,?_,rfl,?_,?_,?_⟩
  · exact congrArg (fun rig : Rig => { rig with
      attempts := w.rig.attempts ++ [(⟨w.line.number,device⟩ : Listener)]
      journal := later.rig.journal ++ [Entry.attempted w.rig.attempts.length] }) gains.kin
  · intro key
    have serves := gains.serves key
    rwa [unopened] at serves
  · intro other
    have latest := gains.latest other
    rwa [unopened] at latest
  · have publishers := gains.publishers
    rwa [Effect.opens,unopened] at publishers
  · rw [← List.append_assoc,← gains.journal]

theorem Gains.welcome (gains : w.Gains later device effect) (tried : effect.attempt = some none)
    {slot : SlotId} {binding : PublisherBinding} (own : binding.device = device)
    (orderly : later.line.state.pool.Orderly)
    (placed : (w.line.relay.publisherKey device,slot) ∈ later.line.state.pool.cached)
    (empty : later.line.state.pool.content slot = .empty) :
    w.Gains ((later.welcome ⟨w.rig.attempts.length,binding,w.rig.rejectSends⟩).withPool
        (later.line.state.pool.fill slot (.holds w.rig.attempts.length))) device
      { effect with attempt := some (some binding) } := by
  have unopened : effect.opened? = none := by rw [Effect.opened?,tried]; rfl
  refine ⟨gains.relay,gains.number,gains.handle,?_,gains.ignored,?_,?_,?_,?_,gains.journal⟩
  · exact congrArg (fun rig : Rig => { rig with
      latest := later.rig.latest.put binding.device w.rig.attempts.length
      publishers := later.rig.publishers ++
        [(⟨w.rig.attempts.length,binding,w.rig.rejectSends⟩ : OpenPublisher)] }) gains.kin
  · intro key
    have serves := gains.serves key
    rw [unopened] at serves
    refine (Pool.serves?_fill_empty orderly placed empty _ key).trans ?_
    rw [serves]
    simp [Effect.opened?]
  · refine gains.attempts.trans ?_
    rw [Effect.numbers,Effect.numbers,tried]
    rfl
  · intro other
    have latest := gains.latest other
    rw [unopened] at latest
    refine (Dict.get?_put _ _ _ _).trans ?_
    rw [latest,own]
    simp [Effect.opened?]
  · have publishers := gains.publishers
    rw [Effect.opens,unopened] at publishers
    change later.rig.publishers ++ _ = _
    rw [publishers]
    exact congrArg (· ++ _) (List.append_nil _)

theorem Gains.deliver (gains : w.Gains later message.device effect)
    (publisher : PublisherId → PublisherId)
    (accepts : ¬(later.rig.publishers.any fun p =>
      p.publisher == publisher w.rig.attempts.length && p.rejects) = true) :
    w.Gains (later.deliver message (publisher w.rig.attempts.length)) message.device
      { effect with entries := fun n => effect.entries n ++ w.handed message (publisher n) } := by
  have copied : later.handed message (publisher w.rig.attempts.length) =
      w.handed message (publisher w.rig.attempts.length) := by
    have receipt : later.rig.receipt = w.rig.receipt :=
      gains.kin.field Rig.receipt fun _ _ _ _ _ => rfl
    simp only [handed,World.copied,gains.relay,receipt]
  rw [deliver_accepted accepts,copied]
  exact gains.extend fun n => w.handed message (publisher n)

theorem forward_gains (ready : w.Ready) (told : w.rig.Told none) (off : w.rig.rejectSends = false)
    (message : Message) : w.Gains (w.forward message) message.device (w.forwarding message) := by
  let key := w.line.relay.publisherKey message.device
  let slot := (w.line.state.pool.slotFor key).2
  let start := Entry.note (.sendAttempt w.line.relay.registry message.device message.subFolder)
  let a := w.does
    [.note (.sendAttempt w.line.relay.registry message.device message.subFolder)]
  have announced : w.Gains a message.device { entries := fun _ => [start] } :=
    (Gains.start w message.device).extend fun _ => [start]
  change w.Gains (dispatch message (a.acquire message.device)) _ _
  unfold forwarding
  simp only
  cases served : w.line.state.pool.serves? (w.line.relay.publisherKey message.device) with
  | some publisher =>
      rw [acquire_reused (w := a) served]
      have reused := announced.extend fun _ => [.note (.publisherReused key)]
      exact reused.deliver (fun _ => publisher) (ready.accepts told served)
  | none =>
      have same (other : PublisherKey) : (w.line.state.pool.slotFor key).1.serves? other =
          a.line.state.pool.serves? other := Pool.serves?_slotFor ready.orderly
      have looked := announced.withPool same
      have asked := looked.extend fun _ =>
        [.fetched message.device (w.rig.script.fetch.get? message.device).isSome]
      have answered : (a.credentials message.device).1 = (w.credentials message.device).1 := by
        simp only [credentials,announced.kin.fetched]
        rfl
      rw [acquire_created (w := a) served]
      unfold create
      rw [a.credentials_eq,answered]
      cases (w.credentials message.device).1 with
      | error fault =>
          exact asked.extend fun _ =>
            [.note (.publisherFailed w.line.relay.registry message.device fault)]
      | ok material =>
          have tried := asked.attempt rfl ready.connects
          simp only [establish_eq]
          change w.Gains (dispatch message (if w.rig.rejectConnects then _ else _)) _ _
          split
          · exact tried.extend fun _ => [.note (.publisherFailed w.line.relay.registry
              message.device (.transport "connect rejected"))]
          · let binding := w.line.relay.binding message.device material
            have welcomed := tried.welcome rfl (show binding.device = message.device from rfl)
              (Pool.slotFor_orderly ready.orderly) (Pool.mem_slotFor.mpr (.inr rfl))
              ((Pool.content_slotFor slot).trans
                (Pool.slotFor_empty ready.orderly ready.idle served))
            have opened := welcomed.extend fun n =>
              [.opened n binding,.note (.publisherCreated key)]
            have delivered := opened.deliver (fun n => n) (ready.accepts_new off binding)
            unfold World.enriched
            rw [does_extends]
            exact delivered

theorem perform_gains (ready : w.Ready) (told : w.rig.Told none) (off : w.rig.rejectSends = false)
    (device data : String) (subFolder : Option String) :
    w.Gains (w.perform (.publish device subFolder data)) device
      (w.effect device data subFolder) := by
  cases subFolder with
  | none => exact (Gains.start w device).extend fun _ =>
      [.note (.noSubFolder w.line.relay.registry device)]
  | some subFolder =>
      simp only [perform,effect]
      split
      · exact forward_gains ready told off _
      · unfold ignore
        simp only
        split
        · exact Gains.start w device
        · have ignoring : w.Gains ⟨{ w.line with state :=
              { w.line.state with ignored := device :: w.line.state.ignored } },w.rig⟩ device
              { ignores := true, entries := fun _ => [] } :=
            ⟨rfl,rfl,rfl,rfl,rfl,fun _ => rfl,(List.append_nil _).symm,fun _ => rfl,
              (List.append_nil _).symm,(List.append_nil _).symm⟩
          exact ignoring.extend fun _ =>
            [.note (.unknownDevice w.line.relay.registry device subFolder)]

theorem publisherKey_device {relay : Relay} {one two : String}
    (same : relay.publisherKey one = relay.publisherKey two) : one = two :=
  congrArg PublisherKey.device same

-- What a message does hangs on nothing that a message of another device has changed.
theorem Gains.effect_same (gains : w.Gains later other effect) (differs : device ≠ other)
    (data : String) (subFolder : Option String) :
    later.effect device data subFolder = w.effect device data subFolder := by
  have receipt : later.rig.receipt = w.rig.receipt :=
    gains.kin.field Rig.receipt fun _ _ _ _ _ => rfl
  have script : later.rig.script = w.rig.script := gains.kin.field Rig.script fun _ _ _ _ _ => rfl
  have connects : later.rig.rejectConnects = w.rig.rejectConnects :=
    gains.kin.field Rig.rejectConnects fun _ _ _ _ _ => rfl
  have serves : later.line.state.pool.serves? (w.line.relay.publisherKey device) =
      w.line.state.pool.serves? (w.line.relay.publisherKey device) := by
    rw [gains.serves,if_neg]
    rintro ⟨_,same⟩
    exact differs (publisherKey_device same)
  have seen : later.line.state.ignored.contains device = w.line.state.ignored.contains device := by
    rw [gains.ignored]
    split
    · simp [differs]
    · rfl
  have credentials : (later.credentials device).1 = (w.credentials device).1 := by
    simp only [World.credentials,gains.handle,gains.kin.fetched]
  cases subFolder with
  | none => simp only [World.effect,gains.relay]
  | some subFolder =>
      simp only [World.effect,forwarding,handed,World.copied,gains.relay,receipt,script,connects,
        serves,seen,credentials]

theorem handed_rename (σ : PublisherId → PublisherId) (message : Message) (publisher : PublisherId) :
    (w.handed message publisher).map (Entry.rename σ) = w.handed message (σ publisher) := by
  unfold handed World.copied Rig.receipt
  split <;> rfl

theorem effect_rename {σ : PublisherId → PublisherId} {n m : PublisherId}
    (fixed : ∀ publisher, w.line.state.pool.serves? (w.line.relay.publisherKey device) =
      some publisher → σ publisher = publisher) (data : String) (subFolder : Option String)
    (moved : (w.effect device data subFolder).attempt.isSome → σ n = m) :
    ((w.effect device data subFolder).entries n).map (Entry.rename σ) =
      (w.effect device data subFolder).entries m := by
  cases subFolder with
  | none => rfl
  | some subFolder =>
      simp only [effect] at moved ⊢
      split
      · rename_i known
        simp only [known,↓reduceIte,forwarding] at moved ⊢
        cases served : w.line.state.pool.serves? (w.line.relay.publisherKey device) with
        | some publisher =>
            simp only [List.map_append,handed_rename,fixed publisher served]
            rfl
        | none =>
            simp only [served] at moved ⊢
            cases credentials : (w.credentials device).1 with
            | error fault => rfl
            | ok material =>
                simp only [credentials] at moved ⊢
                by_cases connects : w.rig.rejectConnects = true
                · simp only [connects,↓reduceIte] at moved ⊢
                  rw [← moved rfl]
                  rfl
                · simp only [connects,Bool.false_eq_true,↓reduceIte] at moved ⊢
                  rw [← moved rfl,List.map_append,handed_rename]
                  rfl
      · split <;> rfl

theorem message?_rename {σ : PublisherId → PublisherId} {publisher : PublisherId}
    (missed : ∀ n, σ n ≠ publisher) (entry : Entry) :
    (entry.rename σ).message? publisher = none := by
  cases entry with
  | published n => exact if_neg (missed n)
  | _ => rfl

theorem effect_silent {n publisher : PublisherId} (data : String) (subFolder : Option String)
    (unserved : w.line.state.pool.serves? (w.line.relay.publisherKey device) ≠ some publisher)
    (untried : (w.effect device data subFolder).attempt.isSome → n ≠ publisher) :
    ((w.effect device data subFolder).entries n).filterMap (Entry.message? publisher) = [] := by
  let σ (other : PublisherId) : PublisherId := if other = publisher then publisher + 1 else other
  have missed (other : PublisherId) : σ other ≠ publisher := by
    simp only [σ]
    split
    · exact Nat.succ_ne_self publisher
    · assumption
  have fixed : ((w.effect device data subFolder).entries n).map (Entry.rename σ) =
      (w.effect device data subFolder).entries n := by
    refine effect_rename (fun other served => if_neg ?_) data subFolder fun tried =>
      if_neg (untried tried)
    rintro rfl
    exact unserved served
  rw [← fixed,List.filterMap_map]
  exact List.filterMap_eq_nil_iff.mpr fun entry _ => message?_rename missed entry

theorem effect_told {n publisher : PublisherId} {data : String} {subFolder : Option String}
    (told : ((w.effect device data subFolder).entries n).filterMap
      (Entry.message? publisher) ≠ []) :
    w.line.state.pool.serves? (w.line.relay.publisherKey device) = some publisher ∨
      ((w.effect device data subFolder).attempt.isSome ∧ n = publisher) := by
  by_contra neither
  obtain ⟨unserved,untried⟩ := not_or.mp neither
  exact told (effect_silent data subFolder unserved fun tried same => untried ⟨tried,same⟩)

theorem effect_own {data : String} {subFolder : Option String} {binding : PublisherBinding}
    (opened : (w.effect device data subFolder).opened? = some binding) :
    binding.device = device := by
  unfold effect forwarding Effect.opened? at opened
  simp only at opened
  repeat' split at opened
  all_goals cases opened
  rfl

end RegistryRelay.Line.World
