import RegistryRelay.Proofs.Bench.Sequence

namespace RegistryRelay
open Line (World)

namespace Line.World

variable {w : World} {device : String}

theorem fetchDevice_same (rig : Rig) (entries : List Entry) (handle : Nat) (device : String) :
    ((rig.extend entries).fetchDevice handle device).1 = (rig.fetchDevice handle device).1 := by
  cases scripted : rig.script.fetch.get? device <;>
    simp only [Rig.fetchDevice,Rig.extend,scripted]

theorem acquire_creates {found : Device} {material : KeyMaterial}
    (unserved : w.line.state.pool.serves? (w.line.relay.publisherKey device) = none)
    (fetched : (w.rig.fetchDevice w.line.handle device).1 = .ok found)
    (key : found.keyMaterial = .ok material) (connects : w.rig.rejectConnects = false) :
    ∃ scripted, w.acquire device = (some w.rig.attempts.length,
      (w.asked device scripted).enriched device (w.line.relay.binding device material)
        (w.line.state.pool.slotFor (w.line.relay.publisherKey device)).2) := by
  let looked := w.withPool (w.line.state.pool.slotFor (w.line.relay.publisherKey device)).1
  obtain ⟨scripted,asks⟩ := looked.credentials_extends device
  have credentials : looked.credentials device = (.ok material,w.asked device scripted) := by
    refine Prod.ext ?_ asks
    change ((w.rig.fetchDevice w.line.handle device).1.bind Device.keyMaterial) = _
    rw [fetched]
    exact key
  refine ⟨scripted,?_⟩
  rw [acquire_created unserved]
  unfold create
  rw [credentials]
  have accepts : ¬(w.asked device scripted).rig.rejectConnects = true := by
    rw [asked,World.withPool,Rig.extend,connects]
    exact Bool.false_ne_true
  exact (establish_eq _ _ _ _).trans (if_neg accepts)

theorem forward_opens (message : Message) {found : Device}
    {material : KeyMaterial}
    (unserved : w.line.state.pool.serves? (w.line.relay.publisherKey message.device) = none)
    (fetched : (w.rig.fetchDevice w.line.handle message.device).1 = .ok found)
    (key : found.keyMaterial = .ok material) (connects : w.rig.rejectConnects = false) :
    (w.forward message).rig.publishers = w.rig.publishers ++
      [⟨w.rig.attempts.length,w.line.relay.binding message.device material,w.rig.rejectSends⟩] := by
  let event : Event := .sendAttempt w.line.relay.registry message.device message.subFolder
  obtain ⟨scripted,acquires⟩ := acquire_creates (w := w.does [.note event]) unserved
    ((fetchDevice_same w.rig [.note event] _ _).trans fetched) key connects
  unfold forward
  rw [acquires]
  refine (deliver_publishers _ _ _).trans ?_
  rw [enriched,does_publishers]
  rfl

end Line.World

namespace Bench

-- A command that leaves the relay without publishers: a teardown, an error that a publisher
-- reports, or a message that its publisher rejects.
def tearsDown (b : Bench) (command : Command) : Prop :=
  match command with
  | .operate (.terminate 0) => True
  | .operate (.error name _) => (b.listener? name).isSome
  | .operate (.publish ..) => ∃ p ∈ (b.perform command).1.rig.publishers, p.rejects = true ∧
      ∃ device topic payload, .published p.publisher device topic payload ∈ b.added command
  | _ => False

def Bare (b : Bench) : Prop :=
  ∃ line ignored, b.place 0 = .occupied line ∧ line.state.pool.cached = [] ∧
    b.status 0 = some (0,ignored)

variable {b : Bench} {line : Line} {command : Command}

theorem Steady.bare (steady : b.Steady line) (empty : line.state.pool.cached = []) : b.Bare := by
  refine ⟨line,ascending line.state.ignored,steady.place,empty,?_⟩
  rw [status,steady.place]
  simp only [Pool.size,Pool.publishers,empty]
  rfl

theorem tearsDown_bare (steady : b.Steady line) (plain : command.isPlain = true)
    (tears : b.tearsDown command) : (b.perform command).1.Bare := by
  unfold tearsDown at tears
  split at tears
  · have calls : b.call? (.operate (.terminate 0)) = some .terminating := rfl
    obtain ⟨entries,follows⟩ := call_follows steady calls
    exact follows.steady.bare rfl
  · rename_i name fault
    obtain ⟨found,listens⟩ := Option.isSome_iff_exists.mp tears
    have calls : b.call? (.operate (.error name fault)) = some (.fault found.device fault) :=
      Option.map_eq_some_iff.mpr ⟨found,listens,rfl⟩
    obtain ⟨entries,follows⟩ := call_follows steady calls
    exact follows.steady.bare rfl
  · obtain ⟨next,entries,follows⟩ := perform_follows steady plain
    obtain ⟨p,member,rejects,device,topic,payload,told⟩ := tears
    rw [follows.added] at told
    exact follows.steady.bare (follows.torn p member rejects device topic payload told)
  · exact tears.elim

theorem Steady.closed_once (steady : b.Steady line) {p : OpenPublisher}
    (member : p ∈ b.rig.publishers) : b.rig.closeCount p.publisher =
      if p.publisher ∈ line.state.pool.publishers then 0 else 1 := by
  have orderly := steady.ready.orderly
  split
  · rename_i inside
    obtain ⟨key,serves⟩ := (Pool.mem_publishers_iff orderly).mp inside
    exact (steady.ready.serving key _ serves).unclosed
  · rename_i outside
    exact steady.ready.closed p member fun key serves =>
      outside ((Pool.mem_publishers_iff orderly).mpr ⟨key,serves⟩)

structure Extends (b later : Bench) (line next : Line) : Prop where
  steady : later.Steady next
  relay : next.relay = line.relay
  publishers : b.rig.publishers <+: later.rig.publishers
  journal : b.rig.journal <+: later.rig.journal

theorem performs_extends (steady : b.Steady line) (commands : List Command)
    (plain : ∀ command ∈ commands, command.isPlain = true) :
    ∃ next, b.Extends (b.performs commands) line next := by
  induction commands generalizing b line with
  | nil => exact ⟨line,steady,rfl,List.prefix_rfl,List.prefix_rfl⟩
  | cons command rest ih =>
      obtain ⟨next,entries,follows⟩ := perform_follows steady (plain command (.head _))
      obtain ⟨last,extended⟩ := ih follows.steady fun other member => plain other (.tail _ member)
      have grown : b.rig.journal <+: (b.perform command).1.rig.journal := by
        rw [follows.journal]
        exact List.prefix_append _ _
      exact ⟨last,extended.steady,extended.relay.trans follows.relay,
        follows.publishers.trans extended.publishers,grown.trans extended.journal⟩

theorem performs_others (steady : b.Steady line) (commands : List Command)
    (plain : ∀ command ∈ commands, command.isPlain = true) (device : String)
    (others : ∀ command ∈ commands, ∀ message, command.message? = some message →
      message.device ≠ device) :
    (b.performs commands).rig.publishersFor device = b.rig.publishersFor device := by
  induction commands generalizing b line with
  | nil => rfl
  | cons command rest ih =>
      obtain ⟨next,entries,follows⟩ := perform_follows steady (plain command (.head _))
      exact (ih follows.steady (fun other member => plain other (.tail _ member))
        fun other member => others other (.tail _ member)).trans
          (follows.others device (others command (.head _)))

theorem Extends.silent {later : Bench} {next : Line} (extended : b.Extends later line next)
    {p : OpenPublisher} (member : p ∈ b.rig.publishers) (rejects : p.rejects = true)
    (tried : b.rig.messages p.publisher ≠ []) :
    later.rig.messages p.publisher = b.rig.messages p.publisher := by
  have grown : b.rig.messages p.publisher <+: later.rig.messages p.publisher :=
    extended.journal.filterMap _
  have once := extended.steady.ready.tried p (extended.publishers.subset member) rejects
  have some := List.length_pos_of_ne_nil tried
  exact (grown.eq_of_length_le (Nat.le_trans once some)).symm

theorem Extends.unserved {later : Bench} {next : Line} (extended : b.Extends later line next)
    (steady : b.Steady line) (empty : line.state.pool.cached = []) {device : String}
    (same : later.rig.publishersFor device = b.rig.publishersFor device) :
    next.state.pool.serves? (next.relay.publisherKey device) = none := by
  cases served : next.state.pool.serves? (next.relay.publisherKey device) with
  | none => rfl
  | some publisher =>
      have serving := extended.steady.ready.serving _ publisher served
      obtain ⟨owner,front,bound,rejects,key,newest⟩ := serving.newest
      cases congrArg PublisherKey.device key
      obtain ⟨last,_⟩ := Rig.newest_member (same.symm.trans newest)
      have drained : publisher ∉ line.state.pool.publishers := by
        rw [Pool.publishers,empty]
        exact List.not_mem_nil
      -- It was open before, so the teardown has closed it, and no run takes that back.
      have closed := (steady.closed_once last).trans (if_neg drained)
      have more : b.rig.closeCount publisher ≤ later.rig.closeCount publisher :=
        extended.journal.sublist.countP_le
      have unclosed := serving.unclosed
      simp only at closed more unclosed
      omega

def Reopens (b : Bench) (device : String) : Prop :=
  ∀ line subFolder data found material, b.place 0 = .occupied line →
    line.relay.devices.contains device = true →
    (b.rig.fetchDevice line.handle device).1 = .ok found → found.keyMaterial = .ok material →
    b.rig.rejectConnects = false →
    (b.perform (.operate (.publish 0 device (some subFolder) data))).1.rig.publishers =
        b.rig.publishers ++
          [⟨b.rig.attempts.length,line.relay.binding device material,b.rig.rejectSends⟩] ∧
      ∀ p ∈ b.rig.publishers, p.publisher ≠ b.rig.attempts.length

theorem Steady.reopens (steady : b.Steady line) {device : String}
    (unserved : line.state.pool.serves? (line.relay.publisherKey device) = none) :
    b.Reopens device := by
  intro here subFolder data found material place known fetched key connects
  cases steady.place.symm.trans place
  have calls : b.call? (.operate (.publish 0 device (some subFolder) data)) =
      some (.publish device (some subFolder) data) := rfl
  refine ⟨?_,fun p member => Nat.ne_of_lt (steady.ready.begun p member)⟩
  rw [perform_call steady calls]
  simp only [settle,World.perform,known,↓reduceIte]
  exact World.forward_opens (w := ⟨line,b.rig⟩) ⟨device,subFolder,data⟩ unserved fetched key connects

-- Whatever brings a relay down closes every publisher once, and the relay gets up again by
-- itself.
theorem collapses_and_heals (sequential : Sequential b) : ∃ line, b.places = [.occupied line] ∧
    (∀ p ∈ b.rig.publishers, b.rig.closeCount p.publisher =
      if p.publisher ∈ line.state.pool.publishers then 0 else 1) ∧
    (∀ command, command.isPlain = true → b.tearsDown command → (b.perform command).1.Bare) ∧
    (∀ p ∈ b.rig.publishers, p.rejects = true → b.rig.messages p.publisher ≠ [] →
      ∀ commands, (∀ command ∈ commands, command.isPlain = true) →
        (b.performs commands).rig.messages p.publisher = b.rig.messages p.publisher) ∧
    b.rig.journal.filterMap Entry.opened? =
      b.rig.publishers.map (fun p => (p.publisher,p.binding)) ∧
    (∀ device stretch, stretch <:+: b.rig.journal → Calm stretch →
      stretch.countP (Entry.opens device) ≤ 1) ∧
    (line.state.pool.cached = [] → ∀ device commands,
      (∀ command ∈ commands, command.isPlain = true) →
      (∀ command ∈ commands, ∀ message, command.message? = some message →
        message.device ≠ device) → (b.performs commands).Reopens device) := by
  obtain ⟨line,steady⟩ := sequential_steady sequential
  refine ⟨line,steady.places,fun p member => steady.closed_once member,
    fun command plain tears => tearsDown_bare steady plain tears,?_,steady.ready.opened,
    steady.ready.spaced,?_⟩
  · intro p member rejects tried commands plain
    obtain ⟨next,extended⟩ := performs_extends steady commands plain
    exact extended.silent member rejects tried
  · intro empty device commands plain others
    obtain ⟨next,extended⟩ := performs_extends steady commands plain
    exact extended.steady.reopens
      (extended.unserved steady empty (performs_others steady commands plain device others))

theorem collapses_and_heals_rejected :
    let rejected : Bench :=
      ((desk true).perform (.operate (.publish 0 "device" (some "state") "one"))).1
    let later : Bench :=
      (rejected.perform (.operate (.publish 0 "device" (some "events") "two"))).1
    Sequential rejected ∧ rejected.rig.closeCount 0 = 1 ∧
      later.rig.messages 0 = [("device","state","one")] ∧
      later.rig.publishers.map OpenPublisher.publisher = [0,1] := by
  intro rejected later
  let failing := World.perform ⟨deskLine,(desk true).rig⟩ (.publish "device" (some "state") "one")
  let first : OpenPublisher := ⟨0,⟨"project","region","registry","device",⟨"RS256",[1]⟩⟩,true⟩
  let known : Device :=
    ⟨"device",Dict.ofPairs [(Device.algorithmKey,"RS256"),(Device.bytesKey,"AQ==")]⟩
  have sequential : Sequential rejected := .perform (.fresh (desk_fresh true)) rfl
  have performed : rejected = (desk true).settle failing :=
    perform_call (desk_fresh true).steady rfl
  obtain ⟨line,places,closes,_,silent,_,_,heals⟩ := collapses_and_heals sequential
  rw [performed] at places
  cases places
  have opened : rejected.rig.publishers = [first] := by
    rw [performed]
    decide
  have told : rejected.rig.messages 0 = [("device","state","one")] := by
    rw [performed]
    decide
  have place : rejected.place 0 = .occupied failing.line := by
    rw [performed]
    rfl
  have fetched : (rejected.rig.fetchDevice failing.line.handle "device").1 = .ok known := by
    rw [performed]
    rfl
  have member : first ∈ rejected.rig.publishers := by simp [opened]
  have tried : rejected.rig.messages first.publisher ≠ [] := by simp [first,told]
  have reopens : rejected.Reopens "device" := heals (by decide) "device" [] nofun nofun
  have grown := (reopens failing.line "events" "two" known ⟨"RS256",[1]⟩ place (by decide) fetched
    (by decide) (by rw [performed]; rfl)).1
  refine ⟨sequential,(closes first member).trans (if_neg (by decide)),?_,?_⟩
  · exact (silent first member rfl tried
      [.operate (.publish 0 "device" (some "events") "two")] (by simp [Command.isPlain])).trans told
  · refine (congrArg (List.map OpenPublisher.publisher) grown).trans ?_
    rw [opened,performed]
    decide

end Bench
end RegistryRelay
