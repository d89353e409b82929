import RegistryRelay.Proofs.Relay.Creation

namespace RegistryRelay

def Act.sentTo? (device : String) : Act → Option PublisherId
  | .ask (.send publisher owner _ _) => if owner = device then some publisher else none
  | _ => none

theorem Act.sentTo?_send {device : String} {publisher : PublisherId} {act : Act}
    (sent : act.sentTo? device = some publisher) :
    ∃ topic payload, act = .ask (.send publisher device topic payload) := by
  unfold Act.sentTo? at sent
  split at sent
  · split at sent
    · rename_i mine
      subst mine
      cases sent
      exact ⟨_,_,rfl⟩
    · cases sent
  · cases sent

def Act.openedFor? (device : String) : Act → Option PublisherId
  | .opened publisher bound => if bound.device = device then some publisher else none
  | _ => none

def Act.connectsFor (device : String) : Act → Bool
  | .ask (.connect bound) => bound.device == device
  | _ => false

def Call.publishes (device : String) : Call → Bool
  | .publish owner (some _) _ => owner == device
  | _ => false

def Call.carries (device : String) : Call → Bool
  | .acquiring message _ => message.device == device
  | .fetching message _ => message.device == device
  | .connecting message _ _ => message.device == device
  | call => call.publishes device

def Call.createsFor (device : String) : Call → Bool
  | .fetching message _ => message.device == device
  | .connecting message _ _ => message.device == device
  | _ => false

def Call.connectsFor (device : String) : Call → Bool
  | .connecting message _ _ => message.device == device
  | _ => false

def Record.fails? (record : Record) : Option String :=
  match record.before,record.after with
  | .fetching message _,.finished => some message.device
  | .connecting message _ _,.finished => some message.device
  | _,_ => none

def Call.place? (relay : Relay) : Call → Option (PublisherKey × SlotId)
  | .acquiring _ .asking => none
  | .acquiring message (.waiting slot) => some (relay.publisherKey message.device,slot)
  | .acquiring message (.opening slot) => some (relay.publisherKey message.device,slot)
  | .acquiring message (.checking slot _ _) => some (relay.publisherKey message.device,slot)
  | .fetching message slot => some (relay.publisherKey message.device,slot)
  | .connecting message slot _ => some (relay.publisherKey message.device,slot)
  | _ => none

def Call.Bound : Call → Prop
  | .connecting message _ bound => bound.device = message.device
  | _ => True

theorem Call.entry_device {device : String} {call : Call} (entry : call.isEntry = true) :
    call.carries device = call.publishes device ∧ call.createsFor device = false ∧
      call.connectsFor device = false := by
  cases call with
  | acquiring | fetching | connecting => cases entry
  | _ => exact ⟨rfl,rfl,rfl⟩

-- A step that neither fails to create a publisher for the device nor turns its caller away.
structure Record.Smooth (device : String) (record : Record) : Prop where
  creates : record.fails? ≠ some device
  bound : record.before.Bound
  lasts : ∀ message progress, record.before = .acquiring message progress →
    record.after ≠ .finished

theorem Call.entry_place? {relay : Relay} {call : Call} (entry : call.isEntry = true) :
    call.place? relay = none := by
  cases call with
  | acquiring | fetching | connecting => cases entry
  | _ => rfl

theorem Call.entry_bound {call : Call} (entry : call.isEntry = true) : call.Bound := by
  cases call with
  | connecting => cases entry
  | _ => trivial

namespace Relay

variable {relay : Relay} {s t : State} {reply : Option Reply} {call after : Call}
  {acts : List Act} {index : Nat} {device : String} {publisher : PublisherId}

theorem publisherKey_inj {other : String}
    (same : relay.publisherKey device = relay.publisherKey other) : device = other := by
  simpa [publisherKey] using same

theorem Transition.places (taken : Transition relay s reply call t after acts)
    {entry : PublisherKey × SlotId} (place : after.place? relay = some entry) :
    call.place? relay = some entry ∨ entry ∈ t.pool.cached := by
  cases taken with
  | look => cases place; exact .inr (Pool.mem_slotFor.mpr (.inr rfl))
  | join | start | fetched | connected => exact .inl place
  | _ => cases place

theorem Transition.binds (taken : Transition relay s reply call t after acts)
    (bound : call.Bound) : after.Bound := by
  cases taken with
  | fetched => rfl
  | _ => trivial

theorem Transition.serves (taken : Transition relay s reply call t after acts)
    (undrained : Record.drains ⟨index,reply,call,after,acts⟩ = false) (orderly : s.pool.Orderly)
    (creating : ∀ slot, call.creates? = some slot → s.pool.content slot = .opening)
    (placed : ∀ entry, call.place? relay = some entry → entry ∈ s.pool.cached)
    (bound : call.Bound) (device : String) :
    (t.pool.serves? (relay.publisherKey device)).toList =
      (s.pool.serves? (relay.publisherKey device)).toList ++
        acts.filterMap (Act.openedFor? device) := by
  have inside : ∀ {key slot}, call.place? relay = some (key,slot) → slot < s.pool.slots.length :=
    fun place => Pool.keyOf?_lt (orderly.placed _ _ (placed _ place))
  have unheld : ∀ {slot}, s.pool.content slot = .opening →
      ∀ publisher, s.pool.content slot ≠ .holds publisher := by
    intro slot opening publisher held
    cases opening.symm.trans held
  cases taken with
  | drain => cases undrained
  | look =>
      rw [Pool.serves?_slotFor orderly]
      exact (List.append_nil _).symm
  | start free =>
      have empty : ∀ publisher, s.pool.content _ ≠ .holds publisher := fun publisher held => by
        cases free.symm.trans held
      rw [Pool.serves?_fill_away orderly (inside rfl) empty _ (.inl (by simp))]
      exact (List.append_nil _).symm
  | notFetched | noKey | notConnected =>
      rw [Pool.serves?_fill_away orderly (inside rfl) (unheld (creating _ rfl)) _ (.inl (by simp))]
      exact (List.append_nil _).symm
  | connected =>
      rename_i publisher message slot binding
      have member := placed _ rfl
      have opening := creating slot rfl
      have owner : binding.device = message.device := bound
      by_cases mine : message.device = device
      · subst mine
        have before : s.pool.serves? (relay.publisherKey message.device) = none := by
          refine Option.eq_none_iff_forall_ne_some.mpr fun other serves => ?_
          obtain ⟨place,cached,held⟩ := (Pool.serves?_eq_some_iff orderly).mp serves
          cases orderly.same_slot member cached
          exact unheld opening other held
        rw [Pool.serves?_fill_here orderly (inside rfl) member,before]
        simp [Act.openedFor?,owner]
      · have other : (relay.publisherKey device,slot) ∉ s.pool.cached := fun cached =>
          mine (publisherKey_inj (orderly.same_key member cached))
        rw [Pool.serves?_fill_away orderly (inside rfl) (unheld opening) _ (.inr other)]
        simp [Act.openedFor?,owner,mine]
  | _ => simp [Act.openedFor?]

theorem Transition.delivers (taken : Transition relay s reply call t after acts) {act : Act}
    (member : act ∈ acts) (sent : act.sentTo? device = some publisher) :
    Record.delivers? relay ⟨index,reply,call,after,acts⟩ =
      some (relay.publisherKey device,publisher) := by
  obtain ⟨topic,payload,rfl⟩ := Act.sentTo?_send sent
  obtain ⟨message,rfl,rfl⟩ := taken.handed member
  rfl

theorem Transition.lasts (taken : Transition relay s reply call t after acts)
    (orderly : s.pool.Orderly)
    (placed : ∀ entry, call.place? relay = some entry → entry ∈ s.pool.cached)
    (message : Message) (progress : Acquisition) (acquiring : call = .acquiring message progress) :
    after ≠ .finished := by
  subst acquiring
  cases taken with
  | stale absent =>
      rw [(Pool.caches_iff orderly).mpr (placed _ rfl)] at absent
      cases absent
  | _ => simp

section
variable (taken : Transition relay s reply call t after acts)
  (smooth : Record.Smooth device ⟨index,reply,call,after,acts⟩)
include taken smooth

theorem Transition.carried (known : relay.devices.contains device = true) :
    (call.carries device).toNat + acts.countP (fun _ => false) =
      (after.carries device).toNat + acts.countP fun act => (act.sentTo? device).isSome := by
  cases taken with
  | ignoreAgain unknown | ignore unknown =>
      have other : ∀ owner, relay.devices.contains owner = false → owner ≠ device := by
        intro owner unknown same
        rw [same,known] at unknown
        cases unknown
      simp [Call.carries,Call.publishes,Act.sentTo?,other _ unknown]
  | stale => exact absurd rfl (smooth.lasts _ _ rfl)
  | notFetched | noKey | notConnected =>
      have other := smooth.creates
      simp only [Record.fails?,ne_eq,Option.some.injEq] at other
      simp [Call.carries,Call.publishes,Act.sentTo?,other]
  | deliver =>
      rename_i message slot publisher created cached
      by_cases mine : message.device = device <;>
        simp [Call.carries,Call.publishes,Act.sentTo?,mine]
  | _ => simp [Call.carries,Call.publishes,Act.sentTo?,Call.terminating]

theorem Transition.fetched_once :
    (call.createsFor device).toNat + acts.countP (· == .ask (.fetch device)) =
      (after.createsFor device).toNat + acts.countP fun act => (act.openedFor? device).isSome := by
  cases taken with
  | notFetched | noKey | notConnected =>
      have other := smooth.creates
      simp only [Record.fails?,ne_eq,Option.some.injEq] at other
      simp [Call.createsFor,Act.openedFor?,other]
  | start =>
      rename_i message slot free
      by_cases mine : message.device = device
      · simp [Call.createsFor,Act.openedFor?,mine]
      · simp [Call.createsFor,Act.openedFor?,mine,beq_eq_false_iff_ne.mpr mine]
  | connected =>
      rename_i publisher message slot binding
      have owner : binding.device = message.device := smooth.bound
      by_cases mine : message.device = device <;>
        simp [Call.createsFor,Act.openedFor?,owner,mine]
  | _ => simp [Call.createsFor,Act.openedFor?,Call.terminating]

theorem Transition.connected_once :
    (call.connectsFor device).toNat + acts.countP (Act.connectsFor device) =
      (after.connectsFor device).toNat + acts.countP fun act => (act.openedFor? device).isSome := by
  cases taken with
  | notConnected =>
      have other := smooth.creates
      simp only [Record.fails?,ne_eq,Option.some.injEq] at other
      simp [Call.connectsFor,Act.connectsFor,Act.openedFor?,other]
  | fetched =>
      rename_i message slot material key
      by_cases mine : message.device = device
      · simp [Call.connectsFor,Act.connectsFor,Act.openedFor?,binding,mine]
      · simp [Call.connectsFor,Act.connectsFor,Act.openedFor?,binding,beq_eq_false_iff_ne.mpr mine]
  | connected =>
      rename_i publisher message slot binding
      have owner : binding.device = message.device := smooth.bound
      by_cases mine : message.device = device <;>
        simp [Call.connectsFor,Act.connectsFor,Act.openedFor?,owner,mine]
  | _ => simp [Call.connectsFor,Act.connectsFor,Act.openedFor?,Call.terminating]

end

namespace System

variable {s t : System} {state : State} {entries : List Call} {records : List Record}

structure Steady (relay : Relay) (s : System) : Prop where
  bound : ∀ (index : Nat) (call : Call), s.calls[index]? = some call → call.Bound
  placed : ∀ (index : Nat) (call : Call) (entry : PublisherKey × SlotId),
    s.calls[index]? = some call → call.place? relay = some entry → entry ∈ s.state.pool.cached

theorem quiet_steady (quiet : s.quiet) : Steady relay s := by
  have finished : ∀ (index : Nat) (call : Call), s.calls[index]? = some call → call = .finished :=
    fun index call present => quiet call (List.mem_of_getElem? present)
  refine ⟨?_,?_⟩
  · intro index call present
    rw [finished index call present]
    trivial
  · intro index call entry present place
    rw [finished index call present] at place
    cases place

theorem Steady.begin (steady : Steady relay s) (entry : call.isEntry = true) :
    Steady relay { s with calls := s.calls ++ [call] } := by
  refine ⟨?_,?_⟩
  · intro index found present
    rcases call_made present with old | ⟨_,rfl⟩
    · exact steady.bound index found old
    · exact Call.entry_bound entry
  · intro index found place present placed
    rcases call_made present with old | ⟨_,rfl⟩
    · exact steady.placed index found place old placed
    · rw [Call.entry_place? entry] at placed
      cases placed

theorem Steady.take (steady : Steady relay s) (here : s.calls[index]? = some call)
    (taken : Transition relay s.state reply call state after acts)
    (undrained : Record.drains ⟨index,reply,call,after,acts⟩ = false) :
    Steady relay (s.log state ⟨index,reply,call,after,acts⟩) := by
  refine ⟨?_,?_⟩
  · intro other found present
    rcases call_taken present with ⟨_,rfl⟩ | ⟨_,old⟩
    · exact taken.binds (steady.bound index call here)
    · exact steady.bound other found old
  · intro other found place present placed
    rcases call_taken present with ⟨_,rfl⟩ | ⟨_,old⟩
    · rcases taken.places placed with before | new
      · exact taken.keeps undrained (steady.placed index call place here before)
      · exact new
    · exact taken.keeps undrained (steady.placed other found place old placed)

section
variable (quiet : s.quiet) (way : Onward relay s entries records t)
  (undrained : ∀ record ∈ records, record.drains = false)
include quiet way undrained

theorem Onward.steady : Steady relay t := by
  induction way with
  | stay => exact quiet_steady quiet
  | begin way entry ih => exact (ih undrained).begin entry
  | take way here fresh taken ih =>
      obtain ⟨before,last⟩ := forall_recorded.mp undrained
      exact (ih before).take here taken last

theorem Onward.smooth (reached : Reached relay s) {device : String}
    (creates : ∀ record ∈ records, record.fails? ≠ some device) :
    ∀ record ∈ records, record.Smooth device := by
  induction way with
  | stay => simp
  | begin way entry ih => exact ih undrained creates
  | take way here fresh taken ih =>
      obtain ⟨before,last⟩ := forall_recorded.mp undrained
      obtain ⟨created,creates⟩ := forall_recorded.mp creates
      have steady := way.steady quiet before
      have orderly := (reached_sound (way.reached reached)).orderly
      have lasts := taken.lasts orderly fun entry => steady.placed _ _ entry here
      exact forall_recorded.mpr ⟨ih before created,creates,steady.bound _ _ here,lasts⟩

theorem Onward.served (reached : Reached relay s) (device : String) :
    (t.state.pool.serves? (relay.publisherKey device)).toList =
      (s.state.pool.serves? (relay.publisherKey device)).toList ++
        (records.flatMap Record.acts).filterMap (Act.openedFor? device) := by
  induction way with
  | stay => simp
  | begin way entry ih => exact ih undrained
  | take way here fresh taken ih =>
      obtain ⟨before,last⟩ := forall_recorded.mp undrained
      have steady := way.steady quiet before
      have reached := way.reached reached
      have step := taken.serves last (reached_sound reached).orderly
        (fun slot => creator_opening reached here)
        (fun entry => steady.placed _ _ entry here) (steady.bound _ _ here) device
      rw [List.flatMap_append,List.filterMap_append,← List.append_assoc,← ih before]
      simpa [log] using step

end
theorem quiet_countP {value : Call → Bool} (quiet : s.quiet) (idle : value .finished = false) :
    s.calls.countP value = 0 := by
  refine List.countP_eq_zero.mpr fun call member => ?_
  rw [quiet call member,idle]
  simp

theorem Onward.sent (reached : Reached relay s) (way : Onward relay s entries records t)
    (undrained : ∀ record ∈ records, record.drains = false) {device : String}
    {publisher : PublisherId}
    (member : publisher ∈ (records.flatMap Record.acts).filterMap (Act.sentTo? device)) :
    t.state.pool.serves? (relay.publisherKey device) = some publisher := by
  obtain ⟨act,inside,sent⟩ := List.mem_filterMap.mp member
  obtain ⟨record,present,inside⟩ := List.mem_flatMap.mp inside
  obtain ⟨before,next,taken⟩ := way.recorded record present
  have orderly := (reached_sound (way.reached reached)).orderly
  exact (Pool.serves?_eq_some_iff orderly).mpr
    (way.delivered reached undrained record present (taken.delivers inside sent))

theorem Onward.converges (reached : Reached relay s) (quiet : s.quiet)
    (way : Onward relay s entries records t) (done : t.quiet)
    (undrained : ∀ record ∈ records, record.drains = false) {device : String}
    (creates : ∀ record ∈ records, record.fails? ≠ some device)
    (known : relay.devices.contains device = true)
    (unserved : s.state.pool.serves? (relay.publisherKey device) = none)
    (wanted : 0 < entries.countP (Call.publishes device)) :
    (records.flatMap Record.acts).count (.ask (.fetch device)) = 1 ∧
    (records.flatMap Record.acts).countP (Act.connectsFor device) = 1 ∧
    ∃ publisher, (records.flatMap Record.acts).filterMap (Act.openedFor? device) = [publisher] ∧
      (records.flatMap Record.acts).filterMap (Act.sentTo? device) =
        List.replicate (entries.countP (Call.publishes device)) publisher := by
  have smooth := way.smooth quiet undrained reached creates
  have carried : entries.countP (Call.carries device) = entries.countP (Call.publishes device) := by
    refine List.countP_congr fun call member => ?_
    rw [(Call.entry_device (way.entry call member)).1]
  have fresh : entries.countP (Call.createsFor device) = 0 ∧
      entries.countP (Call.connectsFor device) = 0 := by
    refine ⟨List.countP_eq_zero.mpr ?_,List.countP_eq_zero.mpr ?_⟩ <;> intro call member
    · simp [Call.entry_device (way.entry call member)]
    · simp [Call.entry_device (way.entry call member)]
  have sends := way.balance (fun taken smooth => taken.carried smooth known) smooth
  have fetches := way.balance (fun taken smooth => taken.fetched_once smooth) smooth
  have connects := way.balance (fun taken smooth => taken.connected_once smooth) smooth
  rw [quiet_countP quiet rfl,quiet_countP done rfl,← List.length_filterMap_eq_countP]
    at sends fetches connects
  rw [carried] at sends
  rw [fresh.1] at fetches
  rw [fresh.2] at connects
  have handed : ((records.flatMap Record.acts).filterMap (Act.sentTo? device)).length =
      entries.countP (Call.publishes device) := by simpa using sends.symm
  obtain ⟨publisher,member⟩ := List.exists_mem_of_length_pos (handed ▸ wanted)
  have served := way.served quiet undrained reached device
  rw [unserved,way.sent reached undrained member] at served
  have opened : (records.flatMap Record.acts).filterMap (Act.openedFor? device) = [publisher] :=
    served.symm
  rw [opened] at fetches connects
  refine ⟨?_,?_,publisher,opened,?_⟩
  · rw [List.count_eq_countP]
    simpa using fetches
  · simpa using connects
  · refine List.eq_replicate_iff.mpr ⟨handed,fun other member' => ?_⟩
    have same := (way.sent reached undrained member').symm.trans
      (way.sent reached undrained member)
    exact Option.some.inj same

end System
end Relay
-- Publishers are created one at a time for a slot, and once. Between two drains a key has one
-- slot, and all callers that find theirs in the pool get the same publisher. So any number of
-- first messages for a device cost one fetch and one connect.
theorem created_once_and_shared {relay : Relay} {s : Relay.System}
    (reached : Relay.Reached relay s) :
    (∀ (one two : Nat) (first second : Call) (slot : SlotId), s.calls[one]? = some first →
      s.calls[two]? = some second → first.creates? = some slot → second.creates? = some slot →
      one = two) ∧
    (s.history.Pairwise fun earlier later => ∀ slot, earlier.fills? = some slot →
      later.starts? ≠ some slot ∧ later.fills? ≠ some slot) ∧
    (∀ record ∈ s.history,
      (∀ device, .ask (.fetch device) ∈ record.acts → record.starts?.isSome) ∧
      ∀ publisher bound, .opened publisher bound ∈ record.acts → record.fills?.isSome) ∧
    (∀ moves later records, s.run relay moves = some later →
      later.history = s.history ++ records → (∀ record ∈ records, record.drains = false) →
      (∀ key one two, (key,one) ∈ s.state.pool.cached → (key,two) ∈ later.state.pool.cached →
        one = two) ∧
      (∀ first ∈ records, ∀ second ∈ records, ∀ key one two,
        first.delivers? relay = some (key,one) → second.delivers? relay = some (key,two) →
        one = two) ∧
      ∀ device, s.quiet → later.quiet → relay.devices.contains device = true →
        s.state.pool.serves? (relay.publisherKey device) = none →
        (∀ record ∈ records, record.fails? ≠ some device) →
        0 < (Relay.made moves).countP (Call.publishes device) →
        (records.flatMap Record.acts).count (.ask (.fetch device)) = 1 ∧
        (records.flatMap Record.acts).countP (Act.connectsFor device) = 1 ∧
        ∃ publisher,
          (records.flatMap Record.acts).filterMap (Act.openedFor? device) = [publisher] ∧
          (records.flatMap Record.acts).filterMap (Act.sentTo? device) =
            List.replicate ((Relay.made moves).countP (Call.publishes device)) publisher) := by
  refine ⟨?_,Relay.System.reached_once reached,?_,?_⟩
  · intro one two first second slot here there creates creates'
    exact Relay.System.one_creator reached here there creates creates'
  · intro record member
    obtain ⟨entries,way⟩ := Relay.System.reached_onward reached
    obtain ⟨before,next,taken⟩ := way.recorded record member
    exact ⟨fun device fetch => taken.fetches fetch,fun publisher bound opened => taken.opens opened⟩
  · intro moves later records ran added undrained
    have way := Relay.System.run_onward ran added
    have orderly := (Relay.reached_sound (way.reached reached)).orderly
    refine ⟨?_,?_,?_⟩
    · intro key one two before after
      exact orderly.same_slot (way.keeps undrained before) after
    · intro first member second member' key one two delivers delivers'
      have served := (Pool.serves?_eq_some_iff orderly).mpr
        (way.delivered reached undrained first member delivers)
      have served' := (Pool.serves?_eq_some_iff orderly).mpr
        (way.delivered reached undrained second member' delivers')
      exact Option.some.inj (served.symm.trans served')
    · intro device quiet done known unserved creates wanted
      exact way.converges reached quiet done undrained creates known unserved wanted

def sharing : List Relay.Move :=
  [.begin (.publish "a" (some "f") "x"),.begin (.publish "a" (some "state") "y"),
    .advance 0 none,.advance 1 none,.advance 1 none,.advance 0 none,.advance 0 none,
    .advance 0 (some (.fetched (.ok .sample))),.advance 0 (some (.connected (.ok 7))),
    .advance 1 none,.advance 1 none,.advance 1 (some (.sent none)),.advance 0 none,
    .advance 1 none,.advance 0 (some (.sent none)),.advance 0 none]

theorem created_once_and_shared_by_two : ∃ s, Relay.System.run .sample {} sharing = some s ∧
    (Relay.made sharing).countP (Call.publishes "a") = 2 ∧
    s.acts.count (.ask (.fetch "a")) = 1 ∧
    s.acts.filterMap (Act.openedFor? "a") = [7] ∧
    ∃ publisher, s.acts.filterMap (Act.sentTo? "a") = List.replicate 2 publisher := by
  obtain ⟨s,ran,quiet,opened,undrained,creates⟩ : ∃ s,
      Relay.System.run .sample {} sharing = some s ∧ s.quiet ∧
      s.acts.filterMap (Act.openedFor? "a") = [7] ∧
      (∀ record ∈ s.history, record.drains = false) ∧
      (∀ record ∈ s.history, record.fails? ≠ some "a") :=
    ⟨_,rfl,by simp [Relay.System.quiet],rfl,by decide,by decide⟩
  have new : Relay.Reached .sample {} := .initial
  have shared := (created_once_and_shared new).2.2.2 sharing s s.history ran rfl undrained
  obtain ⟨fetches,_,publisher,_,sent⟩ := shared.2.2 "a" (by simp [Relay.System.quiet]) quiet rfl rfl
    creates (by decide)
  exact ⟨s,ran,rfl,fetches,opened,publisher,sent⟩

end RegistryRelay
