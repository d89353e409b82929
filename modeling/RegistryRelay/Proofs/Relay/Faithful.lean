import Mathlib.Data.List.Forall2
import RegistryRelay.Proofs.Relay.Closing
import RegistryRelay.Proofs.Relay.Reporting

namespace RegistryRelay

def PublisherBinding.publisherKey (bound : PublisherBinding) : PublisherKey :=
  ⟨bound.project,bound.registry,bound.device⟩

def Act.close? : Act → Option PublisherId
  | .close publisher => some publisher
  | _ => none

namespace Event

def creates (event : Event) : Bool := event.name == .publisherCreate

def closesKey (text : String) (event : Event) : Bool :=
  (event.name == .publisherClose || event.name == .publisherStale) &&
    event.details.contains (publisherKeyField,.text text)

def closing? : Event → Option PublisherKey
  | .publisherClosed key => some key
  | .publisherStale key => some key
  | _ => none

theorem closesKey_iff (text : String) (event : Event) :
    event.closesKey text = true ↔ ∃ key, event.closing? = some key ∧ key.text = text := by
  cases event with
  | publisherClosed key | publisherStale key =>
      simp only [closesKey,closing?,name,details,publisherKeyField,reasonField]
      simp [eq_comm]
  | _ => simp [closesKey,closing?,name]

end Event

-- What a call that works alone has yet to report, and what it has yet to close.
def Call.unreported : Call → Nat
  | .acquiring _ (.checking _ _ true) => 1
  | _ => 0

def Call.unclosed (pool : Pool) : Call → Nat
  | .terminate (.closing left _) _ => (left.filterMap fun entry => pool.held? entry.2).length
  | _ => 0

namespace Relay

variable {relay : Relay} {s t : State} {reply : Option Reply} {call after : Call}
  {acts : List Act} {index : Nat} {device : String}

theorem publisherKey_text_inj {other : String}
    (same : (relay.publisherKey device).text = (relay.publisherKey other).text) :
    device = other := by
  have letters := congrArg String.toList same
  simp only [PublisherKey.text,publisherKey,String.toList_append] at letters
  exact String.toList_injective (List.append_cancel_left letters)

def OpenedUnder (relay : Relay) (acts : List Act) (publisher : PublisherId) (key : PublisherKey) :
    Prop :=
  ∃ bound device, .opened publisher bound ∈ acts ∧ bound.publisherKey = key ∧
    key = relay.publisherKey device

theorem OpenedUnder.later {publisher : PublisherId} {key : PublisherKey}
    (opened : OpenedUnder relay acts publisher key) (more : List Act) :
    OpenedUnder relay (acts ++ more) publisher key := by
  obtain ⟨bound,device,member,same,own⟩ := opened
  exact ⟨bound,device,List.mem_append_left _ member,same,own⟩

theorem Transition.squares (taken : Transition relay s reply call t after acts)
    (orderly : s.pool.Orderly)
    (creating : ∀ slot, call.creates? = some slot → s.pool.content slot = .opening)
    (placed : ∀ entry, call.place? relay = some entry → entry ∈ s.pool.cached) :
    t.pool.size + after.unclosed t.pool + acts.countP (Act.tells Event.closes) + call.unreported =
      s.pool.size + call.unclosed s.pool + acts.countP (Act.tells Event.creates) +
        after.unreported := by
  have inside : ∀ {key slot}, call.place? relay = some (key,slot) → slot < s.pool.slots.length :=
    fun place => Pool.keyOf?_lt (orderly.placed _ _ (placed _ place))
  have free : ∀ {slot content}, s.pool.content slot = content →
      (∀ publisher, content ≠ .holds publisher) →
      ∀ publisher, s.pool.content slot ≠ .holds publisher := by
    intro slot content same idle publisher held
    exact idle publisher (same.symm.trans held)
  cases taken with
  | look => simp [Pool.size_slotFor,Call.unclosed,Call.unreported]
  | start empty =>
      have same := Pool.size_fill_idle (inside rfl) (free empty (by simp)) .opening (by simp)
      simp [same,Call.unclosed,Call.unreported,Act.tells]
  | notFetched | noKey | notConnected =>
      have same := Pool.size_fill_idle (inside rfl) (free (creating _ rfl) (by simp)) .empty
        (by simp)
      simp [same,Call.unclosed,Call.unreported,Act.tells,Event.closes,Event.creates,Event.name]
  | connected =>
      have more := Pool.size_fill_holds orderly (placed _ rfl) (free (creating _ rfl) (by simp))
      simp [more,Call.unclosed,Call.unreported,Act.tells]
  | deliver =>
      rename_i created _
      cases created <;>
        simp [Call.unclosed,Call.unreported,Act.tells,Event.closes,Event.creates,Event.name]
  | stale absent =>
      rw [(Pool.caches_iff orderly).mpr (placed _ rfl)] at absent
      cases absent
  | drain =>
      have same := ((relay.order.perm s.pool.cached).filterMap
        fun entry => s.pool.held? entry.2).length_eq
      simpa [Call.unclosed,Call.unreported,Pool.size,Pool.publishers,Pool.held?,Pool.content]
        using same
  | shut held =>
      simp only [Call.unclosed,Call.unreported,List.filterMap_cons,held,List.length_cons]
      simp [Act.tells,Event.closes,Event.creates,Event.name]
      omega
  | pass empty => simp [Call.unclosed,Call.unreported,empty]
  | _ =>
      simp [Call.unclosed,Call.unreported,Call.terminating,Act.tells,Event.closes,Event.creates,
        Event.name]

namespace System

variable {s next : System} {state : State}

theorem closed_log (record : Record) :
    (s.log state record).closed = s.closed ++ record.acts.filterMap Act.close? := by
  rw [closed,acts_log,List.filterMap_append]
  refine congrArg (s.closed ++ ·) (List.filterMap_congr fun act _ => ?_)
  cases act <;> rfl

theorem events_log (record : Record) :
    (s.log state record).events = s.events ++ record.acts.filterMap Act.event? := by
  rw [events_eq,events_eq,log,said_concat]

def openedFor (s : System) (key : PublisherKey) (publisher : PublisherId) : Bool :=
  s.opened.any fun entry => entry.1 == publisher && entry.2.publisherKey == key

theorem openedFor_eq (reached : Reached relay s) {publisher : PublisherId} {key : PublisherKey}
    (opened : OpenedUnder relay s.acts publisher key) :
    s.openedFor (relay.publisherKey device) publisher =
      (key.text == (relay.publisherKey device).text) := by
  obtain ⟨bound,owner,member,rfl,own⟩ := opened
  rw [Bool.eq_iff_iff,beq_iff_eq,openedFor,List.any_eq_true]
  constructor
  · intro found
    obtain ⟨entry,recorded,same⟩ := found
    obtain ⟨rfl,mine⟩ : entry.1 = publisher ∧ entry.2.publisherKey = relay.publisherKey device := by
      simpa using same
    rw [opened_unique reached member (mem_opened.mp recorded),mine]
  · intro same
    rw [own] at same
    refine ⟨(publisher,bound),mem_opened.mpr member,?_⟩
    simp [own,publisherKey_text_inj same]

theorem reached_under (reached : Reached relay s) {slot : SlotId} {publisher : PublisherId}
    {key : PublisherKey} (placed : s.state.pool.keyOf? slot = some key)
    (held : s.state.pool.content slot = .holds publisher) :
    OpenedUnder relay s.acts publisher key := by
  obtain ⟨device,bound,owned,opening,recorded,opens,backed⟩ := reached_owned reached held
  cases Option.some.inj (placed.symm.trans owned)
  refine ⟨bound,device,List.mem_flatMap.mpr ⟨opening,recorded,opens⟩,?_,rfl⟩
  rw [PublisherBinding.publisherKey,backed.project,backed.registry,backed.owner]
  rfl

theorem take_closing (reached : Reached relay s) (here : s.calls[index]? = some call)
    (taken : Transition relay s.state reply call state after acts) :
    List.Forall₂ (OpenedUnder relay s.acts) (acts.filterMap Act.close?)
      ((acts.filterMap Act.event?).filterMap Event.closing?) := by
  have sound := reached_sound reached
  cases taken with
  | stale drained =>
      have fits := sound.fits _ _ (Pool.visitsOf_here _ here)
      exact .cons (reached_under reached fits.1 fits.2) .nil
  | shut held =>
      have fits := sound.fits _ _ (Pool.visitsOf_here _ here) _ List.mem_cons_self
      exact .cons (reached_under reached fits.1 (Pool.held?_eq_some_iff.mp held)) .nil
  | deliver => rename_i created _; cases created <;> exact .nil
  | _ => exact .nil

theorem reached_closings (reached : Reached relay s) :
    List.Forall₂ (OpenedUnder relay s.acts) s.closed (s.events.filterMap Event.closing?) := by
  induction reached with
  | initial => exact .nil
  | step reached advanced ih =>
      cases advance_sound advanced with
      | begin entry => exact ih
      | take here fresh taken =>
          rw [closed_log,events_log,acts_log,List.filterMap_append]
          refine (List.rel_append ih (take_closing reached here taken)).imp ?_
          exact fun publisher key opened => opened.later _

theorem reached_closesKey (reached : Reached relay s) (device : String) :
    s.closed.countP (s.openedFor (relay.publisherKey device)) =
      s.events.countP (Event.closesKey (relay.publisherKey device).text) := by
  have counts : ∀ {closed : List PublisherId} {keys : List PublisherKey},
      List.Forall₂ (OpenedUnder relay s.acts) closed keys →
      closed.countP (s.openedFor (relay.publisherKey device)) =
        keys.countP (·.text == (relay.publisherKey device).text) := by
    intro closed keys pairs
    induction pairs with
    | nil => rfl
    | cons opened rest ih =>
        rw [List.countP_cons,List.countP_cons,ih,openedFor_eq reached opened]
  rw [counts (reached_closings reached),List.countP_filterMap]
  refine List.countP_congr fun event _ => ?_
  rw [Event.closesKey_iff]
  cases event.closing? <;> simp

theorem events_tells (record : Record) (kind : Event → Bool) :
    (s.log state record).events.countP kind =
      s.events.countP kind + record.acts.countP (Act.tells kind) := by
  rw [events_log,List.countP_append,countP_event?]

-- The publishers in the pool are those created less those closed, but for what the one call
-- under way has yet to report and to close. Its slot is in the pool.
structure Squared (relay : Relay) (s : System) (call : Call) : Prop where
  size : s.state.pool.size + call.unclosed s.state.pool + s.events.countP Event.closes =
    s.events.countP Event.creates + call.unreported
  placed : ∀ entry, call.place? relay = some entry → entry ∈ s.state.pool.cached

theorem Squared.begin (squared : Squared relay s .finished) (entry : call.isEntry = true) :
    Squared relay { s with calls := s.calls ++ [call] } call := by
  refine ⟨?_,fun entry' place => ?_⟩
  · have idle : call.unclosed s.state.pool = 0 ∧ call.unreported = 0 := by
      cases call with
      | terminate progress after =>
          cases progress with
          | starting => exact ⟨rfl,rfl⟩
          | closing => cases entry
      | acquiring => cases entry
      | _ => exact ⟨rfl,rfl⟩
    have size := squared.size
    simp only [idle]
    exact size
  · rw [Call.entry_place? entry] at place
    cases place

theorem Squared.take (squared : Squared relay s call) (reached : Reached relay s)
    (here : s.calls[index]? = some call)
    (taken : Transition relay s.state reply call state after acts) :
    Squared relay (s.log state ⟨index,reply,call,after,acts⟩) after := by
  refine ⟨?_,fun entry place => ?_⟩
  · have step := taken.squares (reached_sound reached).orderly
      (fun slot => creator_opening reached here) squared.placed
    have before := squared.size
    rw [events_tells,events_tells]
    simp only [log]
    omega
  · rcases taken.places place with old | new
    · by_cases drains : Record.drains ⟨index,reply,call,after,acts⟩ = true
      · cases taken with
        | drain => cases place
        | _ => cases drains
      · exact taken.keeps (by simpa using drains) (squared.placed entry old)
    · exact new

theorem alone_squared (alone : Alone relay s) : UnderWay s fun _ => Squared relay s := by
  induction alone with
  | initial => exact ⟨fun _ => ⟨0,rfl,by simp [Call.place?]⟩,by simp⟩
  | step alone advanced idle ih =>
      cases advance_sound advanced with
      | begin entry =>
          have quiet := idle _ rfl
          obtain ⟨_,squared⟩ := ih.1 quiet
          exact .begin quiet entry (squared.begin entry)
      | take here fresh taken =>
          have squared := ih.2 _ _ here taken.unfinished
          exact .take (alone_solitary alone) here taken (squared.take alone.reached here taken)

end System

-- The log of a relay once all calls are through, whatever the order of their steps. Every call
-- is reported in one of the ways of `Reported`. A publisher is closed as often as this is
-- reported under its key, and no two devices share a text of a key. The teardowns report as
-- many publishers as were reported closed one by one. With one call at a time, the pool holds
-- those reported created and not closed.
theorem log_accounts_for_pool {moves : List Move} {s : System}
    (ran : System.run relay {} moves = some s) (quiet : s.quiet) :
    (∀ index entry, (made moves)[index]? = some entry → Reported relay entry (s.trace index)) ∧
    (∀ device, s.closed.countP (s.openedFor (relay.publisherKey device)) =
      s.events.countP (Event.closesKey (relay.publisherKey device).text)) ∧
    (∀ device other,
      (relay.publisherKey device).text = (relay.publisherKey other).text → device = other) ∧
    (s.events.map Event.closedField).sum = s.events.countP Event.closes ∧
    (Alone relay s →
      s.state.pool.size + s.events.countP Event.closes = s.events.countP Event.creates) := by
  have ledger := (System.run_onward ran rfl).ledger
  have reported : ∀ index entry, (made moves)[index]? = some entry →
      Reported relay entry (s.trace index) := by
    intro index entry begun
    obtain ⟨isEntry,course⟩ := run_course ran quiet begun
    exact course.reported isEntry
  refine ⟨reported,System.reached_closesKey (reached_run .initial ran),
    fun device other => publisherKey_text_inj,?_,?_⟩
  · rw [s.events_eq,said_closedField,said_countP,ledger.sum,ledger.sum]
    refine congrArg List.sum (List.map_congr_left fun index member => ?_)
    rw [List.mem_range,ledger.length] at member
    rw [← said_closedField,← said_countP]
    exact (reported index _ (List.getElem?_eq_getElem member)).closed
  · intro alone
    obtain ⟨_,squared⟩ := (System.alone_squared alone).1 quiet
    have size := squared.size
    simpa [Call.unclosed,Call.unreported] using size

def secondMessage : List Move := toNewPublisher ++ [.advance 1 (some (.sent none)),.advance 1 none]

def replacing : List Move :=
  .begin (.publish "a" (some "f") "x") ::
    (afterFailure ++ .begin (.publish "a" (some "f") "y") :: secondMessage)

theorem log_accounts_for_pool_closed_twice : ∃ s t, System.run .sample {} crossing = some s ∧
    s.closed.countP (s.openedFor (Relay.sample.publisherKey "a")) = 2 ∧
    (s.events.map Event.closedField).sum = 1 ∧
    Reported .sample (.publish "a" (some "state") "y") (s.trace 1) ∧
    System.run .sample {} replacing = some t ∧ t.events.countP Event.creates = 2 ∧
    t.state.pool.size = 1 := by
  obtain ⟨s,ran,quiet,told,closed⟩ : ∃ s, System.run .sample {} crossing = some s ∧ s.quiet ∧
      s.events.countP (Event.closesKey "dst:reg:a") = 2 ∧ s.events.countP Event.closes = 1 :=
    ⟨_,rfl,by simp [System.quiet],by decide,rfl⟩
  obtain ⟨one,two,three,t,begun,failed,idle,again,came,whole,done,created,ended⟩ :
      ∃ one two three t,
        System.advance .sample {} (.begin (.publish "a" (some "f") "x")) = some one ∧
        one.run .sample afterFailure = some two ∧ two.quiet ∧
        two.advance .sample (.begin (.publish "a" (some "f") "y")) = some three ∧
        three.run .sample secondMessage = some t ∧ System.run .sample {} replacing = some t ∧
        t.quiet ∧ t.events.countP Event.creates = 2 ∧ t.events.countP Event.closes = 1 :=
    ⟨_,_,_,_,rfl,rfl,by simp [System.quiet],rfl,rfl,rfl,by simp [System.quiet],rfl,rfl⟩
  have once : Alone .sample two :=
    (Alone.step .initial begun (by simp [System.quiet])).proceed (by simp [afterFailure]) failed
  have alone : Alone .sample t :=
    (Alone.step once again fun _ _ => idle).proceed (by simp [secondMessage,toNewPublisher]) came
  obtain ⟨reported,closes,_,fields,_⟩ := log_accounts_for_pool ran quiet
  obtain ⟨_,_,_,_,size⟩ := log_accounts_for_pool whole done
  have left := size alone
  rw [created,ended] at left
  exact ⟨s,t,ran,(closes "a").trans told,fields.trans closed,reported 1 _ rfl,whole,created,
    Nat.succ.inj left⟩

end Relay
end RegistryRelay
