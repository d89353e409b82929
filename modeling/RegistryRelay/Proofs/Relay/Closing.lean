import RegistryRelay.Proofs.Pool.Crowd
import RegistryRelay.Proofs.Relay.Presence

namespace RegistryRelay

-- A relay that is used by one caller at a time: no call is made before the last one is
-- finished. Listeners of publishers are callers like any other.
inductive Relay.Alone (relay : Relay) : Relay.System → Prop where
  | initial : Alone relay {}
  | step : Alone relay s → s.advance relay move = some next →
      (∀ call, move = .begin call → s.quiet) → Alone relay next

theorem Relay.Alone.reached {relay : Relay} {s : Relay.System} (alone : Relay.Alone relay s) :
    Relay.Reached relay s := by
  induction alone with
  | initial => exact .initial
  | step _ advanced _ ih => exact .step ih advanced

theorem Relay.Alone.proceed {relay : Relay} {s next : Relay.System} {moves : List Relay.Move}
    (alone : Relay.Alone relay s) (steps : ∀ call, .begin call ∉ moves)
    (ran : s.run relay moves = some next) : Relay.Alone relay next := by
  induction moves generalizing s with
  | nil => cases ran; exact alone
  | cons move rest ih =>
      obtain ⟨middle,first,others⟩ := Option.bind_eq_some_iff.mp ran
      refine ih (.step alone first ?_) (fun call member => ?_) others
      · intro call begins
        exact absurd (begins ▸ List.mem_cons_self) (steps call)
      · exact steps call (List.mem_cons_of_mem _ member)

namespace Pool

variable {crowd middle later next : Crowd} {moves more : List Move} {key : PublisherKey}
  {slot : SlotId} {publisher : PublisherId} {index : Nat} {opened : Option PublisherId}
  {created : Bool}

theorem never_again (reached : Reached crowd) (member : (key,slot) ∈ crowd.pool.cached)
    (ran : crowd.run moves = some middle) (gone : ∀ other, (other,slot) ∉ middle.pool.cached)
    (after : middle.run more = some later) : ∀ other, (other,slot) ∉ later.pool.cached := by
  have known := (reached_sound reached).orderly.placed key slot member
  have drained : middle.pool.Drained slot :=
    ⟨keyOf?_lt ((run_grows reached ran).keys _ _ known),gone⟩
  exact ((run_grows (reached_run reached ran) after).drained _ drained).2

theorem acquired_unclosed (reached : Reached crowd)
    (advanced : crowd.advance (.advance index opened) = some next)
    (came : next.calls[index]? = some (.acquired key publisher created)) :
    publisher ∈ next.pool.publishers ∧ publisher ∉ next.closed := by
  obtain ⟨slot,here,cached,pool,closed⟩ := (Crowd.advance_checked advanced).1 created came
  rw [pool,closed]
  exact (reached_sound reached).current (visitsOf_here _ here) cached

theorem stale_closes (reached : Reached crowd)
    (advanced : crowd.advance (.advance index opened) = some next)
    (came : next.calls[index]? = some (.stale key publisher)) :
    next.closed = publisher :: crowd.closed ∧ publisher ∉ next.pool.publishers ∧
      ∃ slot, crowd.pool.Drained slot ∧ crowd.pool.content slot = .holds publisher := by
  obtain ⟨slot,created,here,absent,pool,closed⟩ := (Crowd.advance_checked advanced).2 came
  obtain ⟨drained,held,apart⟩ := (reached_sound reached).outlived (visitsOf_here _ here) absent
  rw [pool]
  exact ⟨closed,apart,slot,drained,held⟩

end Pool

namespace Relay

def TooLate (earlier later : Act) : Prop := ∃ publisher device topic payload,
  earlier = .close publisher ∧ later = .ask (.send publisher device topic payload)

variable {relay : Relay} {s t : State} {reply : Option Reply} {call after : Call}
  {acts : List Act} {publisher : PublisherId}

namespace System

variable {s next : System} {index : Nat}

theorem take_unclosed (sound : (s.scene relay).Sound) {message : Message}
    (here : s.calls[index]? = some call)
    (taken : Transition relay s.state reply call t (.sending message publisher) acts) :
    .close publisher ∉ s.acts ++ acts := by
  obtain ⟨slot,created,rfl,cached,closes⟩ := taken.sending
  have current := sound.current (Pool.visitsOf_here _ here) cached
  exact fun member => (List.mem_append.mp member).elim current.2 (closes publisher)

theorem take_in_time (sound : (s.scene relay).Sound) (here : s.calls[index]? = some call)
    (taken : Transition relay s.state reply call t after acts)
    (earlier : s.acts.Pairwise fun earlier later => ¬ TooLate earlier later) :
    (s.acts ++ acts).Pairwise fun earlier later => ¬ TooLate earlier later := by
  have last : ∀ earlier later, earlier ∈ s.acts ++ acts → later ∈ acts →
      ¬ TooLate earlier later := by
    intro earlier later closes hands late
    obtain ⟨publisher,_,_,_,rfl,rfl⟩ := late
    obtain ⟨message,rfl,_⟩ := taken.handed hands
    exact take_unclosed sound here taken closes
  rw [List.pairwise_append]
  refine ⟨earlier,?_,?_⟩
  · exact List.pairwise_of_forall_mem_list fun a first b second =>
      last a b (List.mem_append_right _ first) second
  · exact fun a first b second => last a b (List.mem_append_left _ first) second

theorem reached_in_time (reached : Reached relay s) :
    s.acts.Pairwise fun earlier later => ¬ TooLate earlier later := by
  induction reached with
  | initial => exact .nil
  | step reached advanced ih =>
      cases advance_sound advanced with
      | begin entry => exact ih
      | take here fresh taken =>
          rw [acts_log]
          exact take_in_time (reached_sound reached) here taken ih

-- With one call at a time nobody else can close a publisher while a message is on its way to it.
structure Solitary (s : System) : Prop where
  one : ∀ (first second : Nat) (call other : Call), s.calls[first]? = some call →
    s.calls[second]? = some other → call ≠ .finished → other ≠ .finished → first = second
  unclosed : ∀ (index : Nat) message publisher,
    s.calls[index]? = some (.sending message publisher) → .close publisher ∉ s.acts

theorem take_busy (solitary : Solitary s) (here : s.calls[index]? = some call)
    (taken : Transition relay s.state reply call t after acts) {other : Nat} {found : Call}
    (present : (s.calls.set index after)[other]? = some found) (unfinished : found ≠ .finished) :
    other = index ∧ found = after := by
  rcases call_taken present with new | ⟨away,old⟩
  · exact new
  · exact absurd (solitary.one _ _ _ _ old here unfinished taken.unfinished) away

theorem begin_busy (quiet : s.quiet) {other : Nat} {found : Call}
    (present : (s.calls ++ [call])[other]? = some found) (unfinished : found ≠ .finished) :
    other = s.calls.length ∧ found = call := by
  rcases call_made present with old | new
  · exact absurd (quiet found (List.mem_of_getElem? old)) unfinished
  · exact new

theorem take_solitary (sound : (s.scene relay).Sound) (solitary : Solitary s)
    (here : s.calls[index]? = some call)
    (taken : Transition relay s.state reply call t after acts) :
    Solitary (s.log t ⟨index,reply,call,after,acts⟩) := by
  refine ⟨?_,?_⟩
  · intro first second call other one two busy busy'
    exact (take_busy solitary here taken one busy).1.trans
      (take_busy solitary here taken two busy').1.symm
  · intro other message publisher present
    obtain ⟨rfl,rfl⟩ := take_busy solitary here taken present (by simp)
    rw [acts_log]
    exact take_unclosed sound here taken

theorem begin_solitary (quiet : s.quiet) (entry : call.isEntry = true) :
    Solitary { s with calls := s.calls ++ [call] } := by
  refine ⟨?_,?_⟩
  · intro first second call other one two busy busy'
    exact (begin_busy quiet one busy).1.trans (begin_busy quiet two busy').1.symm
  · intro other message publisher present
    obtain ⟨_,rfl⟩ := begin_busy quiet present (by simp)
    cases entry

theorem alone_solitary (alone : Alone relay s) : Solitary s := by
  induction alone with
  | initial => exact ⟨by simp,by simp⟩
  | step alone advanced idle ih =>
      cases advance_sound advanced with
      | begin entry => exact begin_solitary (idle _ rfl) entry
      | take here fresh taken => exact take_solitary (reached_sound alone.reached) ih here taken

def UnderWay (s : System) (known : Nat → Call → Prop) : Prop :=
  (s.quiet → ∃ index, known index .finished) ∧
    ∀ (index : Nat) (call : Call), s.calls[index]? = some call → call ≠ .finished → known index call

theorem UnderWay.begin {known : Nat → Call → Prop} (quiet : s.quiet) (entry : call.isEntry = true)
    (begun : known s.calls.length call) :
    UnderWay { s with calls := s.calls ++ [call] } known := by
  refine ⟨fun quiet' => ?_,fun other found present unfinished => ?_⟩
  · cases quiet' call (List.mem_append_right _ (List.mem_singleton_self _))
    cases entry
  · obtain ⟨rfl,rfl⟩ := begin_busy quiet present unfinished
    exact begun

theorem UnderWay.take {known : Nat → Call → Prop} (solitary : Solitary s)
    (here : s.calls[index]? = some call) (taken : Transition relay s.state reply call t after acts)
    (went : known index after) :
    UnderWay (s.log t ⟨index,reply,call,after,acts⟩) known := by
  refine ⟨fun quiet => ?_,fun other found present unfinished => ?_⟩
  · have inside := (List.getElem?_eq_some_iff.mp here).1
    cases quiet after (List.mem_set inside after)
    exact ⟨index,went⟩
  · obtain ⟨rfl,rfl⟩ := take_busy solitary here taken present unfinished
    exact went

end System
end Relay

-- A publisher in the pool is open, and a slot that left the pool stays out of it. So a caller that
-- finds its slot there gets an open publisher, and any other closes one that the pool has no more.
-- A relay with one call at a time never hands a message to a closed publisher, nor is the
-- publisher closed before the message is through.
theorem cached_publisher_unclosed {crowd : Pool.Crowd} {relay : Relay} {s : Relay.System}
    (reached : Pool.Reached crowd) (alone : Relay.Alone relay s) :
    (∀ key slot publisher, (key,slot) ∈ crowd.pool.cached →
      crowd.pool.held? slot = some publisher → publisher ∉ crowd.closed) ∧
    (∀ key slot moves middle more later, (key,slot) ∈ crowd.pool.cached →
      crowd.run moves = some middle → (∀ other, (other,slot) ∉ middle.pool.cached) →
      middle.run more = some later → ∀ other, (other,slot) ∉ later.pool.cached) ∧
    (∀ index opened next key publisher created,
      crowd.advance (.advance index opened) = some next →
      next.calls[index]? = some (.acquired key publisher created) →
      publisher ∈ next.pool.publishers ∧ publisher ∉ next.closed) ∧
    (∀ index opened next key publisher, crowd.advance (.advance index opened) = some next →
      next.calls[index]? = some (.stale key publisher) →
      next.closed = publisher :: crowd.closed ∧ publisher ∉ next.pool.publishers ∧
        ∃ slot, crowd.pool.Drained slot ∧ crowd.pool.content slot = .holds publisher) ∧
    (s.acts.Pairwise fun earlier later => ¬ Relay.TooLate earlier later) ∧
    (∀ message publisher, .sending message publisher ∈ s.calls → publisher ∉ s.closed) := by
  have sound := Pool.reached_sound reached
  refine ⟨?_,?_,?_,?_,?_,?_⟩
  · intro key slot publisher member held
    exact sound.unclosed key slot publisher member (Pool.held?_eq_some_iff.mp held)
  · intro key slot moves middle more later member ran gone after
    exact Pool.never_again reached member ran gone after
  · intro index opened next key publisher created advanced came
    exact Pool.acquired_unclosed reached advanced came
  · intro index opened next key publisher advanced came
    exact Pool.stale_closes reached advanced came
  · exact Relay.System.reached_in_time alone.reached
  · intro message publisher member closed
    obtain ⟨index,present⟩ := List.mem_iff_getElem?.mp member
    exact (Relay.System.alone_solitary alone).unclosed index message publisher present
      (Relay.System.mem_closed.mp closed)

-- One caller has the turn when a teardown drains its slot, and a second one fills a new slot of
-- the same key before the first comes to its check.
def replaced : List Pool.Move :=
  let key : PublisherKey := ⟨"dst","reg","a"⟩
  [.acquire key,.advance 0 none,.advance 0 none,.clear,.advance 1 none,.acquire key,
    .advance 2 none,.advance 2 none,.advance 2 (some 8),.advance 0 (some 7),.advance 0 none]

def afterFailure : List Relay.Move :=
  [.advance 0 none,.advance 0 none,.advance 0 none,.advance 0 (some (.fetched (.ok .sample))),
    .advance 0 (some (.connected (.ok 7))),.advance 0 none,
    .advance 0 (some (.sent (some (.transport "lost")))),.advance 0 none,.advance 0 none,
    .advance 0 none,.advance 0 none]

def toNewPublisher : List Relay.Move :=
  [.advance 1 none,.advance 1 none,.advance 1 none,.advance 1 (some (.fetched (.ok .sample))),
    .advance 1 (some (.connected (.ok 8))),.advance 1 none]

theorem cached_publisher_unclosed_replaced : ∃ (crowd : Pool.Crowd) (s : Relay.System),
    Pool.Crowd.run {} replaced = some crowd ∧ crowd.pool.publishers = [8] ∧
    crowd.closed = [7] ∧ Relay.Alone .sample s ∧ s.closed = [7] ∧
    .sending ⟨"a","f","y"⟩ 8 ∈ s.calls ∧ 8 ∉ crowd.closed ∧ 8 ∉ s.closed := by
  obtain ⟨crowd,ran,publishers,closed,cached,held⟩ : ∃ crowd,
      Pool.Crowd.run {} replaced = some crowd ∧ crowd.pool.publishers = [8] ∧
      crowd.closed = [7] ∧ (⟨"dst","reg","a"⟩,1) ∈ crowd.pool.cached ∧
      crowd.pool.held? 1 = some 8 := ⟨_,rfl,rfl,rfl,by decide,rfl⟩
  obtain ⟨one,two,three,s,begun,failed,idle,again,came,closed',member⟩ : ∃ one two three s,
      Relay.System.advance .sample {} (.begin (.publish "a" (some "f") "x")) = some one ∧
      one.run .sample afterFailure = some two ∧ two.quiet ∧
      two.advance .sample (.begin (.publish "a" (some "f") "y")) = some three ∧
      three.run .sample toNewPublisher = some s ∧ s.closed = [7] ∧
      .sending ⟨"a","f","y"⟩ 8 ∈ s.calls :=
    ⟨_,_,_,_,rfl,rfl,by simp [Relay.System.quiet],rfl,rfl,rfl,by simp⟩
  have once : Relay.Alone .sample two :=
    (Relay.Alone.step .initial begun (by simp [Relay.System.quiet])).proceed
      (by simp [afterFailure]) failed
  have alone : Relay.Alone .sample s :=
    (Relay.Alone.step once again fun _ _ => idle).proceed (by simp [toNewPublisher]) came
  have unclosed := cached_publisher_unclosed (Pool.reached_run .initial ran) alone
  exact ⟨crowd,s,ran,publishers,closed,alone,closed',member,unclosed.1 _ _ _ cached held,
    unclosed.2.2.2.2.2 _ _ member⟩

end RegistryRelay
