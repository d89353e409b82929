import RegistryRelay.Proofs.Relay.Failing

namespace RegistryRelay

def Record.attempts (slot : SlotId) (record : Record) : Bool := record.starts? == some slot

def Record.misses (slot : SlotId) (record : Record) : Bool :=
  record.failure?.any fun failure => failure.1 == slot

def Call.creates (slot : SlotId) (call : Call) : Bool := call.creates? == some slot

-- What a step makes of a slot. The turn is taken by an attempt, and given back by its failure or
-- by the publisher it comes to; everybody else leaves the slot as it is.
inductive Touches (slot : SlotId) (record : Record) : Content → Content → Prop where
  | begins (attempts : record.attempts slot = true) (misses : record.misses slot = false)
      (before : record.before.creates slot = false) (after : record.after.creates slot = true) :
      Touches slot record .empty .opening
  | misses (attempts : record.attempts slot = false) (misses : record.misses slot = true)
      (before : record.before.creates slot = true) (after : record.after.creates slot = false) :
      Touches slot record .opening .empty
  | fills (attempts : record.attempts slot = false) (misses : record.misses slot = false)
      (before : record.before.creates slot = true) (after : record.after.creates slot = false) :
      Touches slot record .opening (.holds publisher)
  | spares (attempts : record.attempts slot = false) (misses : record.misses slot = false)
      (same : record.after.creates slot = record.before.creates slot) :
      Touches slot record content content

def Content.unfailed : Content → Nat
  | .empty => 0
  | _ => 1

def Content.turns : Content → Nat
  | .opening => 1
  | _ => 0

theorem Touches.balance {slot : SlotId} {record : Record} {old new : Content}
    (touches : Touches slot record old new) :
    (record.attempts slot).toNat + old.unfailed = (record.misses slot).toNat + new.unfailed ∧
      (record.after.creates slot).toNat + old.turns =
        (record.before.creates slot).toNat + new.turns := by
  cases touches with
  | begins attempts misses before after | misses attempts misses before after
  | fills attempts misses before after =>
      rw [attempts,misses,before,after]
      exact ⟨rfl,rfl⟩
  | spares attempts misses same =>
      rw [attempts,misses,same]
      exact ⟨rfl,rfl⟩

theorem Touches.onward {slot : SlotId} {record : Record} {old new : Content}
    (touches : Touches slot record old new) (turn : record.before.creates slot = true) :
    record.after.creates slot = true ∨ record.misses slot = true ∨
      ∃ publisher, new = .holds publisher := by
  cases touches with
  | begins attempts misses before after => cases before.symm.trans turn
  | misses attempts misses => exact .inr (.inl misses)
  | fills => exact .inr (.inr ⟨_,rfl⟩)
  | spares attempts misses same => exact .inl (same.trans turn)

namespace Relay

variable {relay : Relay} {s t : State} {reply : Option Reply} {call after : Call}
  {acts : List Act} {index : Nat} {slot : SlotId} {entry : Call} {records : List Record} {now : Call}

theorem Call.creates?_place (creates : call.creates? = some slot) :
    ∃ key, call.place? relay = some (key,slot) := by
  cases call with
  | fetching | connecting => cases creates; exact ⟨_,rfl⟩
  | _ => cases creates

theorem Call.creates_of (creates : call.creates? = some slot) (other : SlotId) :
    call.creates other = (slot == other) := by
  rw [Call.creates,creates]
  rfl

theorem Transition.touches (taken : Transition relay s reply call t after acts)
    (placed : ∀ key slot, call.place? relay = some (key,slot) → s.pool.keyOf? slot = some key)
    (turn : ∀ slot, call.creates? = some slot → s.pool.content slot = .opening) (slot : SlotId) :
    Touches slot ⟨index,reply,call,after,acts⟩ (s.pool.content slot) (t.pool.content slot) := by
  have made : ∀ {place}, call.creates? = some place → place < s.pool.slots.length := by
    intro place creates
    obtain ⟨key,place⟩ := Call.creates?_place creates
    exact Pool.keyOf?_lt (placed _ _ place)
  cases failed : Record.failure? ⟨index,reply,call,after,acts⟩ with
  | some failure =>
      obtain ⟨place,fault⟩ := failure
      obtain ⟨creates,rfl,rfl,_⟩ := taken.failing failed
      have creates' := Call.creates_of creates slot
      have misses : Record.misses slot ⟨index,reply,call,.finished,acts⟩ = (place == slot) := by
        rw [Record.misses,failed]
        rfl
      have attempts : Record.attempts slot ⟨index,reply,call,.finished,acts⟩ = false := by
        cases call with
        | fetching | connecting => rfl
        | _ => cases creates
      rw [Pool.content_fill (made creates)]
      by_cases here : slot = place
      · subst here
        rw [beq_self_eq_true] at creates' misses
        rw [if_pos rfl,turn slot creates]
        exact .misses attempts misses creates' rfl
      · rw [beq_eq_false_iff_ne.mpr (Ne.symm here)] at creates' misses
        rw [if_neg here]
        exact .spares attempts misses creates'.symm
  | none =>
      have misses : ∀ place, Record.misses place ⟨index,reply,call,after,acts⟩ = false := by
        intro place
        rw [Record.misses,failed]
        rfl
      cases taken with
      | look =>
          rw [Pool.content_slotFor]
          exact .spares rfl rfl rfl
      | start free =>
          rename_i message place
          rw [Pool.content_fill (Pool.keyOf?_lt (placed _ _ rfl))]
          by_cases here : slot = place
          · subst here
            rw [if_pos rfl,free]
            exact .begins (beq_self_eq_true _) rfl rfl (beq_self_eq_true _)
          · have other : (some place == some slot) = false :=
              beq_eq_false_iff_ne.mpr (by simp [Ne.symm here])
            rw [if_neg here]
            exact .spares other rfl other
      | connected =>
          rename_i publisher message place bound
          rw [Pool.content_fill (made rfl)]
          by_cases here : slot = place
          · subst here
            rw [if_pos rfl,turn slot rfl]
            exact .fills rfl rfl (beq_self_eq_true _) rfl
          · have other : (some place == some slot) = false :=
              beq_eq_false_iff_ne.mpr (by simp [Ne.symm here])
            rw [if_neg here]
            exact .spares rfl rfl other.symm
      | notFetched | notConnected => cases failed
      | noKey key =>
          simp only [Record.failure?,key] at failed
          cases failed
      | fetched => exact .spares rfl (misses slot) rfl
      | _ => exact .spares rfl rfl rfl

theorem Record.misses_none {record : Record} (none : record.failure? = none) (slot : SlotId) :
    record.misses slot = false := by
  rw [Record.misses,none]
  rfl

theorem Transition.attempts_iff (taken : Transition relay s reply call t after acts) :
    (∃ slot, Record.attempts slot ⟨index,reply,call,after,acts⟩ = true) ↔
      ∃ device, .ask (.fetch device) ∈ acts := by
  constructor
  · intro attempts
    obtain ⟨slot,attempts⟩ := attempts
    cases taken with
    | start => exact ⟨_,List.mem_singleton_self _⟩
    | _ => cases attempts
  · intro fetches
    obtain ⟨device,member⟩ := fetches
    obtain ⟨slot,starts⟩ := Option.isSome_iff_exists.mp (taken.fetches member)
    exact ⟨slot,beq_iff_eq.mpr starts⟩

theorem Course.misses_once (course : Course relay entry records now) (slot : SlotId) :
    records.countP (Record.misses slot) = (records.any (Record.misses slot)).toNat := by
  have quiet : ∀ {others : List Record}, (∀ record ∈ others, record.failure? = none) →
      others.countP (Record.misses slot) = 0 ∧ others.any (Record.misses slot) = false := by
    intro others none
    simp only [List.countP_eq_zero,List.any_eq_false]
    refine ⟨?_,?_⟩ <;> exact fun record member => by simp [Record.misses_none (none record member)]
  rcases course.failed with none | ⟨_,front,last,rfl,_,none⟩
  · rw [(quiet none).1,(quiet none).2]
    rfl
  · rw [List.countP_append,List.any_append,(quiet none).1,(quiet none).2,List.countP_singleton]
    cases misses : last.misses slot <;> simp [misses]

namespace System

-- Attempts at a slot follow one another: all of them have failed but the last one, which is still
-- going on while a caller has the turn, and has come to a publisher if the slot holds one.
structure Turned (slot : SlotId) (s : System) : Prop where
  runs : s.history.countP (Record.attempts slot) =
    s.history.countP (Record.misses slot) + (s.state.pool.content slot).unfailed
  busy : s.calls.countP (Call.creates slot) = (s.state.pool.content slot).turns

def Tried (slot : SlotId) (message : Message) (index : Nat) (s : System) : Prop :=
  s.calls[index]? = some (.acquiring message (.waiting slot)) ∨
  (∃ call, s.calls[index]? = some call ∧ call.creates? = some slot) ∨
  (∃ publisher, s.state.pool.content slot = .holds publisher) ∨
  ∃ record ∈ s.trace index, record.misses slot = true

variable {s next : System} {state : State}

theorem reached_touches (reached : Reached relay s) (here : s.calls[index]? = some call)
    (taken : Transition relay s.state reply call state after acts) (slot : SlotId) :
    Touches slot ⟨index,reply,call,after,acts⟩ (s.state.pool.content slot)
      (state.pool.content slot) :=
  taken.touches (fun _ _ => reached_placed reached here) (fun _ => creator_opening reached here) slot

theorem Turned.take (turned : Turned slot s) (here : s.calls[index]? = some call)
    (touches : Touches slot ⟨index,reply,call,after,acts⟩ (s.state.pool.content slot)
      (state.pool.content slot)) :
    Turned slot (s.log state ⟨index,reply,call,after,acts⟩) := by
  constructor
  case runs =>
    have runs := turned.runs
    have attempted := touches.balance.1
    simp only [log,countP_toNat,List.map_append,List.map_cons,List.map_nil,List.sum_append,
      List.sum_singleton] at runs ⊢
    omega
  case busy =>
    have busy := turned.busy
    have moved := countP_taken (Call.creates slot) here after
    have turns : (after.creates slot).toNat + _ = (call.creates slot).toNat + _ := touches.balance.2
    simp only [log]
    omega

theorem reached_turned (reached : Reached relay s) (slot : SlotId) : Turned slot s := by
  induction reached with
  | initial => exact ⟨rfl,rfl⟩
  | step reached advanced ih =>
      cases advance_sound advanced with
      | begin entry =>
          refine ⟨ih.runs,?_⟩
          rw [List.countP_append,ih.busy,List.countP_singleton,Call.creates,Call.entry_creates? entry]
          rfl
      | take here fresh taken => exact ih.take here (reached_touches reached here taken slot)

theorem Tried.begin {message : Message} (tried : Tried slot message index s) (call : Call) :
    Tried slot message index { s with calls := s.calls ++ [call] } := by
  have stays : ∀ {found : Call}, s.calls[index]? = some found →
      (s.calls ++ [call])[index]? = some found := fun present =>
    (List.getElem?_append_left (List.getElem?_eq_some_iff.mp present).1).trans present
  rcases tried with waits | ⟨found,present,creates⟩ | settled
  · exact .inl (stays waits)
  · exact .inr (.inl ⟨found,stays present,creates⟩)
  · exact .inr (.inr settled)

theorem Tried.take {message : Message} {other : Nat} (tried : Tried slot message other s)
    (reached : Reached relay s) (here : s.calls[index]? = some call) (fresh : s.fresh reply = true)
    (taken : Transition relay s.state reply call state after acts) :
    Tried slot message other (s.log state ⟨index,reply,call,after,acts⟩) := by
  have grows := advance_grows reached (advance_complete (.take here fresh taken))
  have inside := (List.getElem?_eq_some_iff.mp here).1
  rw [Tried,trace_log]
  rcases tried with waits | ⟨found,present,creates⟩ | ⟨publisher,held⟩ | ⟨record,member,misses⟩
  · by_cases mine : index = other
    · subst mine
      cases here.symm.trans waits
      cases taken with
      | join held => exact .inr (.inr (.inl ⟨_,held⟩))
      | start => exact .inr (.inl ⟨_,List.getElem?_set_self inside,rfl⟩)
    · exact .inl ((List.getElem?_set_ne mine).trans waits)
  · by_cases mine : index = other
    · subst mine
      cases here.symm.trans present
      rcases (reached_touches reached here taken slot).onward (beq_iff_eq.mpr creates) with
        turn | misses | held
      · exact .inr (.inl ⟨after,List.getElem?_set_self inside,beq_iff_eq.mp turn⟩)
      · refine .inr (.inr (.inr ⟨⟨index,reply,call,after,acts⟩,?_,misses⟩))
        rw [if_pos rfl]
        exact List.mem_append_right _ (List.mem_singleton_self _)
      · exact .inr (.inr (.inl held))
    · exact .inr (.inl ⟨found,(List.getElem?_set_ne mine).trans present,creates⟩)
  · exact .inr (.inr (.inl ⟨publisher,grows.holds _ _ held⟩))
  · refine .inr (.inr (.inr ⟨record,?_,misses⟩))
    split
    · exact List.mem_append_left _ member
    · exact member

theorem reached_tried (reached : Reached relay s) : ∀ record ∈ s.history, ∀ message slot,
    record.after = .acquiring message (.waiting slot) → Tried slot message record.call s := by
  induction reached with
  | initial => simp
  | step reached advanced ih =>
      cases advance_sound advanced with
      | begin entry =>
          intro record member message slot looked
          exact (ih record member message slot looked).begin _
      | take here fresh taken =>
          refine forall_recorded.mpr ⟨?_,?_⟩
          · intro record member message slot looked
            exact (ih record member message slot looked).take reached here fresh taken
          · intro message slot looked
            cases looked
            exact .inl (List.getElem?_set_self (List.getElem?_eq_some_iff.mp here).1)

structure Awaits (relay : Relay) (slot : SlotId) (message : Message) (index : Nat) (s : System) :
    Prop where
  begins : s.state.pool.content slot = .empty → ∃ next,
    s.advance relay (.advance index none) = some next ∧
    next.calls[index]? = some (.fetching message slot) ∧
    next.acts = s.acts ++ [.ask (.fetch message.device)]
  joins : ∀ publisher, s.state.pool.content slot = .holds publisher → ∃ next,
    s.advance relay (.advance index none) = some next ∧
    next.calls[index]? = some (.acquiring message (.checking slot publisher false)) ∧
    next.acts = s.acts
  waits : s.state.pool.content slot = .opening →
    (∀ reply, s.advance relay (.advance index reply) = none) ∧
    ∃ call ∈ s.calls, call.creates slot = true

theorem reached_awaits (reached : Reached relay s) {message : Message}
    (here : s.calls[index]? = some (.acquiring message (.waiting slot))) :
    Awaits relay slot message index s := by
  have inside := (List.getElem?_eq_some_iff.mp here).1
  constructor
  case begins =>
    intro free
    refine ⟨_,advance_complete (.take here rfl (.start free)),List.getElem?_set_self inside,?_⟩
    rw [acts_log]
  case joins =>
    intro publisher held
    refine ⟨_,advance_complete (.take here rfl (.join held)),List.getElem?_set_self inside,?_⟩
    rw [acts_log,List.append_nil]
  case waits =>
    intro opening
    constructor
    · intro reply
      refine Option.eq_none_iff_forall_ne_some.mpr fun next advanced => ?_
      cases advance_sound advanced with
      | take there fresh taken =>
          cases here.symm.trans there
          cases taken with
          | join held => cases opening.symm.trans held
          | start free => cases opening.symm.trans free
    · have busy := (reached_turned reached slot).busy
      rw [opening] at busy
      exact List.countP_pos_iff.mp (by rw [busy]; exact Nat.one_pos)

def failedCallers (slot : SlotId) (s : System) : Nat :=
  (List.range s.calls.length).countP fun index => (s.trace index).any (Record.misses slot)

theorem Ledger.failedCallers {entries : List Call} (ledger : Ledger relay entries s)
    (slot : SlotId) : s.failedCallers slot = s.history.countP (Record.misses slot) := by
  rw [System.failedCallers,countP_toNat,countP_toNat,ledger.sum]
  refine congrArg List.sum (List.map_congr_left fun index member => ?_)
  have inside := List.mem_range.mp member
  have begun := List.getElem?_eq_getElem (ledger.length ▸ inside)
  have course := ledger.course index _ _ begun (List.getElem?_eq_getElem inside)
  rw [← countP_toNat,course.misses_once]

theorem quiet_unfailed (reached : Reached relay s) (quiet : s.quiet) (slot : SlotId) :
    (s.state.pool.content slot).unfailed = (s.state.pool.held? slot).isSome.toNat := by
  have busy := (reached_turned reached slot).busy
  rw [quiet_countP quiet rfl] at busy
  rw [Pool.held?]
  cases content : s.state.pool.content slot with
  | opening =>
      rw [content] at busy
      cases busy
  | _ => rfl

theorem run_append {front back : List Move} :
    s.run relay (front ++ back) = (s.run relay front).bind (run relay · back) := by
  induction front generalizing s with
  | nil => rfl
  | cons move front ih =>
      simp only [List.cons_append,run]
      cases s.advance relay move with
      | none => rfl
      | some middle => exact ih

end System

theorem made_append (front back : List Move) : made (front ++ back) = made front ++ made back :=
  List.filterMap_append ..

-- Failures while publishers are created, in any run. No step of a call whose attempt fails touches
-- anybody else's slot, any publisher or the mirror; a caller is told of a fault only if it is that
-- of its own attempt; a caller that waits goes on with an attempt of its own or with the publisher
-- of the slot; and there are as many attempts as callers that failed, and one more for the
-- publisher.
theorem failures_isolated_and_retried {relay : Relay} {moves : List Move} {s : System}
    (ran : System.run relay {} moves = some s) :
    (∀ front index reply back before after, moves = front ++ .advance index reply :: back →
      System.run relay {} front = some before →
      before.advance relay (.advance index reply) = some after →
      (∃ record ∈ s.trace index, record.failure?.isSome) →
      ∃ device subFolder data,
        (made moves)[index]? = some (.publish device (some subFolder) data) ∧
        System.Isolated relay device index before after) ∧
    (∀ record ∈ s.history, ∃ entry, (made moves)[record.call]? = some entry ∧
      (∀ slot fault, record.failure? = some (slot,fault) →
        Blamed relay entry (s.trace record.call) record slot fault) ∧
      (∀ device fault, .note (.publisherFailed relay.registry device fault) ∈ record.acts →
        ∃ slot, record.failure? = some (slot,fault)) ∧
      ((∃ slot, record.attempts slot = true) ↔ ∃ device, .ask (.fetch device) ∈ record.acts)) ∧
    (∀ index message slot, s.calls[index]? = some (.acquiring message (.waiting slot)) →
      System.Awaits relay slot message index s) ∧
    (∀ record ∈ s.history, ∀ message slot, record.after = .acquiring message (.waiting slot) →
      System.Tried slot message record.call s) ∧
    ∀ slot, s.calls.countP (Call.creates slot) ≤ 1 ∧
      (s.quiet → s.history.countP (Record.attempts slot) =
        s.failedCallers slot + (s.state.pool.held? slot).isSome.toNat) := by
  have reached := reached_run .initial ran
  refine ⟨?_,?_,?_,System.reached_tried reached,?_⟩
  · intro front index reply back before after split first advanced failed
    have further : after.run relay back = some s := by
      rw [split,System.run_append,first,Option.bind_some,System.run,advanced] at ran
      exact ran
    obtain ⟨device,subFolder,data,begun,isolated⟩ :=
      System.failing_isolated first advanced further failed
    refine ⟨device,subFolder,data,?_,isolated⟩
    rw [split,made_append,List.getElem?_append_left (List.getElem?_eq_some_iff.mp begun).1,begun]
  · intro record member
    obtain ⟨entry,begun,blamed,told⟩ := System.reached_blamed ran member
    obtain ⟨before,next,taken⟩ := (System.run_onward ran rfl).recorded record member
    exact ⟨entry,begun,blamed,told,taken.attempts_iff⟩
  · intro index message slot here
    exact System.reached_awaits reached here
  · intro slot
    have turned := System.reached_turned reached slot
    constructor
    · rw [turned.busy]
      cases s.state.pool.content slot <;> simp [Content.turns]
    · intro quiet
      have ledger := (System.run_onward ran rfl).ledger
      rw [turned.runs,ledger.failedCallers,System.quiet_unfailed reached quiet]

-- The first of two callers at one slot fails after a teardown took the slot out of the pool. The
-- second one then fills it itself, and finds it stale.
def secondAttempt : List Move :=
  [.begin (.publish "a" (some "f") "x"),.begin (.publish "a" (some "f") "y"),.begin .terminating,
    .advance 0 none,.advance 0 none,.advance 0 none,.advance 1 none,.advance 1 none,
    .advance 2 none,.advance 2 none,.advance 2 none,
    .advance 0 (some (.fetched (.error (.transport "lost")))),.advance 1 none,
    .advance 1 (some (.fetched (.ok .sample))),.advance 1 (some (.connected (.ok 7))),
    .advance 1 none]

theorem failures_isolated_and_retried_drained : ∃ s before after,
    System.run .sample {} secondAttempt = some s ∧ s.quiet ∧
    System.run .sample {} (secondAttempt.take 11) = some before ∧
    before.advance .sample (.advance 0 (some (.fetched (.error (.transport "lost"))))) = some after ∧
    System.Isolated .sample "a" 0 before after ∧
    System.Awaits .sample 0 ⟨"a","f","y"⟩ 1 after ∧
    s.history.countP (Record.attempts 0) = 2 ∧ s.failedCallers 0 = 1 := by
  obtain ⟨s,before,after,ran,quiet,first,advanced,middle,failed,waits,runs,callers⟩ : ∃ s before after,
      System.run .sample {} secondAttempt = some s ∧ s.quiet ∧
      System.run .sample {} (secondAttempt.take 11) = some before ∧
      before.advance .sample (.advance 0 (some (.fetched (.error (.transport "lost"))))) =
        some after ∧
      System.run .sample {} (secondAttempt.take 12) = some after ∧
      ((s.trace 0).any fun record => record.failure?.isSome) = true ∧
      after.calls[1]? = some (.acquiring ⟨"a","f","y"⟩ (.waiting 0)) ∧
      s.history.countP (Record.attempts 0) = 2 ∧ s.failedCallers 0 = 1 :=
    ⟨_,_,_,rfl,by simp [System.quiet],rfl,rfl,rfl,rfl,rfl,rfl,rfl⟩
  have isolated := (failures_isolated_and_retried ran).1 _ 0 _ _ before after rfl first advanced
    (List.any_eq_true.mp failed)
  obtain ⟨device,subFolder,data,begun,isolated⟩ := isolated
  cases begun
  exact ⟨s,before,after,ran,quiet,first,advanced,isolated,
    (failures_isolated_and_retried middle).2.2.1 1 _ 0 waits,runs,callers⟩

end Relay
end RegistryRelay
