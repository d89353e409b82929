import RegistryRelay.Proofs.Relay.Accounting
import RegistryRelay.Proofs.Relay.Convergence

namespace RegistryRelay

def Record.Answers (record : Record) (device : String) (found : Device) : Prop :=
  record.before.request? = some (.fetch device) ∧ record.reply = some (.fetched (.ok found))

def Call.carried? : Call → Option Message
  | .acquiring message _ => some message
  | .fetching message _ => some message
  | .connecting message _ _ => some message
  | _ => none

namespace Relay

-- What a publisher may be opened with by call `index`: it is for a device in scope, it goes
-- where all traffic of the relay goes, and its key is that of the device as the directory gave
-- it to this very call.
structure Backed (relay : Relay) (history : List Record) (index : Nat) (device : String)
    (bound : PublisherBinding) : Prop where
  known : device ∈ relay.devices
  project : bound.project = relay.route.project
  region : bound.region = relay.route.region
  registry : bound.registry = relay.registry
  owner : bound.device = device
  key : ∃ found, found.keyMaterial = .ok bound.key ∧
    ∃ record ∈ history, record.call = index ∧ record.Answers device found

def OpenedFor (relay : Relay) (history : List Record) (device : String)
    (publisher : PublisherId) (bound : PublisherBinding) : Prop :=
  ∃ opening ∈ history, .opened publisher bound ∈ opening.acts ∧
    Backed relay history opening.call device bound

variable {relay : Relay} {s t : State} {reply : Option Reply} {call after : Call}
  {acts : List Act} {index : Nat} {slot : SlotId} {publisher : PublisherId}
  {device : String} {bound : PublisherBinding} {history : List Record}

theorem Backed.later (backed : Backed relay history index device bound) (more : List Record) :
    Backed relay (history ++ more) index device bound := by
  obtain ⟨found,material,record,member,asked⟩ := backed.key
  exact { backed with key := ⟨found,material,record,List.mem_append_left _ member,asked⟩ }

theorem OpenedFor.later (opened : OpenedFor relay history device publisher bound)
    (more : List Record) : OpenedFor relay (history ++ more) device publisher bound := by
  obtain ⟨opening,member,opens,backed⟩ := opened
  exact ⟨opening,List.mem_append_left _ member,opens,backed.later more⟩

def Act.Proper (relay : Relay) (history : List Record) : Act → Prop
  | .ask (.fetch device) => device ∈ relay.devices
  | .ask (.connect bound) => ∃ index, Backed relay history index bound.device bound
  | .ask (.send publisher device _ _) => ∃ bound, OpenedFor relay history device publisher bound
  | _ => True

theorem Act.Proper.later {act : Act} (proper : Act.Proper relay history act)
    (more : List Record) : Act.Proper relay (history ++ more) act := by
  cases act with
  | ask request =>
      cases request with
      | fetch device => exact proper
      | connect bound =>
          obtain ⟨index,backed⟩ := proper
          exact ⟨index,backed.later more⟩
      | send publisher device topic payload =>
          obtain ⟨bound,opened⟩ := proper
          exact ⟨bound,opened.later more⟩
      | update => trivial
  | _ => trivial

theorem Account.owner {entry : Call} {came : List Outcome} {went : List Act} {message : Message}
    (account : Account relay entry call came went) (carried : call.carried? = some message) :
    Carries relay entry message := by
  cases account with
  | acquiring carries | fetching carries | connecting carries =>
      cases carried
      exact carries
  | _ => cases carried

theorem Account.scope {entry : Call} {came : List Outcome} {went : List Act} {message : Message}
    (account : Account relay entry call came went) (carried : call.carried? = some message) :
    message.device ∈ relay.devices :=
  List.contains_iff_mem.mp (account.owner carried).2

theorem Transition.held (taken : Transition relay s reply call t after acts)
    (held : t.pool.content slot = .holds publisher) : s.pool.content slot = .holds publisher ∨
      ∃ message bound, call = .connecting message slot bound ∧
        acts = [.opened publisher bound] := by
  cases taken with
  | look =>
      rw [Pool.content_slotFor] at held
      exact .inl held
  | start | notFetched | noKey | notConnected =>
      rcases Pool.held_fill held with old | ⟨_,new⟩
      · exact .inl old
      · cases new
  | connected =>
      rcases Pool.held_fill held with old | ⟨rfl,new⟩
      · exact .inl old
      · cases new
        exact .inr ⟨_,_,rfl,rfl⟩
  | _ => exact .inl held

theorem Transition.cached (taken : Transition relay s reply call t after acts)
    {entry : PublisherKey × SlotId} (member : entry ∈ t.pool.cached) : entry ∈ s.pool.cached ∨
      ∃ message, call.carried? = some message ∧ entry.1 = relay.publisherKey message.device := by
  cases taken with
  | look =>
      rcases Pool.mem_slotFor.mp member with old | rfl
      · exact .inl old
      · exact .inr ⟨_,rfl,rfl⟩
  | drain => cases member
  | _ => exact .inl member

namespace System

variable {s next : System} {state : State}

theorem reached_scope (reached : Reached relay s) (here : s.calls[index]? = some call)
    {message : Message} (carried : call.carried? = some message) :
    message.device ∈ relay.devices := by
  obtain ⟨entries,way⟩ := reached_onward reached
  have ledger := way.ledger
  have inside := (List.getElem?_eq_some_iff.mp here).1
  rw [ledger.length] at inside
  have begun := List.getElem?_eq_getElem inside
  have entry := ledger.entry _ (List.getElem_mem inside)
  exact ((ledger.course index _ call begun here).account entry).scope carried

theorem opened_unique (reached : Reached relay s) {other : PublisherBinding}
    (one : .opened publisher bound ∈ s.acts) (two : .opened publisher other ∈ s.acts) :
    bound = other := by
  induction reached with
  | initial => cases one
  | step reached advanced ih =>
      cases advance_sound advanced with
      | begin entry => exact ih one two
      | take here fresh taken =>
          rw [acts_log] at one two
          rcases List.mem_append.mp one with old | new
          · rcases List.mem_append.mp two with old' | new'
            · exact ih old old'
            · cases taken with
              | connected =>
                  cases List.mem_singleton.mp new'
                  exact absurd old (fresh_unopened fresh)
              | _ => simp at new'
          · cases taken with
            | connected =>
                cases List.mem_singleton.mp new
                rcases List.mem_append.mp two with old' | new'
                · exact absurd old' (fresh_unopened fresh)
                · cases List.mem_singleton.mp new'
                  rfl
            | _ => simp at new

theorem reached_backed (reached : Reached relay s) {message : Message}
    (here : s.calls[index]? = some (.connecting message slot bound)) :
    Backed relay s.history index message.device bound := by
  induction reached with
  | initial => cases here
  | step reached advanced ih =>
      cases advance_sound advanced with
      | begin entry =>
          rcases call_made here with old | ⟨_,rfl⟩
          · exact ih old
          · cases entry
      | take before fresh taken =>
          rcases call_taken here with ⟨rfl,rfl⟩ | ⟨_,old⟩
          · cases taken with
            | fetched material =>
                refine ⟨reached_scope reached before rfl,rfl,rfl,rfl,rfl,_,material,_,
                  List.mem_append_right _ (List.mem_singleton_self _),rfl,rfl,rfl⟩
          · exact (ih old).later _

theorem reached_keys (reached : Reached relay s) {entry : PublisherKey × SlotId}
    (member : entry ∈ s.state.pool.cached) :
    ∃ device ∈ relay.devices, entry.1 = relay.publisherKey device := by
  induction reached with
  | initial => cases member
  | step reached advanced ih =>
      cases advance_sound advanced with
      | begin entry => exact ih member
      | take here fresh taken =>
          rcases taken.cached member with old | ⟨message,carried,key⟩
          · exact ih old
          · exact ⟨message.device,reached_scope reached here carried,key⟩

theorem reached_owned (reached : Reached relay s)
    (held : s.state.pool.content slot = .holds publisher) :
    ∃ device bound, s.state.pool.keyOf? slot = some (relay.publisherKey device) ∧
      OpenedFor relay s.history device publisher bound := by
  induction reached with
  | initial => cases held
  | step reached advanced ih =>
      have grows := advance_grows reached advanced
      cases advance_sound advanced with
      | begin entry => exact ih held
      | take here fresh taken =>
          rcases taken.held held with old | ⟨message,bound,rfl,opens⟩
          · obtain ⟨device,bound,key,opened⟩ := ih old
            exact ⟨device,bound,grows.keys _ _ key,opened.later _⟩
          · have fits := (reached_sound reached).fits _ _ (Pool.visitsOf_here _ here)
            have backed := (reached_backed reached here).later
            refine ⟨message.device,bound,grows.keys _ _ fits.1,_,
              List.mem_append_right _ (List.mem_singleton_self _),?_,backed _⟩
            rw [opens]
            exact List.mem_singleton_self _

theorem take_proper (reached : Reached relay s) (here : s.calls[index]? = some call)
    (taken : Transition relay s.state reply call state after acts) :
    ∀ act ∈ acts, Act.Proper relay (s.history ++ [⟨index,reply,call,after,acts⟩]) act := by
  have later : ∀ {act}, Act.Proper relay s.history act →
      Act.Proper relay (s.history ++ [⟨index,reply,call,after,acts⟩]) act := fun proper =>
    proper.later _
  cases taken with
  | start =>
      rintro act member
      cases List.mem_singleton.mp member
      exact reached_scope reached here rfl
  | deliver =>
      rename_i message slot publisher created cached
      have fits := (reached_sound reached).fits _ _ (Pool.visitsOf_here _ here)
      obtain ⟨device,bound,key,opened⟩ := reached_owned reached fits.2
      cases publisherKey_inj (Option.some.inj (fits.1.symm.trans key))
      simp only [List.forall_mem_cons,List.not_mem_nil,IsEmpty.forall_iff,implies_true,and_true]
      exact ⟨trivial,later ⟨bound,opened⟩⟩
  | fetched material =>
      rintro act member
      cases List.mem_singleton.mp member
      refine ⟨index,reached_scope reached here rfl,rfl,rfl,rfl,rfl,_,material,_,
        List.mem_append_right _ (List.mem_singleton_self _),rfl,rfl,rfl⟩
  | _ => simp [Act.Proper]

theorem reached_proper (reached : Reached relay s) :
    ∀ act ∈ s.acts, Act.Proper relay s.history act := by
  induction reached with
  | initial => simp [System.acts]
  | step reached advanced ih =>
      cases advance_sound advanced with
      | begin entry => exact ih
      | take here fresh taken =>
          rw [acts_log]
          refine List.forall_mem_append.mpr ⟨?_,take_proper reached here taken⟩
          exact fun act member => (ih act member).later _

def Owns (relay : Relay) (s : System) (device : String) (publisher : PublisherId) : Prop :=
  ∃ bound, OpenedFor relay s.history device publisher bound ∧
    ∀ other, (publisher,other) ∈ s.opened → other = bound

theorem reached_owns (reached : Reached relay s)
    (opened : OpenedFor relay s.history device publisher bound) :
    Owns relay s device publisher := by
  refine ⟨bound,opened,fun other member => ?_⟩
  obtain ⟨opening,recorded,opens,_⟩ := opened
  exact opened_unique reached (mem_opened.mp member) (List.mem_flatMap.mpr ⟨opening,recorded,opens⟩)

end System
end Relay

-- Whatever the order of the steps, every slot is that of a device in scope, its publisher was
-- opened for this device with the device's own key, and every message of a device is handed to
-- such a publisher. So the directory and the factory are asked for devices in scope only.
theorem messages_to_own_publisher {relay : Relay} {s : Relay.System}
    (reached : Relay.Reached relay s) :
    (∀ key slot, (key,slot) ∈ s.state.pool.cached →
      ∃ device ∈ relay.devices, key = ⟨relay.route.project,relay.registry,device⟩ ∧
        ∀ publisher, s.state.pool.held? slot = some publisher →
          Relay.System.Owns relay s device publisher) ∧
    (∀ publisher device topic payload, .send publisher device topic payload ∈ s.requests →
      device ∈ relay.devices ∧ Relay.System.Owns relay s device publisher) ∧
    (∀ device, .fetch device ∈ s.requests → device ∈ relay.devices) ∧
    (∀ bound, .connect bound ∈ s.requests →
      ∃ index, Relay.Backed relay s.history index bound.device bound) := by
  have proper := Relay.System.reached_proper reached
  refine ⟨?_,?_,?_,?_⟩
  · intro key slot member
    obtain ⟨device,known,same⟩ := Relay.System.reached_keys reached member
    refine ⟨device,known,same,fun publisher held => ?_⟩
    have content := Pool.held?_eq_some_iff.mp held
    obtain ⟨owner,bound,placed,opened⟩ := Relay.System.reached_owned reached content
    have here := (Relay.reached_sound reached).orderly.placed key slot member
    have mine : key = relay.publisherKey owner := Option.some.inj (here.symm.trans placed)
    cases Relay.publisherKey_inj (same.symm.trans mine)
    exact Relay.System.reached_owns reached opened
  · intro publisher device topic payload member
    obtain ⟨bound,opened⟩ := proper _ (Relay.System.mem_requests.mp member)
    have owns := Relay.System.reached_owns reached opened
    obtain ⟨_,_,_,backed⟩ := opened
    exact ⟨backed.known,owns⟩
  · intro device member
    exact proper _ (Relay.System.mem_requests.mp member)
  · intro bound member
    exact proper _ (Relay.System.mem_requests.mp member)

-- Two devices at once, with their publishers opened in the order opposite to that of the calls.
-- A third call shares the publisher that the first one opens.
def Relay.pair : Relay := { Relay.sample with devices := ["a","b"] }

def Device.other : Device :=
  ⟨"b",Dict.ofPairs [(Device.algorithmKey,"ES256"),(Device.bytesKey,"AQID")]⟩

def crossed : List Relay.Move :=
  [.begin (.publish "a" (some "f") "x"),.begin (.publish "b" (some "f") "y"),
    .begin (.publish "a" (some "g") "z"),.advance 0 none,.advance 1 none,.advance 2 none,
    .advance 0 none,.advance 1 none,.advance 2 none,.advance 1 none,.advance 0 none,
    .advance 1 (some (.fetched (.ok .other))),.advance 0 (some (.fetched (.ok .sample))),
    .advance 1 (some (.connected (.ok 7))),.advance 0 (some (.connected (.ok 8))),
    .advance 2 none,.advance 1 none,.advance 2 none]

theorem messages_to_own_publisher_crossed : ∃ s,
    Relay.System.run .pair {} crossed = some s ∧
    s.requests.filter (· matches .send ..) =
      [.send 7 "b" "events/f" "y",.send 8 "a" "events/g" "z"] ∧
    Relay.System.Owns .pair s "a" 8 ∧ Relay.System.Owns .pair s "b" 7 := by
  obtain ⟨s,ran,sent⟩ : ∃ s, Relay.System.run .pair {} crossed = some s ∧
      s.requests.filter (· matches .send ..) =
        [.send 7 "b" "events/f" "y",.send 8 "a" "events/g" "z"] := ⟨_,rfl,rfl⟩
  have own := (messages_to_own_publisher (Relay.reached_run .initial ran)).2.1
  have handed : ∀ request ∈ [Request.send 7 "b" "events/f" "y",.send 8 "a" "events/g" "z"],
      request ∈ s.requests := fun request member =>
    List.mem_of_mem_filter (sent.symm ▸ member)
  exact ⟨s,ran,sent,(own 8 "a" "events/g" "z" (handed _ (by simp))).2,
    (own 7 "b" "events/f" "y" (handed _ (by simp))).2⟩

end RegistryRelay
