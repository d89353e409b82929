import RegistryRelay.Relay.Call

namespace RegistryRelay

structure Record where
  call : Nat
  reply : Option Reply
  before : Call
  after : Call
  acts : List Act

-- A relay with any number of calls on it. The history records every step, the oldest
-- first; no step reads it but to keep publishers apart.
structure Relay.System where
  state : Relay.State := {}
  calls : List Call := []
  history : List Record := []

def Call.isEntry : Call → Bool
  | .publish _ _ _ => true
  | .terminate .starting none => true
  | .fault _ _ => true
  | .inbound _ _ => true
  | _ => false

inductive Relay.Move where
  | begin (call : Call)
  | advance (call : Nat) (reply : Option Reply)

namespace Relay.System

def acts (s : System) : List Act := s.history.flatMap Record.acts

def events (s : System) : List Event :=
  s.acts.filterMap fun act =>
    match act with
    | .note event => some event
    | _ => none

def mirrored (s : System) : List Bundle :=
  s.acts.filterMap fun act =>
    match act with
    | .mirror bundle => some bundle
    | _ => none

def requests (s : System) : List Request :=
  s.acts.filterMap fun act =>
    match act with
    | .ask request => some request
    | _ => none

def opened (s : System) : List (PublisherId × PublisherBinding) :=
  s.acts.filterMap fun act =>
    match act with
    | .opened publisher binding => some (publisher,binding)
    | _ => none

def closed (s : System) : List PublisherId :=
  s.acts.filterMap fun act =>
    match act with
    | .close publisher => some publisher
    | _ => none

def quiet (s : System) : Prop := ∀ call ∈ s.calls, call = .finished

def fresh (s : System) : Option Reply → Bool
  | some (.connected (.ok publisher)) => !(s.opened.any fun entry => entry.1 == publisher)
  | _ => true

-- Any call may go on at any time, with any reply to what it asked for. A step that a call
-- cannot take is refused.
def advance (relay : Relay) (s : System) : Move → Option System
  | .begin call =>
      if call.isEntry then some { s with calls := s.calls ++ [call] } else none
  | .advance index reply =>
      match s.calls[index]? with
      | none => none
      | some call =>
          if s.fresh reply then
            match relay.step s.state reply call with
            | none => none
            | some (state,next,acts) =>
                some { state
                       calls := s.calls.set index next
                       history := s.history ++ [⟨index,reply,call,next,acts⟩] }
          else none

def run (relay : Relay) (s : System) : List Move → Option System
  | [] => some s
  | move :: rest => (s.advance relay move).bind (run relay · rest)

end Relay.System

inductive Relay.Reached (relay : Relay) : Relay.System → Prop where
  | initial : Reached relay {}
  | step : Reached relay s → s.advance relay move = some next → Reached relay next

theorem Relay.reached_run {relay : Relay} {s next : Relay.System} {moves : List Relay.Move}
    (reached : Relay.Reached relay s) (ran : s.run relay moves = some next) :
    Relay.Reached relay next := by
  induction moves generalizing s with
  | nil => cases ran; exact reached
  | cons move rest ih =>
      obtain ⟨middle,first,others⟩ := Option.bind_eq_some_iff.mp ran
      exact ih (.step reached first) others

end RegistryRelay
