import RegistryRelay.Bench.Rig

namespace RegistryRelay

structure Line where
  number : Nat
  relay : Relay
  handle : Nat
  state : Relay.State := {}

structure Line.World where
  line : Line
  rig : Rig

-- What became of a call: it ended, it waits for another call's turn, or it sleeps until its
-- publisher is opened.
inductive Pace where
  | ended
  | waits (call : Call)
  | sleeps (call : Call) (publisher : PublisherId)

namespace Line.World

def after (w : World) (step : Relay.Step) : World :=
  ⟨{ w.line with state := step.1 },w.rig.performAll step.2.2⟩

-- Runs a call that nothing can hold up: a signal of a publisher, or a teardown. The only
-- collaborator it asks is the directory.
def settle (w : World) (call : Call) : World :=
  let (reply,rig) : Option Reply × Rig :=
    match call with
    | .updating device payload =>
        let (fault,rig) := w.rig.updateDevice w.line.handle device payload
        (some (.updated fault),rig)
    | _ => (none,w.rig)
  let w : World := ⟨w.line,rig⟩
  match _stepped : w.line.relay.step w.line.state reply call with
  | none => w
  | some step => settle (w.after step) step.2.1
termination_by (call.rank,call.pending)
decreasing_by
  rcases Relay.step_descends _stepped with less | ⟨same,less⟩
  · exact Prod.Lex.left _ _ less
  · rw [same]; exact Prod.Lex.right _ less

-- What a publisher does to its listener while it is being opened or used. The answer is
-- the failure that ends the call, if one does.
def interrupt (w : World) (device : String) : List Action → World × Option Fault
  | [] => (w,none)
  | .message topic payload :: rest => interrupt (w.settle (.inbound topic payload)) device rest
  | .error fault :: rest => interrupt (w.settle (.fault device fault)) device rest
  | .fail fault :: _ => (w,some fault)

inductive Answer where
  | now (reply : Option Reply)
  | later (publisher : PublisherId)

def respond (w : World) (call : Call) : World × Answer :=
  match call with
  | .fetching message _ =>
      let (found,rig) := w.rig.fetchDevice w.line.handle message.device
      (⟨w.line,rig⟩,.now (some (.fetched found)))
  | .connecting message _ binding =>
      let (publisher,actions,rig) := w.rig.beginAttempt w.line.number message.device
      match interrupt ⟨w.line,rig⟩ message.device actions with
      | (w,some fault) => (w,.now (some (.connected (.error fault))))
      | (w,none) =>
          let rig := w.rig.record (.attempted publisher)
          if rig.delayed then (⟨w.line,rig⟩,.later publisher)
          else
            let (result,rig) := rig.openPublisher publisher binding
            (⟨w.line,rig⟩,.now (some (.connected result)))
  | .sending message publisher =>
      let (actions,rig) := w.rig.beginSend
      match interrupt ⟨w.line,rig⟩ message.device actions with
      | (w,some fault) => (w,.now (some (.sent (some fault))))
      | (w,none) =>
          let (fault,rig) := w.rig.send publisher message.device message.topic message.data
          (⟨w.line,rig⟩,.now (some (.sent fault)))
  | .updating device payload =>
      let (fault,rig) := w.rig.updateDevice w.line.handle device payload
      (⟨w.line,rig⟩,.now (some (.updated fault)))
  | _ => (w,.now none)

def run (w : World) (call : Call) : World × Pace :=
  match w.respond call with
  | (w,.later publisher) => (w,.sleeps call publisher)
  | (w,.now reply) =>
      match _stepped : w.line.relay.step w.line.state reply call with
      | some step => run (w.after step) step.2.1
      | none =>
          match call with
          | .finished => (w,.ended)
          | _ => (w,.waits call)
termination_by (call.rank,call.pending)
decreasing_by
  rcases Relay.step_descends _stepped with less | ⟨same,less⟩
  · exact Prod.Lex.left _ _ less
  · rw [same]; exact Prod.Lex.right _ less

def resume (w : World) : Pace → World × Pace
  | .ended => (w,.ended)
  | .waits call => w.run call
  | .sleeps call publisher =>
      match call with
      | .connecting _ _ binding =>
          let (result,rig) := w.rig.openPublisher publisher binding
          let w : World := ⟨w.line,rig⟩
          match w.line.relay.step w.line.state (some (.connected result)) call with
          | some step => run (w.after step) step.2.1
          | none => (w,.sleeps call publisher)
      | _ => (w,.sleeps call publisher)

-- Runs a call on its own to the end. It sleeps at most once.
def complete (w : World) (call : Call) : World :=
  let (w,pace) := w.run call
  (w.resume pace).1

end Line.World
end RegistryRelay
