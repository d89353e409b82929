import RegistryRelay.Pool

namespace RegistryRelay.Pool

inductive Call where
  | acquire (key : PublisherKey) (progress : Acquisition)
  | teardown (progress : Teardown)
  | acquired (key : PublisherKey) (publisher : PublisherId) (created : Bool)
  | failed (key : PublisherKey)
  | stale (key : PublisherKey) (publisher : PublisherId)
  | emptied (closed : Nat)
deriving DecidableEq, Repr

def Call.inFlight : Call → Bool
  | .acquire _ _ => true
  | .teardown _ => true
  | _ => false

-- A pool with all calls ever made on it, every publisher ever opened, and one entry for
-- each time a publisher was closed. The two lists only record: no step reads `closed`, and
-- `opened` serves to keep publishers apart.
structure Crowd where
  order : DrainOrder := .inserted
  pool : Pool := {}
  calls : List Call := []
  opened : List PublisherId := []
  closed : List PublisherId := []

inductive Move where
  | acquire (key : PublisherKey)
  | clear
  | advance (call : Nat) (opened : Option PublisherId)
deriving DecidableEq, Repr

namespace Crowd

def settle (crowd : Crowd) (pool : Pool) (index : Nat) (call : Call) : Crowd :=
  { crowd with pool, calls := crowd.calls.set index call }

def advanceAcquire (crowd : Crowd) (index : Nat) (key : PublisherKey) (progress : Acquisition)
    (opened : Option PublisherId) : Option Crowd :=
  match progress.step crowd.pool key opened with
  | none => none
  | some (pool,.proceed (.checking slot publisher true)) =>
      -- Only an attempt that was still open ends here, and no publisher is opened twice.
      if publisher ∈ crowd.opened then none
      else some { crowd.settle pool index (.acquire key (.checking slot publisher true)) with
        opened := publisher :: crowd.opened }
  | some (pool,.proceed next) => some (crowd.settle pool index (.acquire key next))
  | some (pool,.acquired publisher created) =>
      some (crowd.settle pool index (.acquired key publisher created))
  | some (pool,.failed) => some (crowd.settle pool index (.failed key))
  | some (pool,.stale publisher) =>
      some { crowd.settle pool index (.stale key publisher) with
        closed := publisher :: crowd.closed }

def advanceTeardown (crowd : Crowd) (index : Nat) (progress : Teardown) : Crowd :=
  match progress.step crowd.order crowd.pool with
  | (pool,.proceed next) => crowd.settle pool index (.teardown next)
  | (pool,.close _ publisher next) =>
      { crowd.settle pool index (.teardown next) with closed := publisher :: crowd.closed }
  | (pool,.finished closed) => crowd.settle pool index (.emptied closed)

def advance (crowd : Crowd) : Move → Option Crowd
  | .acquire key => some { crowd with calls := crowd.calls ++ [.acquire key .asking] }
  | .clear => some { crowd with calls := crowd.calls ++ [.teardown .starting] }
  | .advance index opened =>
      match crowd.calls[index]? with
      | some (.acquire key progress) => crowd.advanceAcquire index key progress opened
      | some (.teardown progress) => some (crowd.advanceTeardown index progress)
      | _ => none

def run (crowd : Crowd) : List Move → Option Crowd
  | [] => some crowd
  | move :: rest => (crowd.advance move).bind (run · rest)

end Crowd

inductive Reached : Crowd → Prop where
  | initial : Reached { order }
  | step : Reached crowd → crowd.advance move = some next → Reached next

theorem reached_run {crowd next : Crowd} {moves : List Move} (reached : Reached crowd)
    (ran : crowd.run moves = some next) : Reached next := by
  induction moves generalizing crowd with
  | nil => cases ran; exact reached
  | cons move rest ih =>
      obtain ⟨middle,first,others⟩ := Option.bind_eq_some_iff.mp ran
      exact ih (.step reached first) others

end RegistryRelay.Pool
