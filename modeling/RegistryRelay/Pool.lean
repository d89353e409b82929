import RegistryRelay.Event

namespace RegistryRelay

abbrev PublisherId := Nat

-- A slot keeps its number for good, also after it has left the pool.
abbrev SlotId := Nat

inductive Content where
  | empty
  | opening
  | holds (publisher : PublisherId)
deriving DecidableEq, Repr

structure Slot where
  key : PublisherKey
  content : Content
deriving DecidableEq, Repr

-- All slots ever made, by number, and those that are in the pool now, by key. A slot that
-- was drained still serves the callers that found it before.
structure Pool where
  slots : List Slot := []
  cached : List (PublisherKey × SlotId) := []
deriving DecidableEq, Repr

namespace Pool

def slot? (pool : Pool) (key : PublisherKey) : Option SlotId := pool.cached.lookup key

def caches (pool : Pool) (key : PublisherKey) (slot : SlotId) : Bool :=
  pool.slot? key == some slot

def content (pool : Pool) (slot : SlotId) : Content :=
  match pool.slots[slot]? with
  | some found => found.content
  | none => .empty

def slotFor (pool : Pool) (key : PublisherKey) : Pool × SlotId :=
  match pool.slot? key with
  | some slot => (pool,slot)
  | none =>
      ({ slots := pool.slots ++ [⟨key,.empty⟩]
         cached := pool.cached ++ [(key,pool.slots.length)] },pool.slots.length)

def fill (pool : Pool) (slot : SlotId) (content : Content) : Pool :=
  { pool with slots := pool.slots.modify slot fun found => { found with content } }

def held? (pool : Pool) (slot : SlotId) : Option PublisherId :=
  match pool.content slot with
  | .holds publisher => some publisher
  | _ => none

def publishers (pool : Pool) : List PublisherId :=
  pool.cached.filterMap fun entry => pool.held? entry.2

def size (pool : Pool) : Nat := pool.publishers.length

end Pool

-- How far a caller has come that asks for the publisher of a key. The last stage checks that the
-- slot is still the one in the pool; `created` remembers whose publisher it is.
inductive Acquisition where
  | asking
  | waiting (slot : SlotId)
  | opening (slot : SlotId)
  | checking (slot : SlotId) (publisher : PublisherId) (created : Bool)
deriving DecidableEq, Repr

inductive Acquisition.Next where
  | proceed (next : Acquisition)
  | acquired (publisher : PublisherId) (created : Bool)
  | failed
  | stale (publisher : PublisherId)
deriving DecidableEq, Repr

-- `opened` is what the caller's own attempt came to, and only the caller that has the turn looks
-- at it. After a failure the turn is free again, and the error stays with the caller that had it.
def Acquisition.step (pool : Pool) (key : PublisherKey) (opened : Option PublisherId) :
    Acquisition → Option (Pool × Acquisition.Next)
  | .asking =>
      let (pool,slot) := pool.slotFor key
      some (pool,.proceed (.waiting slot))
  | .waiting slot =>
      match pool.content slot with
      | .holds publisher => some (pool,.proceed (.checking slot publisher false))
      | .empty => some (pool.fill slot .opening,.proceed (.opening slot))
      | .opening => none
  | .opening slot =>
      match opened with
      | some publisher =>
          some (pool.fill slot (.holds publisher),.proceed (.checking slot publisher true))
      | none => some (pool.fill slot .empty,.failed)
  | .checking slot publisher created =>
      if pool.caches key slot then some (pool,.acquired publisher created)
      else some (pool,.stale publisher)

-- The order in which a pool gives up its entries; it hangs on nothing that a caller can see. Slots
-- are numbered, so no two drains give up the same entries, and one function stands for a choice
-- that is made anew each time.
structure DrainOrder where
  arrange : List (PublisherKey × SlotId) → List (PublisherKey × SlotId)
  perm : ∀ entries, (arrange entries).Perm entries

def DrainOrder.inserted : DrainOrder := ⟨id,fun _ => .rfl⟩

-- A teardown empties the pool at once and then closes what the drained slots hold, one after the
-- other. A slot that is still empty when its turn comes is passed over; whoever fills it later
-- finds it stale.
inductive Teardown where
  | starting
  | closing (left : List (PublisherKey × SlotId)) (closed : Nat)
deriving DecidableEq, Repr

inductive Teardown.Next where
  | proceed (next : Teardown)
  | close (key : PublisherKey) (publisher : PublisherId) (next : Teardown)
  | finished (closed : Nat)
deriving DecidableEq, Repr

def Teardown.step (order : DrainOrder) (pool : Pool) : Teardown → Pool × Teardown.Next
  | .starting => ({ pool with cached := [] },.proceed (.closing (order.arrange pool.cached) 0))
  | .closing [] closed => (pool,.finished closed)
  | .closing ((key,slot) :: left) closed =>
      match pool.held? slot with
      | some publisher => (pool,.close key publisher (.closing left (closed + 1)))
      | none => (pool,.proceed (.closing left closed))

end RegistryRelay
