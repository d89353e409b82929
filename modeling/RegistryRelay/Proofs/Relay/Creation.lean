import RegistryRelay.Proofs.Relay.Onward
import RegistryRelay.Proofs.Relay.Presence

namespace RegistryRelay

def Record.drains (record : Record) : Bool :=
  match record.before with
  | .terminate .starting _ => true
  | _ => false

def Record.starts? (record : Record) : Option SlotId :=
  match record.before,record.after with
  | .acquiring _ (.waiting slot),.fetching _ _ => some slot
  | _,_ => none

def Record.fills? (record : Record) : Option SlotId :=
  match record.before,record.after with
  | .connecting _ slot _,.acquiring _ _ => some slot
  | _,_ => none

def Record.delivers? (relay : Relay) (record : Record) : Option (PublisherKey × PublisherId) :=
  match record.after with
  | .sending message publisher => some (relay.publisherKey message.device,publisher)
  | _ => none

-- The slot a call creates a publisher for: it fetches the device, takes its key out, and
-- connects.
def Call.creates? : Call → Option SlotId
  | .fetching _ slot => some slot
  | .connecting _ slot _ => some slot
  | _ => none

theorem Record.delivers?_sending {relay : Relay} {record : Record} {key : PublisherKey}
    {publisher : PublisherId} (delivers : record.delivers? relay = some (key,publisher)) :
    ∃ message, record.after = .sending message publisher ∧
      key = relay.publisherKey message.device := by
  unfold Record.delivers? at delivers
  split at delivers
  · rename_i message found after
    cases delivers
    exact ⟨message,after,rfl⟩
  · cases delivers

theorem Call.creates?_visit {relay : Relay} {call : Call} {slot : SlotId}
    (creates : call.creates? = some slot) :
    ∃ key, call.visit? relay = some (.acquire key (.opening slot)) := by
  cases call with
  | fetching | connecting => cases creates; exact ⟨_,rfl⟩
  | _ => cases creates

namespace Relay

variable {relay : Relay} {s t : State} {reply : Option Reply} {call after : Call}
  {acts : List Act} {index : Nat} {slot : SlotId} {publisher : PublisherId}

theorem Transition.keeps (taken : Transition relay s reply call t after acts)
    (undrained : Record.drains ⟨index,reply,call,after,acts⟩ = false)
    {entry : PublisherKey × SlotId} (member : entry ∈ s.pool.cached) : entry ∈ t.pool.cached := by
  cases taken with
  | look => exact Pool.mem_slotFor.mpr (.inl member)
  | drain => cases undrained
  | _ => exact member

theorem Transition.starts (taken : Transition relay s reply call t after acts)
    (starts : Record.starts? ⟨index,reply,call,after,acts⟩ = some slot) :
    s.pool.content slot = .empty := by
  cases taken with
  | start free => cases starts; exact free
  | _ => cases starts

theorem Transition.fetches (taken : Transition relay s reply call t after acts) {device : String}
    (member : .ask (.fetch device) ∈ acts) :
    (Record.starts? ⟨index,reply,call,after,acts⟩).isSome := by
  cases taken with
  | start => rfl
  | _ => simp at member

theorem Transition.opens (taken : Transition relay s reply call t after acts)
    {bound : PublisherBinding} (member : .opened publisher bound ∈ acts) :
    (Record.fills? ⟨index,reply,call,after,acts⟩).isSome := by
  cases taken with
  | connected => rfl
  | _ => simp at member

theorem Transition.fills (taken : Transition relay s reply call t after acts)
    (fills : Record.fills? ⟨index,reply,call,after,acts⟩ = some slot) :
    call.creates? = some slot ∧ ∃ publisher, t.pool = s.pool.fill slot (.holds publisher) := by
  cases taken with
  | connected => cases fills; exact ⟨rfl,_,rfl⟩
  | _ => cases fills

namespace System

variable {s t next : System} {entries : List Call} {records : List Record} {key : PublisherKey}

theorem creator_visit (here : s.calls[index]? = some call) (creates : call.creates? = some slot) :
    ∃ key, (s.scene relay).visits index = some (.acquire key (.opening slot)) := by
  obtain ⟨key,visit⟩ := Call.creates?_visit creates
  exact ⟨key,(Pool.visitsOf_here _ here).trans visit⟩

theorem creator_opening (reached : Reached relay s) (here : s.calls[index]? = some call)
    (creates : call.creates? = some slot) : s.state.pool.content slot = .opening := by
  obtain ⟨key,visit⟩ := creator_visit here creates
  exact ((reached_sound reached).fits _ _ visit).2

theorem one_creator (reached : Reached relay s) {one two : Nat} {first second : Call}
    (here : s.calls[one]? = some first) (there : s.calls[two]? = some second)
    (creates : first.creates? = some slot) (creates' : second.creates? = some slot) :
    one = two := by
  obtain ⟨key,visit⟩ := creator_visit here creates
  obtain ⟨key',visit'⟩ := creator_visit there creates'
  exact (reached_sound reached).turn one two _ _ slot visit visit' rfl rfl

theorem reached_filled (reached : Reached relay s) :
    ∀ record ∈ s.history, record.fills? = some slot →
      ∃ publisher, s.state.pool.content slot = .holds publisher := by
  induction reached with
  | initial => simp
  | step reached advanced ih =>
      have grows := advance_grows reached advanced
      cases advance_sound advanced with
      | begin entry => exact ih
      | take here fresh taken =>
          refine forall_recorded.mpr ⟨?_,?_⟩
          · intro record member fills
            obtain ⟨publisher,held⟩ := ih record member fills
            exact ⟨publisher,grows.holds _ _ held⟩
          · intro fills
            obtain ⟨creates,publisher,pool⟩ := taken.fills fills
            obtain ⟨key,visit⟩ := creator_visit here creates
            have inside := Pool.keyOf?_lt ((reached_sound reached).fits _ _ visit).1
            refine ⟨publisher,?_⟩
            rw [log,pool]
            exact (Pool.content_fill inside _ slot).trans (if_pos rfl)

-- Once a slot holds a publisher, nobody starts to create another one for it, and nobody does.
theorem reached_once (reached : Reached relay s) :
    s.history.Pairwise fun earlier later => ∀ slot, earlier.fills? = some slot →
      later.starts? ≠ some slot ∧ later.fills? ≠ some slot := by
  induction reached with
  | initial => exact .nil
  | step reached advanced ih =>
      cases advance_sound advanced with
      | begin entry => exact ih
      | take here fresh taken =>
          refine List.pairwise_append.mpr ⟨ih,List.pairwise_singleton _ _,?_⟩
          intro earlier member later last slot filled
          cases List.mem_singleton.mp last
          obtain ⟨publisher,held⟩ := reached_filled reached earlier member filled
          constructor
          · intro starts
            cases held.symm.trans (taken.starts starts)
          · intro fills
            cases held.symm.trans (creator_opening reached here (taken.fills fills).1)

theorem Onward.keeps (way : Onward relay s entries records t)
    (undrained : ∀ record ∈ records, record.drains = false) {entry : PublisherKey × SlotId}
    (member : entry ∈ s.state.pool.cached) : entry ∈ t.state.pool.cached := by
  induction way with
  | stay => exact member
  | begin way entry ih => exact ih undrained
  | take way here fresh taken ih =>
      obtain ⟨before,last⟩ := forall_recorded.mp undrained
      exact taken.keeps last (ih before)

theorem Onward.delivered (reached : Reached relay s) (way : Onward relay s entries records t)
    (undrained : ∀ record ∈ records, record.drains = false) :
    ∀ record ∈ records, record.delivers? relay = some (key,publisher) →
      ∃ slot, (key,slot) ∈ t.state.pool.cached ∧ t.state.pool.content slot = .holds publisher := by
  induction way with
  | stay => simp
  | begin way entry ih => exact ih undrained
  | take way here fresh taken ih =>
      obtain ⟨before,last⟩ := forall_recorded.mp undrained
      have reached := way.reached reached
      have grows := advance_grows reached (advance_complete (.take here fresh taken))
      refine forall_recorded.mpr ⟨?_,?_⟩
      · intro record member delivers
        obtain ⟨slot,cached,held⟩ := ih before record member delivers
        exact ⟨slot,taken.keeps last cached,grows.holds _ _ held⟩
      · intro delivers
        obtain ⟨message,rfl,rfl⟩ := Record.delivers?_sending delivers
        obtain ⟨slot,created,rfl,cached,_⟩ := taken.sending
        have sound := reached_sound reached
        have held := (sound.fits _ _ (Pool.visitsOf_here _ here)).2
        have member := (Pool.caches_iff sound.orderly).mp cached
        exact ⟨slot,taken.keeps last member,grows.holds _ _ held⟩

end System
end Relay
end RegistryRelay
