import RegistryRelay.Proofs.Relay.Transition
import RegistryRelay.Relay.Interleaving

namespace RegistryRelay.Relay.System

def log (s : System) (state : State) (record : Record) : System :=
  ⟨state,s.calls.set record.call record.after,s.history ++ [record]⟩

inductive Advance (relay : Relay) (s : System) : Move → System → Prop where
  | begin (entry : call.isEntry = true) :
      Advance relay s (.begin call) { s with calls := s.calls ++ [call] }
  | take {state : State} {acts : List Act} (here : s.calls[index]? = some call)
      (fresh : s.fresh reply = true) (taken : Transition relay s.state reply call state after acts) :
      Advance relay s (.advance index reply) (s.log state ⟨index,reply,call,after,acts⟩)

variable {relay : Relay} {s next : System}

theorem advance_sound {move : Move} (advanced : s.advance relay move = some next) :
    Advance relay s move next := by
  cases move with
  | begin call =>
      simp only [advance] at advanced
      split at advanced
      · rename_i entry; cases advanced; exact .begin entry
      · cases advanced
  | advance index reply =>
      simp only [advance] at advanced
      split at advanced
      · cases advanced
      · rename_i here
        split at advanced
        · rename_i fresh
          split at advanced
          · cases advanced
          · rename_i stepped; cases advanced; exact .take here fresh (step_sound stepped)
        · cases advanced

theorem advance_complete {move : Move} (made : Advance relay s move next) :
    s.advance relay move = some next := by
  cases made with
  | begin entry => simp [advance,entry]
  | take here fresh taken => simp [advance,here,fresh,step_complete taken,log]

theorem call_made {calls : List Call} {call found : Call} {index : Nat}
    (present : (calls ++ [call])[index]? = some found) :
    calls[index]? = some found ∨ index = calls.length ∧ found = call := by
  rw [List.getElem?_append] at present
  split at present
  · exact .inl present
  · rename_i beyond
    rw [List.getElem?_singleton] at present
    split at present
    · rename_i last
      cases present
      exact .inr ⟨Nat.le_antisymm (Nat.sub_eq_zero_iff_le.mp last) (Nat.not_lt.mp beyond),rfl⟩
    · cases present

theorem call_taken {calls : List Call} {call found : Call} {index other : Nat}
    (present : (calls.set index call)[other]? = some found) :
    other = index ∧ found = call ∨ other ≠ index ∧ calls[other]? = some found := by
  by_cases same : other = index
  · subst same
    obtain ⟨inside,_⟩ := List.getElem?_eq_some_iff.mp present
    rw [List.getElem?_set_self (by simpa using inside)] at present
    cases present
    exact .inl ⟨rfl,rfl⟩
  · rw [List.getElem?_set_ne (Ne.symm same)] at present
    exact .inr ⟨same,present⟩

theorem mem_closed {publisher : PublisherId} : publisher ∈ s.closed ↔ .close publisher ∈ s.acts := by
  simp only [closed,List.mem_filterMap]
  constructor
  · intro recorded
    obtain ⟨act,member,found⟩ := recorded
    split at found <;> cases found
    exact member
  · exact fun member => ⟨_,member,rfl⟩

theorem mem_opened {publisher : PublisherId} {bound : PublisherBinding} :
    (publisher,bound) ∈ s.opened ↔ .opened publisher bound ∈ s.acts := by
  simp only [opened,List.mem_filterMap]
  constructor
  · intro recorded
    obtain ⟨act,member,found⟩ := recorded
    split at found <;> cases found
    exact member
  · exact fun member => ⟨_,member,rfl⟩

theorem mem_requests {request : Request} : request ∈ s.requests ↔ .ask request ∈ s.acts := by
  simp only [requests,List.mem_filterMap]
  constructor
  · intro recorded
    obtain ⟨act,member,found⟩ := recorded
    split at found <;> cases found
    exact member
  · exact fun member => ⟨_,member,rfl⟩

theorem acts_log (state : State) (record : Record) :
    (s.log state record).acts = s.acts ++ record.acts := by simp [System.acts,log]

theorem fresh_unopened {publisher : PublisherId} {bound : PublisherBinding}
    (fresh : s.fresh (some (.connected (.ok publisher))) = true) :
    .opened publisher bound ∉ s.acts := by
  intro member
  have used : (s.opened.any fun entry => entry.1 == publisher) = true :=
    List.any_eq_true.mpr ⟨_,mem_opened.mpr member,by simp⟩
  simp [System.fresh,used] at fresh

end RegistryRelay.Relay.System

namespace RegistryRelay

-- A relay for one device, and the device as its directory has it. The runs that are shown
-- beside general results use them.
def Relay.sample : Relay where
  registry := "reg"
  route := ⟨"dst","eu"⟩
  devices := ["a"]

def Device.sample : Device :=
  ⟨"a",Dict.ofPairs [(Device.algorithmKey,"RS256"),(Device.bytesKey,"")]⟩

end RegistryRelay
