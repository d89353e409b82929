import RegistryRelay.Proofs.Relay.Onward

namespace RegistryRelay

def Event.dropsUnknown (device : String) (event : Event) : Bool :=
  event.name == .publishDropUnknownDevice &&
    event.details.contains (Event.deviceField,.text device)

def Act.dropsUnknown (device : String) : Act → Bool
  | .note event => event.dropsUnknown device
  | _ => false

theorem Event.dropsUnknown_unknownDevice (registry owner subFolder device : String) :
    (Event.unknownDevice registry owner subFolder).dropsUnknown device = decide (device = owner) := by
  simp [Event.dropsUnknown,Event.name,Event.details,Event.registryField,Event.deviceField,
    Event.subFolderField,Event.reasonField]

theorem Relay.System.events_countP (s : Relay.System) (device : String) :
    s.events.countP (Event.dropsUnknown device) = s.acts.countP (Act.dropsUnknown device) := by
  rw [Relay.System.events,List.countP_filterMap]
  refine List.countP_congr fun act _ => ?_
  cases act <;> simp [Act.dropsUnknown]

namespace Relay

variable {relay : Relay} {s t : State} {reply : Option Reply} {call after : Call}
  {acts : List Act} {index : Nat} {device : String}

theorem Transition.ignored (taken : Transition relay s reply call t after acts) :
    (t.ignored = s.ignored ∧ ∀ device, acts.countP (Act.dropsUnknown device) = 0) ∨
    ∃ device subFolder data, call = .publish device (some subFolder) data ∧
      device ∉ relay.devices ∧ device ∉ s.ignored ∧ t.ignored = device :: s.ignored ∧
      acts = [.note (.unknownDevice relay.registry device subFolder)] := by
  cases taken with
  | ignore unknown unseen =>
      rename_i device subFolder data
      refine .inr ⟨device,subFolder,data,rfl,?_,?_,rfl,rfl⟩
      · simpa using unknown
      · simpa using unseen
  | deliver =>
      rename_i message slot publisher created cached
      refine .inl ⟨rfl,fun device => ?_⟩
      cases created <;> simp [Act.dropsUnknown,Event.dropsUnknown,Event.name]
  | _ => exact .inl ⟨rfl,by simp [Act.dropsUnknown,Event.dropsUnknown,Event.name]⟩

theorem Transition.ignores {subFolder data : String}
    (taken : Transition relay s reply (.publish device (some subFolder) data) t after acts)
    (unknown : device ∉ relay.devices) : device ∈ t.ignored := by
  cases taken with
  | attempt known => exact absurd (List.contains_iff_mem.mp known) unknown
  | ignoreAgain _ seen => exact List.contains_iff_mem.mp seen
  | ignore => exact List.mem_cons_self

theorem Transition.begun (taken : Transition relay s reply call t after acts)
    (subFolder : Option String) (data : String) : after ≠ .publish device subFolder data := by
  cases taken <;> simp [Call.terminating]

namespace System

variable {s next : System} {entries : List Call} {records : List Record} {state : State}

-- The devices noted so far are those out of scope that had a message to send, but for calls that
-- have yet to take their first step; each of them was reported once.
structure Noted (relay : Relay) (entries : List Call) (s : System) : Prop where
  nodup : s.state.ignored.Nodup
  made : ∀ device subFolder data, .publish device subFolder data ∈ s.calls →
    .publish device subFolder data ∈ entries
  asked : ∀ device ∈ s.state.ignored, device ∉ relay.devices ∧
    ∃ subFolder data, .publish device (some subFolder) data ∈ entries
  noted : ∀ device subFolder data, .publish device (some subFolder) data ∈ entries →
    device ∉ relay.devices →
    device ∈ s.state.ignored ∨ .publish device (some subFolder) data ∈ s.calls
  reported : ∀ device, s.acts.countP (Act.dropsUnknown device) =
    if device ∈ s.state.ignored then 1 else 0

theorem initial_noted : Noted relay [] {} := by
  refine ⟨?_,?_,?_,?_,?_⟩ <;> simp [System.acts]

theorem Noted.begin (noted : Noted relay entries s) (call : Call) :
    Noted relay (entries ++ [call]) { s with calls := s.calls ++ [call] } := by
  refine ⟨noted.nodup,?_,?_,?_,noted.reported⟩
  · intro device subFolder data member
    rcases List.mem_append.mp member with old | new
    · exact List.mem_append_left _ (noted.made _ _ _ old)
    · exact List.mem_append_right _ new
  · intro device member
    obtain ⟨unknown,subFolder,data,asked⟩ := noted.asked device member
    exact ⟨unknown,subFolder,data,List.mem_append_left _ asked⟩
  · intro device subFolder data member unknown
    rcases List.mem_append.mp member with old | new
    · rcases noted.noted _ _ _ old unknown with seen | waits
      · exact .inl seen
      · exact .inr (List.mem_append_left _ waits)
    · exact .inr (List.mem_append_right _ new)

theorem mem_taken {calls : List Call} {call found : Call} (here : calls[index]? = some call)
    (member : found ∈ calls) (after : Call) : found = call ∨ found ∈ calls.set index after := by
  obtain ⟨place,present⟩ := List.mem_iff_getElem?.mp member
  by_cases same : place = index
  · subst same
    exact .inl (Option.some.inj (present.symm.trans here))
  · refine .inr (List.mem_iff_getElem?.mpr ⟨place,?_⟩)
    rw [List.getElem?_set_ne (Ne.symm same)]
    exact present

theorem Noted.take (noted : Noted relay entries s) (here : s.calls[index]? = some call)
    (taken : Transition relay s.state reply call state after acts) :
    Noted relay entries (s.log state ⟨index,reply,call,after,acts⟩) := by
  have made : ∀ device subFolder data, .publish device subFolder data ∈ s.calls.set index after →
      .publish device subFolder data ∈ entries := by
    intro device subFolder data member
    rcases List.mem_or_eq_of_mem_set member with old | new
    · exact noted.made _ _ _ old
    · exact absurd new.symm (taken.begun subFolder data)
  have grows : ∀ device, device ∈ s.state.ignored → device ∈ state.ignored := by
    intro device member
    rcases taken.ignored with ⟨same,_⟩ | ⟨other,_,_,_,_,_,added,_⟩
    · rwa [same]
    · rw [added]; exact List.mem_cons_of_mem _ member
  have pending : ∀ device subFolder data, .publish device (some subFolder) data ∈ entries →
      device ∉ relay.devices → device ∈ state.ignored ∨
        .publish device (some subFolder) data ∈ s.calls.set index after := by
    intro device subFolder data member unknown
    rcases noted.noted _ _ _ member unknown with seen | waits
    · exact .inl (grows device seen)
    · rcases mem_taken here waits after with rfl | still
      · exact .inl (taken.ignores unknown)
      · exact .inr still
  rcases taken.ignored with ⟨same,silent⟩ | ⟨device,subFolder,data,rfl,unknown,unseen,added,said⟩
  · refine ⟨?_,made,?_,pending,?_⟩
    · rw [log,same]; exact noted.nodup
    · rw [log,same]; exact noted.asked
    · intro device
      rw [acts_log,List.countP_append,silent,Nat.add_zero,noted.reported,log,same]
  · refine ⟨?_,made,?_,pending,?_⟩
    · rw [log,added]
      exact List.nodup_cons.mpr ⟨unseen,noted.nodup⟩
    · rw [log,added]
      refine List.forall_mem_cons.mpr ⟨⟨unknown,subFolder,data,?_⟩,noted.asked⟩
      exact noted.made _ _ _ (List.mem_of_getElem? here)
    · intro other
      rw [acts_log,List.countP_append,noted.reported,log,added,said]
      by_cases mine : device = other
      · subst mine
        simp [Act.dropsUnknown,Event.dropsUnknown_unknownDevice,unseen]
      · simp [Act.dropsUnknown,Event.dropsUnknown_unknownDevice,Ne.symm mine]

theorem Onward.noted (way : Onward relay {} entries records s) : Noted relay entries s := by
  induction way with
  | stay => exact initial_noted
  | begin way entry ih => exact ih.begin _
  | take way here fresh taken ih => exact ih.take here taken

theorem Onward.ignores {t : System} (way : Onward relay s entries records t) :
    s.state.ignored ⊆ t.state.ignored := by
  induction way with
  | stay => exact List.Subset.refl _
  | begin way entry ih => exact ih
  | take way here fresh taken ih =>
      rcases taken.ignored with ⟨same,_⟩ | ⟨device,_,_,_,_,_,added,_⟩
      · rw [log,same]; exact ih
      · rw [log,added]; exact List.subset_cons_of_subset _ ih

end System

-- The set of ignored devices never meets the scope and never shrinks; a device enters it by the
-- first step of a message with a sub-folder and in no other way, and is reported as often as it
-- enters: once. Once no such message has its first step before it, the set is complete.
theorem ignored_exactly_once {moves : List Move} {s : System}
    (ran : System.run relay {} moves = some s) :
    s.state.ignored.Nodup ∧
    (∀ device ∈ s.state.ignored, device ∉ relay.devices) ∧
    (∀ device, s.events.countP (Event.dropsUnknown device) =
      if device ∈ s.state.ignored then 1 else 0) ∧
    (∀ more later, s.run relay more = some later → s.state.ignored ⊆ later.state.ignored) ∧
    (∀ move next device, s.advance relay move = some next → device ∈ next.state.ignored →
      device ∉ s.state.ignored → ∃ index reply subFolder data, move = .advance index reply ∧
        s.calls[index]? = some (.publish device (some subFolder) data)) ∧
    ((∀ device subFolder data, .publish device subFolder data ∉ s.calls) →
      ∀ device, device ∈ s.state.ignored ↔ device ∉ relay.devices ∧
        ∃ subFolder data, .publish device (some subFolder) data ∈ made moves) := by
  have noted := (System.run_onward ran rfl).noted
  refine ⟨noted.nodup,fun device member => (noted.asked device member).1,?_,?_,?_,?_⟩
  · intro device
    rw [s.events_countP]
    exact noted.reported device
  · intro more later ran
    obtain ⟨records,way⟩ := System.Onward.run .stay ran
    exact way.ignores
  · intro move next device advanced member unseen
    cases System.advance_sound advanced with
    | begin entry => exact absurd member unseen
    | take here fresh taken =>
        rcases taken.ignored with ⟨same,_⟩ | ⟨other,subFolder,data,rfl,_,_,added,_⟩
        · exact absurd (same ▸ member) unseen
        · rcases List.mem_cons.mp (added ▸ member) with rfl | old
          · exact ⟨_,_,subFolder,data,rfl,here⟩
          · exact absurd old unseen
  · intro begun device
    constructor
    · exact noted.asked device
    · intro strange
      obtain ⟨unknown,subFolder,data,member⟩ := strange
      exact (noted.noted _ _ _ member unknown).resolve_right (begun _ _ _)

def strangers : List Move :=
  [.begin (.publish "u" (some "f") "x"),.begin (.publish "u" (some "g") "y"),
    .begin (.publish "v" none "z"),.begin .terminating,.advance 1 none,.advance 2 none,
    .advance 3 none,.advance 0 none,.advance 3 none,.begin (.publish "u" (some "f") "w"),
    .advance 4 none]

theorem ignored_exactly_once_strangers : ∃ s, System.run .sample {} strangers = some s ∧
    (∀ device, device ∈ s.state.ignored ↔ device ∉ ["a"] ∧
      ∃ subFolder data, .publish device (some subFolder) data ∈ made strangers) ∧
    s.events.countP (Event.dropsUnknown "u") = 1 ∧
    s.events.countP (Event.dropsUnknown "v") = 0 := by
  obtain ⟨s,ran,ignored,done⟩ : ∃ s, System.run .sample {} strangers = some s ∧
      s.state.ignored = ["u"] ∧ s.quiet := ⟨_,rfl,rfl,by simp [System.quiet]⟩
  obtain ⟨_,_,reported,_,_,complete⟩ := ignored_exactly_once ran
  refine ⟨s,ran,complete fun device subFolder data member => ?_,?_,?_⟩
  · cases done _ member
  · rw [reported,ignored]; rfl
  · rw [reported,ignored]; rfl

end Relay
end RegistryRelay
