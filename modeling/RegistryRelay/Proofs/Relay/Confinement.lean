import RegistryRelay.Proofs.Relay.Accounting

namespace RegistryRelay.Relay

-- Where a bundle may come from: a message of a device in scope, or a config that the directory
-- took for the device that its topic names.
inductive Comes (relay : Relay) (came : List Outcome) : Call → Bundle → Prop where
  | sent (known : device ∈ relay.devices) :
      Comes relay came (.publish device (some subFolder) data)
        (.routed relay.registry device subFolder data)
  | pushed (names : Topic.configDevice? topic = some device) (taken : .updated device ∈ came) :
      Comes relay came (.inbound topic payload)
        (.routed relay.registry device Topic.configFolder payload)

def Reaches (relay : Relay) (entry : Call) : Prop :=
  (∃ message, Carries relay entry message) ∨ entry.tearsDown = true

def Grounded (relay : Relay) (entry : Call) (came : List Outcome) : Act → Prop
  | .note _ => True
  | .mirror bundle => Comes relay came entry bundle
  | .ask (.update device payload) => Pushes entry device payload
  | _ => Reaches relay entry

variable {relay : Relay} {s t : State} {reply : Option Reply} {entry call after now : Call}
  {acts : List Act} {came : List Outcome} {went : List Act} {records : List Record} {act : Act}

theorem Grounded.later (grounded : Grounded relay entry came act) (more : List Outcome) :
    Grounded relay entry (came ++ more) act := by
  cases act with
  | mirror bundle =>
      cases grounded with
      | sent known => exact .sent known
      | pushed names taken => exact .pushed names (List.mem_append_left _ taken)
  | ask request => cases request <;> exact grounded
  | _ => exact grounded

theorem Grounded.outside {device : String} {subFolder : Option String} {data : String}
    (grounded : Grounded relay (.publish device subFolder data) came act)
    (unknown : device ∉ relay.devices) : ∃ event, act = .note event := by
  have idle : ¬ Reaches relay (.publish device subFolder data) := by
    intro reaches
    rcases reaches with ⟨message,same,known⟩ | tears
    · cases same
      exact unknown (List.contains_iff_mem.mp known)
    · cases tears
  cases act with
  | note event => exact ⟨event,rfl⟩
  | mirror bundle =>
      cases grounded with
      | sent known => exact absurd known unknown
  | ask request =>
      cases request with
      | update =>
          obtain ⟨topic,same,_⟩ := grounded
          cases same
      | _ => exact absurd grounded idle
  | opened | close => exact absurd grounded idle

theorem Account.grounded (account : Account relay entry call came went)
    (taken : Transition relay s reply call t after acts) :
    ∀ act ∈ acts, Grounded relay entry came act := by
  cases account with
  | publish => cases taken <;> simp [Grounded]
  | acquiring carries | fetching carries | connecting carries | sending carries
  | recovering carries =>
      have reaches : Reaches relay entry := .inl ⟨_,carries⟩
      cases taken <;> simp [Grounded,reaches]
  | mirroring carries =>
      obtain ⟨rfl,known⟩ := carries
      cases taken
      refine List.forall_mem_cons.mpr ⟨trivial,List.forall_mem_singleton.mpr ?_⟩
      exact .sent (List.contains_iff_mem.mp known)
  | inbound same =>
      cases taken with
      | push config names =>
          refine List.forall_mem_cons.mpr ⟨trivial,List.forall_mem_cons.mpr ⟨trivial,?_⟩⟩
          exact List.forall_mem_singleton.mpr ⟨_,same,config,names⟩
      | _ => simp [Grounded]
  | updating => cases taken <;> simp [Grounded]
  | updated pushes =>
      obtain ⟨topic,rfl,_,names⟩ := pushes
      cases taken
      refine List.forall_mem_cons.mpr ⟨trivial,List.forall_mem_singleton.mpr ?_⟩
      exact .pushed names (List.mem_singleton_self _)
  | fault => cases taken; simp [Grounded]
  | tearing tears =>
      have reaches : Reaches relay entry := .inr tears
      cases taken <;> simp [Grounded,reaches]
  | finished => cases taken

theorem Course.grounded (isEntry : entry.isEntry = true) (course : Course relay entry records now) :
    ∀ record ∈ records, ∀ act ∈ record.acts, Grounded relay entry (outcomes records) act := by
  induction course with
  | start => simp
  | step course taken ih =>
      rw [outcomes_concat]
      refine forall_recorded.mpr ⟨fun record member act inside => ?_,fun act inside => ?_⟩
      · exact (ih record member act inside).later _
      · exact ((course.account isEntry).grounded taken act inside).later _

theorem System.mem_trace {s : System} {record : Record} (member : record ∈ s.history) :
    record ∈ s.trace record.call := List.mem_filter.mpr ⟨member,by simp⟩

theorem System.Ledger.grounded {s : System} {entries : List Call} (ledger : Ledger relay entries s)
    {record : Record} (member : record ∈ s.history) : ∃ entry,
      entries[record.call]? = some entry ∧
      ∀ act ∈ record.acts, Grounded relay entry (outcomes (s.trace record.call)) act := by
  obtain ⟨entry,now,begun,isEntry,course⟩ := ledger.recorded member
  exact ⟨entry,begun,course.grounded isEntry record (System.mem_trace member)⟩

theorem Comes.device? {bundle : Bundle} (comes : Comes relay came entry bundle) :
    ∃ device, bundle.device? = some device ∧ (device ∈ relay.devices ∨ .updated device ∈ came) := by
  cases comes with
  | sent known => exact ⟨_,attribute?_routed _ _ _ _ _,.inl known⟩
  | pushed names taken => exact ⟨_,attribute?_routed _ _ _ _ _,.inr taken⟩

end RegistryRelay.Relay
