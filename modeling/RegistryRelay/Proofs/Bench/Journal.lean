import Mathlib.Data.List.Infix
import RegistryRelay.Bench.Report

namespace RegistryRelay.Entry

def message? (publisher : PublisherId) : Entry → Option (String × String × String)
  | .published p device topic payload =>
      if p = publisher then some (device,topic,payload) else none
  | _ => none

def opened? : Entry → Option (PublisherId × PublisherBinding)
  | .opened publisher binding => some (publisher,binding)
  | _ => none

def opens (device : String) (entry : Entry) : Bool :=
  entry.opened?.any fun found => found.2.device == device

def teardown : Entry → Bool
  | .note (.terminated _ _) => true
  | _ => false

def plain : Entry → Bool
  | .opened .. | .published .. | .closed _ => false
  | _ => true

def Silent (entries : List Entry) : Prop :=
  ∀ entry ∈ entries, ∀ publisher, entry.message? publisher = none

variable {entry : Entry} {entries : List Entry}

theorem plain_message (plain : entry.plain = true) (publisher : PublisherId) :
    entry.message? publisher = none := by
  cases entry with
  | published publisher device topic payload => cases plain
  | _ => rfl

theorem plain_silent (plain : ∀ entry ∈ entries, entry.plain = true) : Silent entries :=
  fun entry member => plain_message (plain entry member)

theorem silent_untold (silent : Silent entries) (publisher : PublisherId)
    (device topic payload : String) : .published publisher device topic payload ∉ entries := by
  intro member
  have told := silent _ member publisher
  simp [message?] at told

theorem plain_opened (plain : entry.plain = true) : entry.opened? = none := by
  cases entry with
  | opened publisher binding => cases plain
  | _ => rfl

theorem plain_opens (plain : entry.plain = true) (device : String) : entry.opens device = false := by
  rw [opens,plain_opened plain]
  rfl

theorem plain_closed (plain : entry.plain = true) (publisher : PublisherId) :
    ¬(entry == .closed publisher) = true := by
  intro same
  cases beq_iff_eq.mp same
  cases plain

end RegistryRelay.Entry

namespace RegistryRelay.Rig

def extend (rig : Rig) (entries : List Entry) : Rig := { rig with journal := rig.journal ++ entries }

def receipt (rig : Rig) (bundle : Bundle) : Entry :=
  if rig.sink = .channel ∧ rig.sinkClosed then .note .mirrorClosed else .mirrored bundle

def traces (rig : Rig) : Act → List Entry
  | .note event => [.note event]
  | .ask _ => []
  | .opened publisher bound => [.opened publisher bound]
  | .close publisher => [.closed publisher]
  | .mirror bundle => [rig.receipt bundle]

variable {rig : Rig}

theorem extend_nil (rig : Rig) : rig.extend [] = rig := by simp [extend]

theorem extend_extend (one two : List Entry) :
    (rig.extend one).extend two = rig.extend (one ++ two) := by simp [extend]

theorem perform_extends (act : Act) : rig.perform act = rig.extend (rig.traces act) := by
  cases act with
  | ask request => exact (extend_nil rig).symm
  | mirror bundle =>
      simp only [perform,accept,traces,receipt]
      split <;> rfl
  | _ => rfl

theorem performAll_extends (acts : List Act) :
    rig.performAll acts = rig.extend (acts.flatMap rig.traces) := by
  induction acts generalizing rig with
  | nil => exact (extend_nil rig).symm
  | cons act acts ih =>
      have rest : (rig.extend (rig.traces act)).performAll acts =
          (rig.extend (rig.traces act)).extend (acts.flatMap rig.traces) := ih
      rw [performAll,List.foldl_cons,perform_extends]
      exact rest.trans (extend_extend _ _)

theorem fetchDevice_extends (rig : Rig) (handle : Nat) (device : String) :
    ∃ scripted, (rig.fetchDevice handle device).2 = rig.extend [.fetched device scripted] := by
  unfold fetchDevice
  split
  · exact ⟨true,rfl⟩
  · exact ⟨false,rfl⟩

theorem updateDevice_seen (rig : Rig) (handle : Nat) (device payload : String) :
    ∃ scripted, ∀ journal, { rig with journal }.updateDevice handle device payload =
      ((rig.updateDevice handle device payload).1,
        { rig with
          journal := journal ++ [.updated device payload scripted]
          backend := (rig.updateDevice handle device payload).2.backend }) := by
  cases scripted : rig.script.update.get? device with
  | some fault =>
      refine ⟨true,fun journal => ?_⟩
      simp only [updateDevice,scripted,record]
  | none =>
      refine ⟨false,fun journal => ?_⟩
      simp only [updateDevice,scripted,record]
      cases rig.backend with
      | recording devices rejects => rfl
      | file file directory =>
          simp only
          split <;> rfl

theorem updateDevice_extends (rig : Rig) (handle : Nat) (device payload : String) :
    ∃ backend scripted, (rig.updateDevice handle device payload).2 =
      { rig.extend [.updated device payload scripted] with backend } := by
  obtain ⟨scripted,seen⟩ := rig.updateDevice_seen handle device payload
  exact ⟨_,scripted,congrArg Prod.snd (seen rig.journal)⟩

theorem beginSend_idle (sends : rig.sendHooks = []) : rig.beginSend = ([],rig) := by
  cases rig
  cases sends
  rfl

def heard (rig : Rig) (device : String) : List (String × String × String) :=
  (rig.publishersFor device).flatMap fun p => rig.messages p.publisher

theorem newest_member {device : String} {front : List OpenPublisher} {p : OpenPublisher}
    (newest : rig.publishersFor device = front ++ [p]) :
    p ∈ rig.publishers ∧ p.binding.device = device := by
  have last : p ∈ rig.publishersFor device := by
    rw [newest]
    exact List.mem_append_right front (List.mem_singleton_self _)
  obtain ⟨member,own⟩ := List.mem_filter.mp last
  exact ⟨member,beq_iff_eq.mp own⟩

theorem messages_extend (entries : List Entry) (publisher : PublisherId) :
    (rig.extend entries).messages publisher =
      rig.messages publisher ++ entries.filterMap (Entry.message? publisher) :=
  List.filterMap_append

theorem messages_published (publisher other : PublisherId) (device topic payload : String) :
    (rig.extend [.published publisher device topic payload]).messages other =
      rig.messages other ++ if publisher = other then [(device,topic,payload)] else [] := by
  rw [messages_extend]
  congr 1
  by_cases same : publisher = other
  · simp [Entry.message?,same]
  · simp [Entry.message?,same]

theorem closeCount_extend (entries : List Entry) (publisher : PublisherId) :
    (rig.extend entries).closeCount publisher =
      rig.closeCount publisher + entries.countP (· == .closed publisher) :=
  List.countP_append

theorem messages_silent {entries : List Entry} (silent : Entry.Silent entries) (publisher : PublisherId) :
    (rig.extend entries).messages publisher = rig.messages publisher := by
  have none : entries.filterMap (Entry.message? publisher) = [] :=
    List.filterMap_eq_nil_iff.mpr fun entry member => silent entry member publisher
  rw [messages_extend,none,List.append_nil]

theorem messages_plain {entries : List Entry} (plain : ∀ entry ∈ entries, entry.plain = true)
    (publisher : PublisherId) : (rig.extend entries).messages publisher = rig.messages publisher :=
  messages_silent (Entry.plain_silent plain) publisher

theorem opened_append {entries : List Entry} (none : ∀ entry ∈ entries, entry.opened? = none) :
    (rig.journal ++ entries).filterMap Entry.opened? = rig.journal.filterMap Entry.opened? := by
  rw [List.filterMap_append,List.filterMap_eq_nil_iff.mpr none,List.append_nil]

theorem closeCount_plain {entries : List Entry} (plain : ∀ entry ∈ entries, entry.plain = true)
    (publisher : PublisherId) :
    (rig.extend entries).closeCount publisher = rig.closeCount publisher := by
  have none : entries.countP (· == .closed publisher) = 0 :=
    List.countP_eq_zero.mpr fun entry member => Entry.plain_closed (plain entry member) _
  rw [closeCount_extend,none,Nat.add_zero]

end RegistryRelay.Rig

namespace RegistryRelay

variable {journal entries : List Entry} {entry : Entry} {device : String}

def Calm (stretch : List Entry) : Prop := ∀ entry ∈ stretch, entry.teardown = false

-- Between two teardowns at most one publisher is opened for a device.
def Spaced (journal : List Entry) : Prop :=
  ∀ device stretch, stretch <:+: journal → Calm stretch → stretch.countP (Entry.opens device) ≤ 1

def Cleared (journal : List Entry) (device : String) : Prop :=
  ∀ stretch, stretch <:+ journal → Calm stretch → stretch.countP (Entry.opens device) = 0

theorem Spaced.concat (spaced : Spaced journal)
    (first : ∀ device, entry.opens device = true → Cleared journal device) :
    Spaced (journal ++ [entry]) := by
  intro device stretch inside calm
  rcases List.infix_concat_iff.mp inside with last | earlier
  · rcases List.suffix_concat_iff.mp last with rfl | ⟨front,rfl,suffix⟩
    · simp
    · have before : Calm front := fun e member => calm e (List.mem_append_left _ member)
      rw [List.countP_append,List.countP_singleton]
      split
      · rename_i opens
        rw [first device opens front suffix before]
      · exact spaced device front suffix.isInfix before
  · exact spaced device stretch earlier calm

theorem Cleared.concat (cleared : Cleared journal device) (other : entry.opens device = false) :
    Cleared (journal ++ [entry]) device := by
  intro stretch last calm
  rcases List.suffix_concat_iff.mp last with rfl | ⟨front,rfl,suffix⟩
  · rfl
  · rw [List.countP_append,List.countP_singleton,other,cleared front suffix
      fun e member => calm e (List.mem_append_left _ member)]
    rfl

theorem cleared_teardown (journal : List Entry) (entry : Entry) (teardown : entry.teardown = true)
    (device : String) : Cleared (journal ++ [entry]) device := by
  intro stretch last calm
  rcases List.suffix_concat_iff.mp last with rfl | ⟨front,rfl,suffix⟩
  · rfl
  · have broken := calm entry (by simp)
    rw [teardown] at broken
    cases broken

theorem Spaced.append (spaced : Spaced journal)
    (none : ∀ entry ∈ entries, ∀ device, entry.opens device = false) :
    Spaced (journal ++ entries) := by
  induction entries generalizing journal with
  | nil => simpa using spaced
  | cons entry rest ih =>
      rw [List.append_cons]
      refine ih (spaced.concat fun device opens => ?_) fun e member => none e (.tail _ member)
      rw [none entry (.head _) device] at opens
      cases opens

theorem Cleared.append (cleared : Cleared journal device)
    (none : ∀ entry ∈ entries, entry.opens device = false) :
    Cleared (journal ++ entries) device := by
  induction entries generalizing journal with
  | nil => simpa using cleared
  | cons entry rest ih =>
      rw [List.append_cons]
      exact ih (cleared.concat (none entry (.head _))) fun e member => none e (.tail _ member)

end RegistryRelay
