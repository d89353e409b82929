import RegistryRelay.Proofs.Relay.Confinement
import RegistryRelay.Proofs.Relay.Ownership

namespace RegistryRelay

def Record.failure? (record : Record) : Option (SlotId × Fault) :=
  match record.before,record.reply with
  | .fetching _ slot,some (.fetched (.error fault)) => some (slot,fault)
  | .fetching _ slot,some (.fetched (.ok device)) =>
      match device.keyMaterial with
      | .error fault => some (slot,fault)
      | .ok _ => none
  | .connecting _ slot _,some (.connected (.error fault)) => some (slot,fault)
  | _,_ => none

def Call.unsettled : Call → Bool
  | .publish _ (some _) _ => true
  | .acquiring _ .asking => true
  | .acquiring _ (.waiting _) => true
  | .fetching _ _ => true
  | .connecting _ _ _ => true
  | _ => false

def Act.Harmless : Act → Prop
  | .note _ => True
  | .ask (.fetch _) => True
  | .ask (.connect _) => True
  | _ => False

namespace Pool

-- A pool after a change to slots of one key by which no slot has come to hold a publisher. The
-- slots of all other keys are as they were.
structure Spares (key : PublisherKey) (before after : Pool) : Prop where
  size : after.size = before.size
  holds : ∀ slot publisher, after.content slot = .holds publisher ↔
    before.content slot = .holds publisher
  stays : ∀ entry ∈ before.cached, entry ∈ after.cached
  others : ∀ other slot, other ≠ key →
    ((other,slot) ∈ after.cached ↔ (other,slot) ∈ before.cached) ∧
    (after.keyOf? slot = some other ↔ before.keyOf? slot = some other) ∧
    (before.keyOf? slot = some other → after.content slot = before.content slot)

variable {pool : Pool} {key : PublisherKey} {slot : SlotId} {content : Content}

theorem Spares.refl (key : PublisherKey) (pool : Pool) : Spares key pool pool :=
  ⟨rfl,fun _ _ => .rfl,fun _ member => member,fun _ _ _ => ⟨.rfl,.rfl,fun _ => rfl⟩⟩

theorem keyOf?_slotFor_away {other : PublisherKey} (away : other ≠ key) :
    (pool.slotFor key).1.keyOf? slot = some other ↔ pool.keyOf? slot = some other := by
  refine ⟨fun known => ?_,slotFor_grows.keys slot other⟩
  cases found : pool.slot? key with
  | some old => rwa [slotFor_found found] at known
  | none =>
      rw [slotFor_made found] at known
      obtain ⟨made,present,own⟩ := Option.map_eq_some_iff.mp known
      rw [List.getElem?_append] at present
      split at present
      · exact Option.map_eq_some_iff.mpr ⟨made,present,own⟩
      · rw [List.getElem?_singleton] at present
        split at present
        · cases present
          exact absurd own.symm away
        · cases present

theorem slotFor_spares : Spares key pool (pool.slotFor key).1 := by
  refine ⟨size_slotFor,?_,?_,?_⟩
  · intro slot publisher
    rw [content_slotFor]
  · intro entry member
    exact mem_slotFor.mpr (.inl member)
  · intro other slot away
    refine ⟨?_,keyOf?_slotFor_away away,fun _ => content_slotFor slot⟩
    rw [mem_slotFor]
    refine or_iff_left fun same => ?_
    cases same
    exact away rfl

theorem fill_spares (known : pool.keyOf? slot = some key)
    (free : ∀ publisher, pool.content slot ≠ .holds publisher)
    (idle : ∀ publisher, content ≠ .holds publisher) : Spares key pool (pool.fill slot content) := by
  have made := keyOf?_lt known
  refine ⟨size_fill_idle made free content idle,?_,fun _ member => member,?_⟩
  · intro place publisher
    rw [holds_fill made free]
    exact or_iff_left fun new => idle publisher new.2
  · intro other place away
    refine ⟨.rfl,by rw [keyOf?_fill],fun owner => ?_⟩
    rw [content_fill made,if_neg]
    intro same
    rw [same,known] at owner
    cases owner
    exact away rfl

end Pool

namespace Relay

variable {relay : Relay} {s t : State} {reply : Option Reply} {call after : Call}
  {acts : List Act} {index : Nat} {slot : SlotId} {fault : Fault} {entry : Call}
  {records : List Record} {now : Call}

theorem Transition.failing (taken : Transition relay s reply call t after acts)
    (fails : Record.failure? ⟨index,reply,call,after,acts⟩ = some (slot,fault)) :
    call.creates? = some slot ∧ after = .finished ∧ t = { s with pool := s.pool.fill slot .empty } ∧
      ∃ message, call.carried? = some message ∧
        acts = [.note (.publisherFailed relay.registry message.device fault)] := by
  cases taken with
  | notFetched | notConnected =>
      cases fails
      exact ⟨rfl,rfl,rfl,_,rfl,rfl⟩
  | noKey key =>
      simp only [Record.failure?,key] at fails
      cases fails
      exact ⟨rfl,rfl,rfl,_,rfl,rfl⟩
  | fetched key =>
      simp only [Record.failure?,key] at fails
      cases fails
  | _ => cases fails

theorem Transition.blamed (taken : Transition relay s reply call t after acts) {device : String}
    (member : .note (.publisherFailed relay.registry device fault) ∈ acts) :
    ∃ slot, Record.failure? ⟨index,reply,call,after,acts⟩ = some (slot,fault) := by
  cases taken with
  | notFetched | notConnected =>
      cases List.mem_singleton.mp member
      exact ⟨_,rfl⟩
  | noKey key =>
      cases List.mem_singleton.mp member
      exact ⟨_,by simp only [Record.failure?,key]; rfl⟩
  | deliver =>
      rename_i created _
      cases created <;> simp at member
  | _ => simp at member

theorem Transition.unsettled (taken : Transition relay s reply call t after acts)
    (unsettled : after.unsettled = true) : call.unsettled = true := by
  cases taken with
  | attempt | look | start | fetched => rfl
  | _ => cases unsettled

theorem Call.unsettled_creates (creates : call.creates? = some slot) : call.unsettled = true := by
  cases call with
  | fetching | connecting => rfl
  | _ => cases creates

theorem Transition.spares (taken : Transition relay s reply call t after acts)
    (placed : ∀ key slot, call.place? relay = some (key,slot) → s.pool.keyOf? slot = some key)
    (turn : ∀ slot, call.creates? = some slot → s.pool.content slot = .opening)
    (fails : (Record.failure? ⟨index,reply,call,after,acts⟩).isSome ∨ after.unsettled = true)
    {device : String} (own : ∀ message, call.carried? = some message → message.device = device) :
    Pool.Spares (relay.publisherKey device) s.pool t.pool ∧ t.ignored = s.ignored ∧
      (∀ act ∈ acts, act.Harmless) ∧ ∀ progress late, after ≠ .terminate progress late := by
  rcases fails with failed | unsettled
  · obtain ⟨⟨slot,fault⟩,failed⟩ := Option.isSome_iff_exists.mp failed
    obtain ⟨creates,rfl,rfl,message,carried,rfl⟩ := taken.failing failed
    have free : ∀ publisher, s.pool.content slot ≠ .holds publisher := by simp [turn slot creates]
    have known : s.pool.keyOf? slot = some (relay.publisherKey device) := by
      rw [← own message carried]
      apply placed
      cases call with
      | fetching | connecting => cases creates; cases carried; rfl
      | _ => cases creates
    exact ⟨Pool.fill_spares known free (by simp),rfl,by simp [Act.Harmless],by simp⟩
  · cases taken with
    | attempt => exact ⟨.refl _ _,rfl,by simp [Act.Harmless],by simp⟩
    | look =>
        rw [own _ rfl]
        exact ⟨Pool.slotFor_spares,rfl,by simp,by simp⟩
    | start empty =>
        have known := placed _ _ rfl
        rw [own _ rfl] at known
        exact ⟨Pool.fill_spares known (by simp [empty]) (by simp),rfl,by simp [Act.Harmless],by simp⟩
    | fetched => exact ⟨.refl _ _,rfl,by simp [Act.Harmless],by simp⟩
    | _ => cases unsettled

theorem Course.failed (course : Course relay entry records now) :
    (∀ record ∈ records, record.failure? = none) ∨
    now = .finished ∧ ∃ front last, records = front ++ [last] ∧ last.failure?.isSome ∧
      ∀ record ∈ front, record.failure? = none := by
  induction course with
  | start => exact .inl (by simp)
  | step course taken ih =>
      rcases ih with none | ⟨rfl,_⟩
      · rename_i index
        cases failed : Record.failure? ⟨index,_,_,_,_⟩ with
        | none => exact .inl (forall_recorded.mpr ⟨none,failed⟩)
        | some failure =>
            have ended := (taken.failing failed).2.1
            exact .inr ⟨ended,_,_,rfl,by rw [failed]; rfl,none⟩
      · exact absurd rfl taken.unfinished

theorem Course.settled (course : Course relay entry records now)
    (settled : entry.unsettled = false) :
    now.unsettled = false ∧ ∀ record ∈ records, record.failure? = none := by
  induction course with
  | start => exact ⟨settled,by simp⟩
  | step course taken ih =>
      obtain ⟨here,none⟩ := ih
      refine ⟨?_,forall_recorded.mpr ⟨none,?_⟩⟩
      · apply Bool.eq_false_iff.mpr
        intro later
        rw [taken.unsettled later] at here
        cases here
      · apply Option.eq_none_iff_forall_ne_some.mpr
        intro failure failed
        rw [Call.unsettled_creates (taken.failing failed).1] at here
        cases here

theorem Transition.attempts (taken : Transition relay s reply call t after acts)
    (creates : after.creates? = some slot) :
    Record.starts? ⟨index,reply,call,after,acts⟩ = some slot ∨ call.creates? = some slot := by
  cases taken with
  | start => exact .inl creates
  | fetched => exact .inr creates
  | _ => cases creates

theorem Call.entry_creates? (isEntry : entry.isEntry = true) : entry.creates? = none := by
  cases entry with
  | fetching | connecting => cases isEntry
  | _ => rfl

-- The last step of a call whose attempt has failed: the call had begun the attempt itself before,
-- for its own message, and it is told what the attempt failed with.
structure Blamed (relay : Relay) (entry : Call) (records : List Record) (record : Record)
    (slot : SlotId) (fault : Fault) : Prop where
  began : ∃ start, start.starts? = some slot ∧ [start,record].Sublist records
  told : ∃ message, Carries relay entry message ∧
    record.acts = [.note (.publisherFailed relay.registry message.device fault)]
  ended : record.after = .finished

theorem Blamed.later {record : Record} (blamed : Blamed relay entry records record slot fault)
    (more : List Record) : Blamed relay entry (records ++ more) record slot fault := by
  obtain ⟨start,starts,before⟩ := blamed.began
  exact { blamed with began := ⟨start,starts,before.trans (List.sublist_append_left _ _)⟩ }

theorem Course.blamed (isEntry : entry.isEntry = true) (course : Course relay entry records now) :
    (∀ slot, now.creates? = some slot → ∃ start ∈ records, start.starts? = some slot) ∧
    ∀ record ∈ records, ∀ slot fault, record.failure? = some (slot,fault) →
      Blamed relay entry records record slot fault := by
  induction course with
  | start =>
      rw [Call.entry_creates? isEntry]
      exact ⟨by simp,by simp⟩
  | step course taken ih =>
      obtain ⟨began,blamed⟩ := ih
      refine ⟨?_,forall_recorded.mpr ⟨?_,?_⟩⟩
      · intro slot creates
        rcases taken.attempts creates with starts | creates
        · exact ⟨_,List.mem_append_right _ (List.mem_singleton_self _),starts⟩
        · obtain ⟨start,member,starts⟩ := began slot creates
          exact ⟨start,List.mem_append_left _ member,starts⟩
      · intro record member slot fault failed
        exact (blamed record member slot fault failed).later _
      · intro slot fault failed
        obtain ⟨creates,ended,_,message,carried,told⟩ := taken.failing failed
        obtain ⟨start,member,starts⟩ := began slot creates
        have carries := (course.account isEntry).owner carried
        exact ⟨⟨start,starts,(List.singleton_sublist.mpr member).append (.refl _)⟩,
          ⟨message,carries,told⟩,ended⟩

theorem Account.unsettled {came : List Outcome} {went : List Act}
    (account : Account relay entry call came went) (unsettled : call.unsettled = true) :
    ∃ device subFolder data, entry = .publish device (some subFolder) data ∧
      ∀ message, call.carried? = some message → message.device = device := by
  cases account with
  | publish same =>
      rename_i device subFolder data
      cases subFolder with
      | none => cases unsettled
      | some subFolder => exact ⟨device,subFolder,data,same,by simp [Call.carried?]⟩
  | acquiring carries | fetching carries | connecting carries =>
      refine ⟨_,_,_,carries.1,fun message carried => ?_⟩
      cases carried
      rfl
  | _ => cases unsettled

namespace System

-- A step that leaves everybody else alone: it does nothing but to take notes, to fetch and to
-- connect, it begins no teardown, and a slot whose attempt has failed is as empty as before it.
structure Isolated (relay : Relay) (device : String) (index : Nat) (before after : System) :
    Prop where
  pool : Pool.Spares (relay.publisherKey device) before.state.pool after.state.pool
  ignored : after.state.ignored = before.state.ignored
  recorded : ∃ record, after.history = before.history ++ [record] ∧ record.call = index ∧
    (∀ act ∈ record.acts, act.Harmless) ∧
    (∀ progress late, record.after ≠ .terminate progress late) ∧
    ∀ slot fault, record.failure? = some (slot,fault) → after.state.pool.content slot = .empty

variable {s t before : System} {entries : List Call} {front back : List Move}

theorem Onward.course (way : Onward relay s entries records t)
    (here : s.calls[index]? = some call) : ∃ now, t.calls[index]? = some now ∧
      Course relay call (records.filter (·.call == index)) now := by
  induction way with
  | stay => exact ⟨call,here,.start⟩
  | begin way entry ih =>
      obtain ⟨now,present,course⟩ := ih
      have inside := (List.getElem?_eq_some_iff.mp present).1
      exact ⟨now,(List.getElem?_append_left inside).trans present,course⟩
  | take way there fresh taken ih =>
      rename_i other _ _ _ _ _
      obtain ⟨now,present,course⟩ := ih
      rw [List.filter_append]
      by_cases same : other = index
      · subst same
        cases there.symm.trans present
        have inside := (List.getElem?_eq_some_iff.mp present).1
        refine ⟨_,List.getElem?_set_self inside,?_⟩
        simp only [List.filter_cons,beq_self_eq_true,↓reduceIte,List.filter_nil]
        exact .step course taken
      · refine ⟨now,(List.getElem?_set_ne same).trans present,?_⟩
        simpa [same] using course

theorem reached_placed (reached : Reached relay s) (here : s.calls[index]? = some call)
    {key : PublisherKey} (place : call.place? relay = some (key,slot)) :
    s.state.pool.keyOf? slot = some key := by
  have fits := (reached_sound reached).fits
  have visit : ∀ found, call.visit? relay = some found → found.Fits s.state.pool :=
    fun found visits => fits index found ((Pool.visitsOf_here _ here).trans visits)
  cases call with
  | acquiring message progress =>
      cases progress with
      | asking => cases place
      | waiting => cases place; exact visit _ rfl
      | opening | checking => cases place; exact (visit _ rfl).1
  | fetching | connecting => cases place; exact (visit _ rfl).1
  | _ => cases place

theorem failing_isolated (ran : System.run relay {} front = some before)
    (advanced : before.advance relay (.advance index reply) = some t)
    (further : t.run relay back = some s) (failed : ∃ record ∈ s.trace index, record.failure?.isSome) :
    ∃ device subFolder data, (made front)[index]? = some (.publish device (some subFolder) data) ∧
      Isolated relay device index before t := by
  have ledger := (run_onward ran rfl).ledger
  have reached := reached_run .initial ran
  cases advance_sound advanced with
  | take here fresh taken =>
      rename_i call after state acts
      obtain ⟨more,way⟩ := Onward.run .stay further
      have inside := (List.getElem?_eq_some_iff.mp here).1
      have begun := List.getElem?_eq_getElem (ledger.length ▸ inside)
      have course := ledger.course index _ call begun here
      have account := course.account (ledger.entry _ (List.getElem_mem _))
      have fails : (Record.failure? ⟨index,reply,call,after,acts⟩).isSome ∨
          after.unsettled = true := by
        obtain ⟨record,member,failure⟩ := failed
        obtain ⟨recorded,mine⟩ := List.mem_filter.mp member
        rw [way.history] at recorded
        rcases List.mem_append.mp recorded with earlier | later
        · rcases List.mem_append.mp earlier with old | last
          · rcases course.failed with none | ⟨ended,_⟩
            · rw [none record (List.mem_filter.mpr ⟨old,mine⟩)] at failure
              cases failure
            · exact absurd ended taken.unfinished
          · cases List.mem_singleton.mp last
            exact .inl failure
        · obtain ⟨now,_,ahead⟩ := way.course (List.getElem?_set_self inside)
          refine .inr (Bool.of_not_eq_false fun settled => ?_)
          rw [(ahead.settled settled).2 record (List.mem_filter.mpr ⟨later,mine⟩)] at failure
          cases failure
      have unsettled : call.unsettled = true := by
        rcases fails with failure | later
        · obtain ⟨⟨slot,fault⟩,failure⟩ := Option.isSome_iff_exists.mp failure
          exact Call.unsettled_creates (taken.failing failure).1
        · exact taken.unsettled later
      obtain ⟨device,subFolder,data,same,own⟩ := account.unsettled unsettled
      obtain ⟨pool,ignored,harmless,tears⟩ := taken.spares (fun _ _ => reached_placed reached here)
        (fun _ => creator_opening reached here) fails own
      refine ⟨device,subFolder,data,begun.trans (congrArg some same),pool,ignored,_,rfl,rfl,harmless,
        tears,fun slot fault failure => ?_⟩
      obtain ⟨creates,_,rfl,_⟩ := taken.failing failure
      obtain ⟨key,visit⟩ := creator_visit here creates
      have made := Pool.keyOf?_lt ((reached_sound reached).fits _ _ visit).1
      exact (Pool.content_fill made _ slot).trans (if_pos rfl)

theorem reached_blamed {moves : List Move} (ran : System.run relay {} moves = some s)
    {record : Record} (member : record ∈ s.history) : ∃ entry,
      (made moves)[record.call]? = some entry ∧
      (∀ slot fault, record.failure? = some (slot,fault) →
        Blamed relay entry (s.trace record.call) record slot fault) ∧
      ∀ device fault, .note (.publisherFailed relay.registry device fault) ∈ record.acts →
        ∃ slot, record.failure? = some (slot,fault) := by
  have way := run_onward ran rfl
  obtain ⟨entry,now,begun,isEntry,course⟩ := way.ledger.recorded member
  obtain ⟨before,next,taken⟩ := way.recorded record member
  exact ⟨entry,begun,(course.blamed isEntry).2 record (mem_trace member),fun _ _ => taken.blamed⟩

end System
end Relay
end RegistryRelay
