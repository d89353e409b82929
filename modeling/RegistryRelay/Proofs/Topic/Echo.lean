import RegistryRelay.Proofs.Bench.Signals

namespace RegistryRelay
open Line (World)
open Topic

namespace Topic

def subFolder? (topic : String) : Option String :=
  if topic = stateTopic then some stateFolder
  else if "events/".toList.isPrefixOf topic.toList then some (String.ofList (topic.toList.drop 7))
  else none

theorem subFolder?_outbound (folder : String) : subFolder? (outbound folder) = some folder := by
  unfold outbound
  split
  · rename_i state
    rw [state]
    rfl
  · have spelled : ("events/" ++ folder).toList = "events/".toList ++ folder.toList :=
      String.toList_append
    have other : "events/" ++ folder ≠ stateTopic := by
      intro same
      have first := congrArg (fun topic : String => topic.toList.head?) same
      rw [spelled] at first
      revert first
      exact (by decide : some 'e' ≠ some 's')
    have begins : "events/".toList.isPrefixOf ("events/" ++ folder).toList = true :=
      List.isPrefixOf_iff_prefix.mpr ⟨folder.toList,spelled.symm⟩
    have cut : ("events/" ++ folder).toList.drop 7 = folder.toList := by
      rw [spelled]
      exact List.drop_left' rfl
    rw [subFolder?,if_neg other,if_pos begins,cut,String.ofList_toList]

theorem outbound_inj {folder other : String} (same : outbound folder = outbound other) :
    folder = other := by
  have read := subFolder?_outbound folder
  rw [same,subFolder?_outbound] at read
  exact (Option.some.inj read).symm

-- A config topic begins with a slash, and no outbound one does.
theorem outbound_unconfigured (folder device : String) : ¬Configures device (outbound folder) := by
  intro configures
  have slash : (outbound folder).toList.head? = some '/' := by
    rw [configures.2.2,String.toList_append,String.toList_append]
    rfl
  unfold outbound at slash
  split at slash
  · exact absurd slash (by decide)
  · rw [String.toList_append] at slash
    exact absurd slash (by decide : some 'e' ≠ some '/')

end Topic
namespace Relay

variable {relay : Relay} {s t : State} {reply : Option Reply} {call after entry : Call}
  {acts done went : List Act} {answers : List (Option Fault)} {came : List Outcome}
  {publisher : PublisherId} {device topic payload : String}

theorem Transition.outbound (taken : Transition relay s reply call t after acts)
    (member : .ask (.send publisher device topic payload) ∈ acts) :
    ∃ folder, topic = Topic.outbound folder := by
  cases taken with
  | deliver cached =>
      simp only [List.mem_cons,List.not_mem_nil,or_false,reduceCtorEq,false_or] at member
      cases member
      exact ⟨_,rfl⟩
  | _ => simp at member

theorem Heeds.noted (heeds : Heeds relay topic payload call answers done)
    (nobody : ∀ device, ¬Configures device topic) : ∀ act ∈ done, ∃ event, act = .note event := by
  cases heeds with
  | comes => nofun
  | ignored | invalid => simp
  | asks configures | refused configures | accepted configures | mirrored configures =>
      exact absurd configures (nobody _)

theorem Ending.reported (ending : Ending relay entry came went)
    (member : .ask (.send publisher device topic payload) ∈ went) : ∃ folder,
    subFolder? topic = some folder ∧
      went.filterMap Act.mirror? = [.routed relay.registry device folder payload] := by
  cases ending with
  | acquired known =>
      simp only [List.mem_cons,List.not_mem_nil,or_false,reduceCtorEq] at member
      cases member
      exact ⟨_,subFolder?_outbound _,rfl⟩
  | updated => simp at member
  | _ => cases member

namespace System

variable {s : System} {moves : List Move} {index : Nat}

theorem run_outbound (ran : System.run relay {} moves = some s)
    (sent : .send publisher device topic payload ∈ s.requests) :
    ∃ folder, topic = Topic.outbound folder := by
  obtain ⟨record,recorded,member⟩ := List.mem_flatMap.mp (mem_requests.mp sent)
  obtain ⟨before,next,taken⟩ := (run_onward ran rfl).recorded record recorded
  exact taken.outbound member

theorem run_reported (ran : System.run relay {} moves = some s) (quiet : s.quiet)
    (begun : (made moves)[index]? = some entry)
    (sent : .ask (.send publisher device topic payload) ∈ (s.trace index).flatMap Record.acts) :
    ∃ folder, subFolder? topic = some folder ∧ ((s.trace index).flatMap Record.acts).filterMap
      Act.mirror? = [.routed relay.registry device folder payload] := by
  rw [mirror?_traffic]
  exact (run_ending ran quiet begun).reported (List.mem_filter.mpr ⟨sent,rfl⟩)

theorem run_echo (ran : System.run relay {} moves = some s)
    (begun : (made moves)[index]? = some (.inbound topic payload))
    (nobody : ∀ device, ¬Configures device topic) :
    ∀ act ∈ (s.trace index).flatMap Record.acts, ∃ event, act = .note event := by
  obtain ⟨now,_,heeds⟩ := run_heeds ran begun
  exact heeds.noted nobody

end System
end Relay

theorem Line.World.Hears.noted {w : World} {topic payload : String} {backend : Backend}
    {entries : List Entry} (hears : w.Hears topic payload backend entries)
    (nobody : ∀ device, ¬Configures device topic) :
    backend = w.rig.backend ∧ ∃ events : List Event, entries = events.map .note := by
  cases hears with
  | ignored | invalid => exact ⟨rfl,[_,_],rfl⟩
  | accepted configures | refused configures => exact absurd configures (nobody _)

namespace Bench

-- Topics tell sub-folders apart, the ones that messages are mirrored under, and none of them is a
-- config topic. So a message that comes back to a relay is noted, and neither changes the config
-- of a device nor is mirrored once more.
theorem outbound_unambiguous :
    (∀ folder other, Topic.outbound folder = Topic.outbound other → folder = other) ∧
    (∀ folder, configDevice? (Topic.outbound folder) = none) ∧
    (∀ (relay : Relay) (moves : List Relay.Move) (s : Relay.System),
      Relay.System.run relay {} moves = some s →
      (∀ publisher device topic payload, .send publisher device topic payload ∈ s.requests →
        ∃ folder, topic = Topic.outbound folder) ∧
      (s.quiet → ∀ index entry publisher device topic payload,
        (Relay.made moves)[index]? = some entry →
        .ask (.send publisher device topic payload) ∈ (s.trace index).flatMap Record.acts →
        ∃ folder, subFolder? topic = some folder ∧
          ((s.trace index).flatMap Record.acts).filterMap Act.mirror? =
            [.routed relay.registry device folder payload]) ∧
      ∀ index folder payload,
        (Relay.made moves)[index]? = some (.inbound (Topic.outbound folder) payload) →
        ∀ act ∈ (s.trace index).flatMap Record.acts, ∃ event, act = .note event) ∧
    ∀ (b : Bench) (name : ListenerName) (listener : Listener) (line : Line)
      (folder payload : String), b.listener? name = some listener →
      b.place listener.relay = .occupied line → ∃ events : List Event,
      b.operate (.message name (Topic.outbound folder) payload) =
        ({ b with rig := b.rig.extend (events.map .note) },.done) := by
  refine ⟨fun _ _ => outbound_inj,?_,?_,?_⟩
  · intro folder
    exact configDevice?_eq_none_iff.mpr (outbound_unconfigured folder)
  · intro relay moves s ran
    refine ⟨?_,?_,?_⟩
    · intro publisher device topic payload sent
      exact Relay.System.run_outbound ran sent
    · intro quiet index entry publisher device topic payload begun sent
      exact Relay.System.run_reported ran quiet begun sent
    · intro index folder payload begun
      exact Relay.System.run_echo ran begun (outbound_unconfigured folder)
  · intro b name listener line folder payload listens placed
    obtain ⟨backend,entries,hears,operated⟩ :=
      operate_message listens placed (Topic.outbound folder) payload
    obtain ⟨rfl,events,rfl⟩ := hears.noted (outbound_unconfigured folder)
    exact ⟨events,operated⟩

-- A message of a sub-folder that ends like a config topic is handed out, and comes back while its
-- call is still on its way.
def echoing : List Relay.Move :=
  [.begin (.publish "a" (some "x/config") "d"),.advance 0 none,.advance 0 none,.advance 0 none,
    .advance 0 (some (.fetched (.ok .sample))),.advance 0 (some (.connected (.ok 7))),
    .advance 0 none,.begin (.inbound "events/x/config" "d"),.advance 1 none,
    .advance 0 (some (.sent none)),.advance 0 none]

theorem outbound_unambiguous_echoing : ∃ s, Relay.System.run .sample {} echoing = some s ∧
    isConfig "events/x/config" = true ∧
    .send 7 "a" "events/x/config" "d" ∈ s.requests ∧
    ((s.trace 0).flatMap Record.acts).filterMap Act.mirror? =
      [.routed "reg" "a" "x/config" "d"] ∧
    ∀ act ∈ (s.trace 1).flatMap Record.acts, ∃ event, act = .note event := by
  obtain ⟨s,ran,quiet,sent,asked⟩ : ∃ s, Relay.System.run .sample {} echoing = some s ∧ s.quiet ∧
      .send 7 "a" "events/x/config" "d" ∈ s.requests ∧
      .ask (.send 7 "a" "events/x/config" "d") ∈ (s.trace 0).flatMap Record.acts :=
    ⟨_,rfl,by simp [Relay.System.quiet],by decide,by decide⟩
  obtain ⟨_,reported,echoed⟩ := outbound_unambiguous.2.2.1 .sample echoing s ran
  obtain ⟨folder,told,mirrored⟩ := reported quiet 0 _ _ _ _ _ rfl asked
  cases told
  exact ⟨s,ran,by decide,sent,mirrored,echoed 1 "x/config" "d" rfl⟩

end Bench
end RegistryRelay
