import RegistryRelay.Relay.Call

namespace RegistryRelay.Relay

-- What a single step of a call can do, case by case. The rules restate `step` without its
-- nesting, so that a proof about all steps is one case a rule.
inductive Transition (relay : Relay) :
    State → Option Reply → Call → State → Call → List Act → Prop where
  | unrouted : Transition relay s reply (.publish device none data) s .finished
      [.note (.noSubFolder relay.registry device)]
  | attempt (known : relay.devices.contains device = true) :
      Transition relay s reply (.publish device (some subFolder) data)
        s (.acquiring ⟨device,subFolder,data⟩ .asking)
        [.note (.sendAttempt relay.registry device subFolder)]
  | ignoreAgain (unknown : relay.devices.contains device = false)
      (seen : s.ignored.contains device = true) :
      Transition relay s reply (.publish device (some subFolder) data) s .finished []
  | ignore (unknown : relay.devices.contains device = false)
      (unseen : s.ignored.contains device = false) :
      Transition relay s reply (.publish device (some subFolder) data)
        { s with ignored := device :: s.ignored } .finished
        [.note (.unknownDevice relay.registry device subFolder)]
  | look : Transition relay s reply (.acquiring message .asking)
      { s with pool := (s.pool.slotFor (relay.publisherKey message.device)).1 }
      (.acquiring message (.waiting (s.pool.slotFor (relay.publisherKey message.device)).2)) []
  | join (held : s.pool.content slot = .holds publisher) :
      Transition relay s reply (.acquiring message (.waiting slot))
        s (.acquiring message (.checking slot publisher false)) []
  | start (free : s.pool.content slot = .empty) :
      Transition relay s reply (.acquiring message (.waiting slot))
        { s with pool := s.pool.fill slot .opening } (.fetching message slot)
        [.ask (.fetch message.device)]
  | deliver (cached : s.pool.caches (relay.publisherKey message.device) slot = true) :
      Transition relay s reply (.acquiring message (.checking slot publisher created))
        s (.sending message publisher)
        [.note (if created then .publisherCreated (relay.publisherKey message.device)
            else .publisherReused (relay.publisherKey message.device)),
          .ask (.send publisher message.device message.topic message.data)]
  | stale (drained : s.pool.caches (relay.publisherKey message.device) slot = false) :
      Transition relay s reply (.acquiring message (.checking slot publisher created)) s .finished
        [.note (.publisherStale (relay.publisherKey message.device)),.close publisher,
          .note (.noPublisher relay.registry message.device)]
  | fetched (key : device.keyMaterial = .ok material) :
      Transition relay s (some (.fetched (.ok device))) (.fetching message slot)
        s (.connecting message slot (relay.binding message.device material))
        [.ask (.connect (relay.binding message.device material))]
  | notFetched : Transition relay s (some (.fetched (.error fault))) (.fetching message slot)
      { s with pool := s.pool.fill slot .empty } .finished
      [.note (.publisherFailed relay.registry message.device fault)]
  | noKey (key : device.keyMaterial = .error fault) :
      Transition relay s (some (.fetched (.ok device))) (.fetching message slot)
        { s with pool := s.pool.fill slot .empty } .finished
        [.note (.publisherFailed relay.registry message.device fault)]
  | connected : Transition relay s (some (.connected (.ok publisher)))
      (.connecting message slot bound)
      { s with pool := s.pool.fill slot (.holds publisher) }
      (.acquiring message (.checking slot publisher true)) [.opened publisher bound]
  | notConnected : Transition relay s (some (.connected (.error fault)))
      (.connecting message slot bound)
      { s with pool := s.pool.fill slot .empty } .finished
      [.note (.publisherFailed relay.registry message.device fault)]
  | sent : Transition relay s (some (.sent none)) (.sending message publisher)
      s (.mirroring message) []
  | notSent : Transition relay s (some (.sent (some fault))) (.sending message publisher)
      s (.terminate .starting (some message))
      [.note (.sendFailed relay.registry message.device message.topic fault)]
  | mirror : Transition relay s reply (.mirroring message) s .finished
      [.note (.mirrored relay.registry message.device message.subFolder),
        .mirror (message.bundle relay.registry)]
  | drain : Transition relay s reply (.terminate .starting after)
      { s with pool := { s.pool with cached := [] } }
      (.terminate (.closing (relay.order.arrange s.pool.cached) 0) after) []
  | shut (held : s.pool.held? slot = some publisher) :
      Transition relay s reply (.terminate (.closing ((key,slot) :: left) n) after)
        s (.terminate (.closing left (n + 1)) after)
        [.note (.publisherClosed key),.close publisher]
  | pass (empty : s.pool.held? slot = none) :
      Transition relay s reply (.terminate (.closing ((key,slot) :: left) n) after)
        s (.terminate (.closing left n) after) []
  | terminated : Transition relay s reply (.terminate (.closing [] n) none) s .finished
      [.note (.terminated relay.registry n)]
  | recovered : Transition relay s reply (.terminate (.closing [] n) (some message))
      s (.mirroring message) [.note (.terminated relay.registry n)]
  | fault : Transition relay s reply (.fault device fault) s .terminating
      [.note (.publisherError relay.registry device fault)]
  | notConfig (other : Topic.isConfig topic = false) :
      Transition relay s reply (.inbound topic payload) s .finished
        [.note (.received relay.registry topic),.note (.ignored relay.registry topic)]
  | invalid (config : Topic.isConfig topic = true) (nobody : Topic.configDevice? topic = none) :
      Transition relay s reply (.inbound topic payload) s .finished
        [.note (.received relay.registry topic),.note (.invalidTopic relay.registry topic)]
  | push (config : Topic.isConfig topic = true)
      (device? : Topic.configDevice? topic = some device) :
      Transition relay s reply (.inbound topic payload) s (.updating device payload)
        [.note (.received relay.registry topic),.note (.configUpdate relay.registry device),
          .ask (.update device payload)]
  | updated : Transition relay s (some (.updated none)) (.updating device payload)
      s (.mirroring ⟨device,Topic.configFolder,payload⟩) []
  | notUpdated : Transition relay s (some (.updated (some fault))) (.updating device payload)
      s .finished [.note (.configUpdateFailed relay.registry device fault)]

variable {relay : Relay} {s t : State} {reply : Option Reply} {call next : Call}
  {acts : List Act}

theorem step_complete (taken : Transition relay s reply call t next acts) :
    relay.step s reply call = some (t,next,acts) := by
  cases taken <;> simp_all [step,Acquisition.step,Teardown.step,failCreation]

theorem step_sound (stepped : relay.step s reply call = some (t,next,acts)) :
    Transition relay s reply call t next acts := by
  cases call with
  | publish device subFolder data =>
      cases subFolder with
      | none => cases stepped; exact .unrouted
      | some subFolder =>
          simp only [step] at stepped
          split at stepped
          · rename_i known; cases stepped; exact .attempt known
          · rename_i unknown
            rw [Bool.not_eq_true] at unknown
            split at stepped
            · rename_i seen; cases stepped; exact .ignoreAgain unknown seen
            · rename_i unseen; cases stepped; exact .ignore unknown (by simpa using unseen)
  | acquiring message progress =>
      cases progress with
      | asking => cases stepped; exact .look
      | waiting slot =>
          simp only [step,Acquisition.step] at stepped
          cases content : s.pool.content slot with
          | holds publisher => rw [content] at stepped; cases stepped; exact .join content
          | empty => rw [content] at stepped; cases stepped; exact .start content
          | opening => rw [content] at stepped; cases stepped
      | opening slot => cases stepped
      | checking slot publisher created =>
          simp only [step,Acquisition.step] at stepped
          cases cached : s.pool.caches (relay.publisherKey message.device) slot with
          | true => rw [cached] at stepped; cases stepped; exact .deliver cached
          | false => rw [cached] at stepped; cases stepped; exact .stale cached
  | fetching message slot =>
      simp only [step] at stepped
      split at stepped
      · cases stepped; exact .notFetched
      · split at stepped
        · rename_i key; cases stepped; exact .noKey key
        · rename_i key; cases stepped; exact .fetched key
      · cases stepped
  | connecting message slot bound =>
      simp only [step,Acquisition.step] at stepped
      split at stepped
      · cases stepped; exact .notConnected
      · cases stepped; exact .connected
      · cases stepped
  | sending message publisher =>
      simp only [step] at stepped
      split at stepped
      · cases stepped; exact .sent
      · cases stepped; exact .notSent
      · cases stepped
  | mirroring message => cases stepped; exact .mirror
  | terminate progress after =>
      cases progress with
      | starting => cases stepped; exact .drain
      | closing left n =>
          cases left with
          | nil =>
              cases after with
              | none => cases stepped; exact .terminated
              | some message => cases stepped; exact .recovered
          | cons entry left =>
              obtain ⟨key,slot⟩ := entry
              simp only [step,Teardown.step] at stepped
              cases held : s.pool.held? slot with
              | some publisher => rw [held] at stepped; cases stepped; exact .shut held
              | none => rw [held] at stepped; cases stepped; exact .pass held
  | fault device fault => cases stepped; exact .fault
  | inbound topic payload =>
      simp only [step] at stepped
      cases config : Topic.isConfig topic with
      | false => simp only [config] at stepped; cases stepped; exact .notConfig config
      | true =>
          simp only [config,↓reduceIte] at stepped
          split at stepped
          · rename_i nobody; cases stepped; exact .invalid config nobody
          · rename_i device? ; cases stepped; exact .push config device?
  | updating device payload =>
      simp only [step] at stepped
      split at stepped
      · cases stepped; exact .updated
      · cases stepped; exact .notUpdated
      · cases stepped
  | finished => cases stepped

theorem step_exact : relay.step s reply call = some (t,next,acts) ↔
    Transition relay s reply call t next acts := ⟨step_sound,step_complete⟩

theorem Transition.sending {message : Message} {publisher : PublisherId}
    (taken : Transition relay s reply call t (.sending message publisher) acts) :
    ∃ slot created, call = .acquiring message (.checking slot publisher created) ∧
      s.pool.caches (relay.publisherKey message.device) slot = true ∧
      ∀ other, .close other ∉ acts := by
  cases taken with
  | deliver cached => exact ⟨_,_,rfl,cached,by simp⟩

theorem Transition.handed {publisher : PublisherId} {device topic payload : String}
    (taken : Transition relay s reply call t next acts)
    (member : .ask (.send publisher device topic payload) ∈ acts) :
    ∃ message, next = .sending message publisher ∧ message.device = device := by
  cases taken with
  | deliver cached =>
      simp only [List.mem_cons,List.not_mem_nil,or_false,reduceCtorEq,false_or] at member
      cases member
      exact ⟨_,rfl,rfl⟩
  | _ => simp at member

theorem Transition.unfinished (taken : Transition relay s reply call t next acts) :
    call ≠ .finished := by cases taken <;> simp

end RegistryRelay.Relay
