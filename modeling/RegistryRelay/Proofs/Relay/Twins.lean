import Mathlib.Data.List.Forall2
import Mathlib.Data.Option.Basic
import RegistryRelay.Proofs.Relay.Transition

-- Two runs that differ in payloads and keys only, side by side. `Paired` says which two payloads
-- may stand in each other's place; of keys nothing is said at all.

namespace RegistryRelay

variable {Paired : String → String → Prop}

inductive Message.Twin (Paired : String → String → Prop) : Message → Message → Prop where
  | mk (payload : Paired m.data other) : Message.Twin Paired m { m with data := other }

inductive Bundle.Twin (Paired : String → String → Prop) : Bundle → Bundle → Prop where
  | mk (payload : Paired b.payload other) : Bundle.Twin Paired b { b with payload := other }

inductive PublisherBinding.Twin : PublisherBinding → PublisherBinding → Prop where
  | mk : PublisherBinding.Twin b { b with key := other }

inductive Request.Twin (Paired : String → String → Prop) : Request → Request → Prop where
  | fetch : Request.Twin Paired (.fetch device) (.fetch device)
  | connect (bound : PublisherBinding.Twin binding binding') :
      Request.Twin Paired (.connect binding) (.connect binding')
  | send (payload : Paired data data') :
      Request.Twin Paired (.send publisher device topic data) (.send publisher device topic data')
  | update (payload : Paired data data') :
      Request.Twin Paired (.update device data) (.update device data')

inductive Act.Twin (Paired : String → String → Prop) : Act → Act → Prop where
  | note : Act.Twin Paired (.note event) (.note event)
  | ask (request : Request.Twin Paired asked asked') : Act.Twin Paired (.ask asked) (.ask asked')
  | opened (bound : PublisherBinding.Twin binding binding') :
      Act.Twin Paired (.opened publisher binding) (.opened publisher binding')
  | close : Act.Twin Paired (.close publisher) (.close publisher)
  | mirror (bundle : Bundle.Twin Paired copy copy') : Act.Twin Paired (.mirror copy) (.mirror copy')

-- A device may answer with another key, but it has to have one on both sides.
inductive Reply.Twin : Reply → Reply → Prop where
  | fetched (key : found.keyMaterial = .ok material) (key' : found'.keyMaterial = .ok material') :
      Reply.Twin (.fetched (.ok found)) (.fetched (.ok found'))
  | notFetched : Reply.Twin (.fetched (.error fault)) (.fetched (.error fault))
  | connected : Reply.Twin (.connected result) (.connected result)
  | sent : Reply.Twin (.sent fault) (.sent fault)
  | updated : Reply.Twin (.updated fault) (.updated fault)

inductive Call.Twin (Paired : String → String → Prop) : Call → Call → Prop where
  | publish (payload : Paired data data') :
      Call.Twin Paired (.publish device subFolder data) (.publish device subFolder data')
  | acquiring (message : Message.Twin Paired m m') :
      Call.Twin Paired (.acquiring m progress) (.acquiring m' progress)
  | fetching (message : Message.Twin Paired m m') :
      Call.Twin Paired (.fetching m slot) (.fetching m' slot)
  | connecting (message : Message.Twin Paired m m')
      (bound : PublisherBinding.Twin binding binding') :
      Call.Twin Paired (.connecting m slot binding) (.connecting m' slot binding')
  | sending (message : Message.Twin Paired m m') :
      Call.Twin Paired (.sending m publisher) (.sending m' publisher)
  | mirroring (message : Message.Twin Paired m m') :
      Call.Twin Paired (.mirroring m) (.mirroring m')
  | tearing : Call.Twin Paired (.terminate progress none) (.terminate progress none)
  | recovering (message : Message.Twin Paired m m') :
      Call.Twin Paired (.terminate progress (some m)) (.terminate progress (some m'))
  | fault : Call.Twin Paired (.fault device reason) (.fault device reason)
  | inbound (payload : Paired data data') :
      Call.Twin Paired (.inbound topic data) (.inbound topic data')
  | updating (payload : Paired data data') :
      Call.Twin Paired (.updating device data) (.updating device data')
  | finished : Call.Twin Paired .finished .finished

def Relay.outline (relay : Relay) : Relay := { relay with order := .inserted }

structure Relay.Step.Twin (Paired : String → String → Prop) (step step' : Relay.Step) : Prop where
  state : step.1 = step'.1
  next : Call.Twin Paired step.2.1 step'.2.1
  done : List.Forall₂ (Act.Twin Paired) step.2.2 step'.2.2

theorem Message.Twin.symm {m m' : Message} (twin : Message.Twin Paired m m') :
    Message.Twin (flip Paired) m' m := by
  obtain ⟨payload⟩ := twin
  exact ⟨payload⟩

theorem PublisherBinding.Twin.symm {b b' : PublisherBinding} (twin : PublisherBinding.Twin b b') :
    PublisherBinding.Twin b' b := by
  obtain ⟨⟩ := twin
  exact ⟨⟩

theorem Reply.Twin.symm {reply reply' : Reply} (twin : Reply.Twin reply reply') :
    Reply.Twin reply' reply := by
  cases twin with
  | fetched key key' => exact .fetched key' key
  | _ => constructor

theorem Call.Twin.symm {call call' : Call} (twin : Call.Twin Paired call call') :
    Call.Twin (flip Paired) call' call := by
  cases twin with
  | publish payload => exact .publish payload
  | acquiring message => exact .acquiring message.symm
  | fetching message => exact .fetching message.symm
  | connecting message bound => exact .connecting message.symm bound.symm
  | sending message => exact .sending message.symm
  | mirroring message => exact .mirroring message.symm
  | tearing => exact .tearing
  | recovering message => exact .recovering message.symm
  | fault => exact .fault
  | inbound payload => exact .inbound payload
  | updating payload => exact .updating payload
  | finished => exact .finished

namespace Relay

variable {relay : Relay} {s t : State} {reply reply' : Option Reply} {call call' after : Call}
  {acts : List Act}

theorem Transition.twin (twin : Call.Twin Paired call call')
    (replies : Option.Rel Reply.Twin reply reply')
    (taken : Transition relay s reply call t after acts) : ∃ after' acts',
      Transition relay s reply' call' t after' acts' ∧ Call.Twin Paired after after' ∧
      List.Forall₂ (Act.Twin Paired) acts acts' := by
  cases twin with
  | publish payload =>
      cases taken with
      | unrouted => exact ⟨_,_,.unrouted,.finished,.cons .note .nil⟩
      | attempt known => exact ⟨_,_,.attempt known,.acquiring ⟨payload⟩,.cons .note .nil⟩
      | ignoreAgain unknown seen => exact ⟨_,_,.ignoreAgain unknown seen,.finished,.nil⟩
      | ignore unknown unseen => exact ⟨_,_,.ignore unknown unseen,.finished,.cons .note .nil⟩
  | acquiring message =>
      obtain ⟨payload⟩ := message
      cases taken with
      | look => exact ⟨_,_,.look,.acquiring ⟨payload⟩,.nil⟩
      | join held => exact ⟨_,_,.join held,.acquiring ⟨payload⟩,.nil⟩
      | start free => exact ⟨_,_,.start free,.fetching ⟨payload⟩,.cons (.ask .fetch) .nil⟩
      | deliver cached =>
          exact ⟨_,_,.deliver cached,.sending ⟨payload⟩,
            .cons .note (.cons (.ask (.send payload)) .nil)⟩
      | stale drained =>
          exact ⟨_,_,.stale drained,.finished,.cons .note (.cons .close (.cons .note .nil))⟩
  | fetching message =>
      obtain ⟨payload⟩ := message
      cases replies with
      | none => cases taken
      | some reply =>
          cases taken with
          | fetched key =>
              cases reply with
              | fetched _ key' =>
                  exact ⟨_,_,.fetched key',.connecting ⟨payload⟩ ⟨⟩,
                    .cons (.ask (.connect ⟨⟩)) .nil⟩
          | notFetched =>
              cases reply
              exact ⟨_,_,.notFetched,.finished,.cons .note .nil⟩
          | noKey key =>
              cases reply with
              | fetched found _ => cases found.symm.trans key
  | connecting message bound =>
      obtain ⟨payload⟩ := message
      cases replies with
      | none => cases taken
      | some reply =>
          cases taken with
          | connected =>
              cases reply
              exact ⟨_,_,.connected,.acquiring ⟨payload⟩,.cons (.opened bound) .nil⟩
          | notConnected =>
              cases reply
              exact ⟨_,_,.notConnected,.finished,.cons .note .nil⟩
  | sending message =>
      obtain ⟨payload⟩ := message
      cases replies with
      | none => cases taken
      | some reply =>
          cases taken with
          | sent => cases reply; exact ⟨_,_,.sent,.mirroring ⟨payload⟩,.nil⟩
          | notSent => cases reply; exact ⟨_,_,.notSent,.recovering ⟨payload⟩,.cons .note .nil⟩
  | mirroring message =>
      obtain ⟨payload⟩ := message
      cases taken
      exact ⟨_,_,.mirror,.finished,.cons .note (.cons (.mirror ⟨payload⟩) .nil)⟩
  | tearing =>
      cases taken with
      | drain => exact ⟨_,_,.drain,.tearing,.nil⟩
      | shut held => exact ⟨_,_,.shut held,.tearing,.cons .note (.cons .close .nil)⟩
      | pass empty => exact ⟨_,_,.pass empty,.tearing,.nil⟩
      | terminated => exact ⟨_,_,.terminated,.finished,.cons .note .nil⟩
  | recovering message =>
      cases taken with
      | drain => exact ⟨_,_,.drain,.recovering message,.nil⟩
      | shut held => exact ⟨_,_,.shut held,.recovering message,.cons .note (.cons .close .nil)⟩
      | pass empty => exact ⟨_,_,.pass empty,.recovering message,.nil⟩
      | recovered => exact ⟨_,_,.recovered,.mirroring message,.cons .note .nil⟩
  | fault => cases taken; exact ⟨_,_,.fault,.tearing,.cons .note .nil⟩
  | inbound payload =>
      cases taken with
      | notConfig other =>
          exact ⟨_,_,.notConfig other,.finished,.cons .note (.cons .note .nil)⟩
      | invalid config nobody =>
          exact ⟨_,_,.invalid config nobody,.finished,.cons .note (.cons .note .nil)⟩
      | push config names =>
          exact ⟨_,_,.push config names,.updating payload,
            .cons .note (.cons .note (.cons (.ask (.update payload)) .nil))⟩
  | updating payload =>
      cases replies with
      | none => cases taken
      | some reply =>
          cases taken with
          | updated => cases reply; exact ⟨_,_,.updated,.mirroring ⟨payload⟩,.nil⟩
          | notUpdated => cases reply; exact ⟨_,_,.notUpdated,.finished,.cons .note .nil⟩
  | finished => cases taken

theorem step_alike (relay : Relay) (s : State) (twin : Call.Twin Paired call call')
    (replies : Option.Rel Reply.Twin reply reply') :
    Option.Rel (Step.Twin Paired) (relay.step s reply call) (relay.step s reply' call') := by
  cases stepped : relay.step s reply call with
  | some step =>
      obtain ⟨t,after,acts⟩ := step
      obtain ⟨after',acts',taken,next,done⟩ := (step_sound stepped).twin twin replies
      rw [step_complete taken]
      exact .some ⟨rfl,next,done⟩
  | none =>
      cases other : relay.step s reply' call' with
      | none => exact .none
      | some step =>
          have back : Option.Rel Reply.Twin reply' reply := by
            cases replies with
            | none => exact .none
            | some reply => exact .some reply.symm
          obtain ⟨_,_,taken,_⟩ := (step_sound other).twin twin.symm back
          cases stepped.symm.trans (step_complete taken)

theorem step_outline (relay : Relay) (s : State) (reply : Option Reply)
    (undrained : ∀ after, call ≠ .terminate .starting after) :
    relay.outline.step s reply call = relay.step s reply call := by
  cases call with
  | publish device subFolder data => cases subFolder <;> rfl
  | terminate progress after =>
      cases progress with
      | starting => exact (undrained after rfl).elim
      | closing left n => cases left <;> rfl
  | _ => rfl

theorem step_twin {relay relay' : Relay} (outlines : relay.outline = relay'.outline) (s : State)
    (twin : Call.Twin Paired call call') (replies : Option.Rel Reply.Twin reply reply')
    (undrained : ∀ after, call ≠ .terminate .starting after) :
    Option.Rel (Step.Twin Paired) (relay.step s reply call) (relay'.step s reply' call') := by
  have undrained' : ∀ after, call' ≠ .terminate .starting after := by
    rintro after rfl
    cases twin with
    | tearing => exact undrained _ rfl
    | recovering message => exact undrained _ rfl
  rw [← relay.step_outline s reply undrained,← relay'.step_outline s reply' undrained',outlines]
  exact step_alike relay'.outline s twin replies

end Relay
end RegistryRelay
