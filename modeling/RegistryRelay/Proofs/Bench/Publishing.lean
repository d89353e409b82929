import Mathlib.Data.List.Sort
import RegistryRelay.Proofs.Bench.Sequence

namespace RegistryRelay
open Line (World)

def byKey {α : Type} (x y : Nat × α) : Bool := decide (x.1 ≤ y.1)

section
variable {α : Type} {one two entries : List (Nat × α)} {keys : List Nat} {key : Nat}

theorem mem_iff_of_keys (same : ∀ key, one.filter (·.1 = key) = two.filter (·.1 = key))
    (entry : Nat × α) : entry ∈ one ↔ entry ∈ two := by
  have here := congrArg (entry ∈ ·) (same entry.1)
  simpa using here

theorem least_head {x : Nat × α} (sorted : (x :: entries).Pairwise (·.1 ≤ ·.1)) :
    ∀ entry ∈ x :: entries, x.1 ≤ entry.1 :=
  List.forall_mem_cons.mpr ⟨Nat.le_refl _,fun _ => List.rel_of_pairwise_cons sorted⟩

theorem eq_of_keys (first : one.Pairwise (·.1 ≤ ·.1)) (second : two.Pairwise (·.1 ≤ ·.1))
    (same : ∀ key, one.filter (·.1 = key) = two.filter (·.1 = key)) : one = two := by
  have members := mem_iff_of_keys same
  induction one generalizing two with
  | nil =>
      exact (List.eq_nil_iff_forall_not_mem.mpr fun entry inside =>
        List.not_mem_nil ((members entry).mpr inside)).symm
  | cons x xs ih =>
      cases two with
      | nil => exact absurd ((members x).mp (.head _)) List.not_mem_nil
      | cons y ys =>
          have level : x.1 = y.1 := Nat.le_antisymm
            (least_head first y ((members y).mpr (.head _)))
            (least_head second x ((members x).mp (.head _)))
          have heads := same x.1
          rw [List.filter_cons_of_pos (by simp),List.filter_cons_of_pos (by simp [level])] at heads
          obtain ⟨rfl,_⟩ := List.cons.inj heads
          have tails (key : Nat) : xs.filter (·.1 = key) = ys.filter (·.1 = key) := by
            have both := same key
            simp only [List.filter_cons] at both
            split at both
            · exact (List.cons.inj both).2
            · exact both
          rw [ih first.of_cons second.of_cons tails (mem_iff_of_keys tails)]

theorem byKey_trans (x y z : Nat × α) (first : byKey x y = true) (second : byKey y z = true) :
    byKey x z = true :=
  decide_eq_true (Nat.le_trans (of_decide_eq_true first) (of_decide_eq_true second))

theorem byKey_total (x y : Nat × α) : (byKey x y || byKey y x) = true := by
  simpa only [byKey,Bool.or_eq_true,decide_eq_true_eq] using Nat.le_total x.1 y.1

theorem mergeSort_keys (entries : List (Nat × α)) :
    (entries.mergeSort byKey).Pairwise (·.1 ≤ ·.1) :=
  (List.pairwise_mergeSort byKey_trans byKey_total entries).imp of_decide_eq_true

theorem key_of_mem {entry : Nat × α} (inside : entry ∈ entries.filter (·.1 = key)) :
    entry.1 = key := of_decide_eq_true (List.mem_filter.mp inside).2

theorem pairwise_key (entries : List (Nat × α)) (key : Nat) :
    (entries.filter (·.1 = key)).Pairwise (·.1 ≤ ·.1) :=
  List.pairwise_of_forall_mem_list fun _ here _ there =>
    Nat.le_of_eq ((key_of_mem here).trans (key_of_mem there).symm)

theorem filter_mergeSort (entries : List (Nat × α)) (key : Nat) :
    (entries.mergeSort byKey).filter (·.1 = key) = entries.filter (·.1 = key) := by
  have kept := (List.sublist_mergeSort byKey_trans byKey_total
    ((pairwise_key entries key).imp decide_eq_true) List.filter_sublist).filter (·.1 = key)
  rw [List.filter_filter] at kept
  simp only [Bool.and_self] at kept
  exact (kept.eq_of_length ((List.mergeSort_perm entries byKey).filter _).length_eq.symm).symm

theorem flatMap_single {f : Nat → List α} (once : keys.Nodup)
    (none : ∀ other, other ≠ key → f other = []) :
    keys.flatMap f = if key ∈ keys then f key else [] := by
  induction keys with
  | nil => rfl
  | cons other keys ih =>
      obtain ⟨fresh,once⟩ := List.nodup_cons.mp once
      rw [List.flatMap_cons,ih once]
      by_cases same : other = key
      · subst same
        rw [if_neg fresh,if_pos (.head _),List.append_nil]
      · rw [none other same,List.nil_append]
        simp [Ne.symm same]

theorem flatMap_keys (rising : keys.Pairwise (· < ·)) (known : ∀ entry ∈ entries, entry.1 ∈ keys) :
    keys.flatMap (fun key => entries.filter (·.1 = key)) =
      entries.mergeSort byKey := by
  refine eq_of_keys ?_ (mergeSort_keys entries) fun key => ?_
  · refine List.pairwise_flatMap.mpr ⟨fun key _ => pairwise_key entries key,
      rising.imp fun less x here y there => ?_⟩
    rw [key_of_mem here,key_of_mem there]
    exact Nat.le_of_lt less
  · have others (other : Nat) (differs : other ≠ key) :
        (entries.filter (·.1 = other)).filter (·.1 = key) = [] := by
      refine List.filter_eq_nil_iff.mpr fun entry inside same => differs ?_
      rw [← key_of_mem inside,of_decide_eq_true same]
    rw [filter_mergeSort,List.filter_flatMap,
      flatMap_single (rising.imp Nat.ne_of_lt) others,
      List.filter_filter]
    simp only [Bool.and_self]
    split
    · rfl
    · rename_i absent
      refine (List.filter_eq_nil_iff.mpr fun entry inside same => absent ?_).symm
      rw [← of_decide_eq_true same]
      exact known entry inside

end

def Entry.sent? : Entry → Option (PublisherId × String × String × String)
  | .published publisher device topic payload => some (publisher,device,topic,payload)
  | _ => none

namespace Rig

def sent (rig : Rig) : List (PublisherId × String × String × String) :=
  rig.journal.filterMap Entry.sent?

-- Publishers are numbered in the order in which they were opened. Exactly those that were opened
-- have been told something, apart from the one that is going to be told something next.
structure Told (rig : Rig) (next : Option PublisherId) : Prop where
  rising : (rig.publishers.map OpenPublisher.publisher).Pairwise (· < ·)
  heard : ∀ publisher, publisher ∈ rig.publishers.map OpenPublisher.publisher ↔
    rig.messages publisher ≠ [] ∨ next = some publisher

variable {rig later : Rig} {next : Option PublisherId} {publisher : PublisherId}

theorem Told.same (told : rig.Told next) (publishers : later.publishers = rig.publishers)
    (messages : ∀ publisher, later.messages publisher = rig.messages publisher) :
    later.Told next := by
  refine ⟨?_,fun publisher => ?_⟩
  · rw [publishers]
    exact told.rising
  · rw [publishers,messages]
    exact told.heard publisher

theorem Told.choose (told : rig.Told none)
    (opened : publisher ∈ rig.publishers.map OpenPublisher.publisher) :
    rig.Told (some publisher) := by
  refine ⟨told.rising,fun other => ?_⟩
  rw [told.heard other]
  constructor
  · rintro (heard | none)
    · exact .inl heard
    · cases none
  · rintro (heard | same)
    · exact .inl heard
    · cases same
      exact (told.heard publisher).mp opened

theorem messages_eq (rig : Rig) (publisher : PublisherId) :
    rig.messages publisher = (rig.sent.filter (·.1 = publisher)).map Prod.snd := by
  unfold messages sent
  rw [List.filter_filterMap,List.map_filterMap]
  refine List.filterMap_congr fun entry _ => ?_
  cases entry with
  | published other device topic payload =>
      by_cases same : other = publisher
      · simp [Entry.sent?,same,Option.filter]
      · simp [Entry.sent?,same,Option.filter]
  | _ => rfl

theorem Told.known (told : rig.Told next) : ∀ entry ∈ rig.sent,
    entry.1 ∈ rig.publishers.map OpenPublisher.publisher := by
  intro entry inside
  refine (told.heard entry.1).mpr (.inl ?_)
  rw [messages_eq]
  exact List.ne_nil_of_mem (List.mem_map_of_mem (List.mem_filter.mpr ⟨inside,by simp⟩))

theorem Told.published (told : rig.Told next) : rig.published =
    (rig.sent.mergeSort byKey).map Prod.snd := by
  rw [← flatMap_keys told.rising told.known,List.map_flatMap,List.flatMap_map]
  exact List.flatMap_congr fun p _ => rig.messages_eq p.publisher

end Rig
namespace Line.World
variable {w later : World} {entries : List Entry} {next : Option PublisherId}
  {publisher : PublisherId}

theorem Past.told (past : w.Past later entries) (told : w.rig.Told next) : later.rig.Told next := by
  refine told.same past.publishers fun publisher => ?_
  have grown : later.rig.messages publisher = (w.rig.extend entries).messages publisher := by
    unfold Rig.messages
    rw [past.onto.journal]
    rfl
  exact grown.trans (Rig.messages_silent past.silent publisher)

theorem does_messages (w : World) (acts : List Act)
    (silent : Entry.Silent (acts.flatMap w.rig.traces)) (publisher : PublisherId) :
    (w.does acts).rig.messages publisher = w.rig.messages publisher := by
  rw [does,Rig.performAll_extends]
  exact Rig.messages_silent silent publisher

theorem mirror_messages (w : World) (message : Message) (publisher : PublisherId) :
    (w.mirror message).rig.messages publisher = w.rig.messages publisher :=
  w.does_messages [.note (.mirrored w.line.relay.registry message.device message.subFolder),
    .mirror (message.bundle w.line.relay.registry)]
    (Entry.plain_silent (w.copied_plain message)) publisher

theorem emptied_messages (w : World) (publisher : PublisherId) :
    w.emptied.rig.messages publisher = w.rig.messages publisher := by
  rw [emptied_extends]
  exact Rig.messages_silent w.remains_silent publisher

theorem deliver_messages (w : World) (message : Message) (publisher other : PublisherId) :
    (w.deliver message publisher).rig.messages other =
      w.rig.messages other ++
        if publisher = other then [(message.device,message.topic,message.data)] else [] := by
  rw [← messages_tell,deliver_eq]
  split
  · rw [mirror_messages,emptied_messages]
    exact does_messages _ _ (by simp [Entry.Silent,Rig.traces,Entry.message?]) other
  · exact mirror_messages _ _ _

theorem enriched_told (ready : w.Ready) (told : w.rig.Told none) (device : String)
    (bound : PublisherBinding) (slot : SlotId) :
    (w.enriched device bound slot).rig.Told (some w.rig.attempts.length) := by
  have opened : (w.enriched device bound slot).rig.publishers =
      w.rig.publishers ++ [⟨w.rig.attempts.length,bound,w.rig.rejectSends⟩] := does_publishers _ _
  have messages (publisher : PublisherId) :
      (w.enriched device bound slot).rig.messages publisher = w.rig.messages publisher :=
    (does_messages _ _ (by simp [Entry.Silent,Rig.traces,Entry.message?]) publisher).trans
      (Rig.messages_plain (by simp [Entry.plain]) publisher)
  refine ⟨?_,fun publisher => ?_⟩
  · rw [opened,List.map_append]
    refine List.pairwise_append.mpr ⟨told.rising,List.pairwise_singleton _ _,?_⟩
    intro earlier before last here
    obtain ⟨p,member,rfl⟩ := List.mem_map.mp before
    rw [List.mem_singleton.mp here]
    exact ready.begun p member
  · rw [opened,messages,List.map_append,List.mem_append,told.heard publisher,List.map_singleton,
      List.mem_singleton,Option.some.injEq,eq_comm (a := publisher)]
    have undecided : ¬none = some publisher := (Option.some_ne_none publisher).symm
    exact ⟨fun known => known.imp_left fun heard => heard.resolve_right undecided,
      fun known => known.imp_left .inl⟩

theorem acquire_told (ready : w.Ready) (told : w.rig.Told none) (device : String) :
    (w.acquire device).2.rig.Told (w.acquire device).1 := by
  have way := w.acquire_sound device
  generalize w.acquire device = answer at way ⊢
  cases way with
  | @reused publisher served =>
      obtain ⟨p,member,rfl⟩ := (ready.serving _ publisher served).member
      exact ((past_note ready _).told told).choose (List.mem_map_of_mem member)
  | refused scripted fault =>
      have asking := past_asked ready device scripted
      exact (asking.trans (past_note asking.ready _)).told told
  | unconnected scripted fault =>
      have asking := past_asked ready device scripted
      have trying := asking.trans (past_attempt asking.ready device)
      exact (trying.trans (past_note trying.ready _)).told told
  | created scripted material unserved =>
      have asking := past_asked ready device scripted
      exact enriched_told asking.ready (asking.told told) device _ _

theorem deliver_told (message : Message) (told : w.rig.Told (some publisher)) :
    (w.deliver message publisher).rig.Told none := by
  refine ⟨?_,fun other => ?_⟩
  · rw [deliver_publishers]
    exact told.rising
  · rw [deliver_publishers,deliver_messages,told.heard other]
    by_cases same : publisher = other <;> simp [same]

theorem forward_told (ready : w.Ready) (told : w.rig.Told none) (message : Message) :
    (w.forward message).rig.Told none := by
  let event : Event := .sendAttempt w.line.relay.registry message.device message.subFolder
  have announced := past_note ready event
  have acquired := acquire_told announced.ready (announced.told told) message.device
  unfold forward
  generalize (w.does [.note event]).acquire message.device = answer at *
  obtain ⟨publisher?,reached⟩ := answer
  cases publisher? with
  | none => exact acquired
  | some publisher => exact deliver_told message acquired

theorem ignore_told (told : w.rig.Told none) (device subFolder : String) :
    (w.ignore device subFolder).rig.Told none := by
  unfold ignore
  simp only
  split
  · exact told
  · exact told.same (does_publishers _ _) (does_messages _ _ (by
      simp [Entry.Silent,Rig.traces,Entry.message?]))

theorem perform_told (ready : w.Ready) (told : w.rig.Told none) (call : Call) :
    (w.perform call).rig.Told none := by
  cases call with
  | publish device subFolder data =>
      cases subFolder with
      | none => exact (past_note ready _).told told
      | some subFolder =>
          simp only [perform]
          split
          · exact forward_told ready told _
          · exact ignore_told told _ _
  | terminate progress after => exact (past_emptied ready).told told
  | fault device fault =>
      have noted := past_note ready (.publisherError w.line.relay.registry device fault)
      exact (noted.trans (past_emptied noted.ready)).told told
  | inbound topic payload =>
      obtain ⟨entries,past⟩ := past_receive ready topic payload
      exact past.told told
  | _ => exact told

end Line.World
namespace Bench
variable {b : Bench} {command : Command}

theorem fresh_told {line : Line} (fresh : b.Fresh line) : b.rig.Told none := by
  refine ⟨?_,fun publisher => ?_⟩
  · rw [fresh.unused.publishers]
    exact .nil
  · have silent := Entry.plain_silent fresh.unused.journal
    have nothing : b.rig.messages publisher = [] :=
      List.filterMap_eq_nil_iff.mpr fun entry member => silent entry member publisher
    simp [fresh.unused.publishers,nothing]

theorem perform_told {line : Line} (steady : b.Steady line) (told : b.rig.Told none)
    (plain : command.isPlain = true) : (b.perform command).1.rig.Told none := by
  cases calls : b.call? command with
  | some call =>
      rw [perform_call steady calls]
      exact World.perform_told steady.ready told call
  | none =>
      obtain ⟨script,rejectConnects,rejectSends,sinkClosed,same,_⟩ :=
        perform_switch steady plain calls
      rw [same]
      exact told.same rfl fun _ => rfl

theorem sequential_told (sequential : Sequential b) : b.rig.Told none := by
  induction sequential with
  | fresh fresh => exact fresh_told fresh
  | perform before plain ih =>
      obtain ⟨line,steady⟩ := sequential_steady before
      exact perform_told steady ih plain

-- Every message is listed once. The list goes by publishers, in the order in which they were
-- opened, and only under one publisher by the order of the calls.
theorem published_by_publisher (sequential : Sequential b) :
    b.rig.published =
      (b.rig.sent.mergeSort byKey).map Prod.snd ∧
    b.rig.published.Perm (b.rig.sent.map Prod.snd) ∧
    (b.rig.sent.Pairwise (fun one two => one.1 ≤ two.1) →
      b.rig.published = b.rig.sent.map Prod.snd) := by
  have listed := (sequential_told sequential).published
  refine ⟨listed,?_,fun rising => ?_⟩
  · rw [listed]
    exact (List.mergeSort_perm _ _).map _
  · have sorted : b.rig.sent.mergeSort byKey = b.rig.sent :=
      List.mergeSort_of_pairwise (rising.imp decide_eq_true)
    rw [listed,sorted]

theorem published_by_publisher_once :
    Sequential (pairDesk.performs (posts [⟨"one","state","first"⟩,⟨"two","state","second"⟩])) ∧
    (pairDesk.performs (posts [⟨"one","state","first"⟩,⟨"two","state","second"⟩])).rig.published =
      [("one","state","first"),("two","state","second")] := by
  let b := pairDesk.performs (posts [⟨"one","state","first"⟩,⟨"two","state","second"⟩])
  have sequential : Sequential b :=
    performs_sequential (.fresh pairDesk_fresh) _ (posts_plain _)
  have sent : b.rig.sent = [(0,"one","state","first"),(1,"two","state","second")] := by
    simp only [b,performs_posts pairDesk_fresh.steady]
    decide
  refine ⟨sequential,((published_by_publisher sequential).2.2 ?_).trans ?_⟩
  · rw [sent]
    decide
  · rw [sent]
    rfl

theorem published_out_of_order :
    let messages : List Message :=
      [⟨"one","state","first"⟩,⟨"two","state","second"⟩,⟨"one","state","third"⟩]
    let b := pairDesk.performs (posts messages)
    Sequential b ∧ b.rig.sent.map Prod.snd = messages.map Message.sent ∧
    b.rig.published = [("one","state","first"),("one","state","third"),("two","state","second")] ∧
    b.rig.published ≠ b.rig.sent.map Prod.snd := by
  intro messages b
  have reached := performs_posts pairDesk_fresh.steady messages
  refine ⟨performs_sequential (.fresh pairDesk_fresh) _ (posts_plain _),?_,?_,?_⟩
  all_goals
    simp only [b,reached]
    decide

end Bench
end RegistryRelay
