import RegistryRelay.Proofs.Bench.Effects

namespace RegistryRelay
open Line (World)

variable {σ : Equiv.Perm PublisherId}

namespace Entry

-- Journals that tell the same of each publisher, but for its number, and the same of everyone
-- else, but for the order.
structure Matched (σ : Equiv.Perm PublisherId) (entries entries' : List Entry) : Prop where
  messages : ∀ publisher,
    entries'.filterMap (message? (σ publisher)) = entries.filterMap (message? publisher)
  closes : ∀ publisher,
    entries'.countP (· == .closed (σ publisher)) = entries.countP (· == .closed publisher)
  seen : ∀ {α : Type} (f : Entry → Option α), (∀ entry, f (entry.rename σ) = f entry) →
    (entries.filterMap f).Perm (entries'.filterMap f)

variable {entries entries' more more' : List Entry}

theorem rename_message? (entry : Entry) (publisher : PublisherId) :
    (entry.rename σ).message? (σ publisher) = entry.message? publisher := by
  cases entry with
  | published n => simp only [rename,message?,σ.injective.eq_iff]
  | _ => rfl

theorem rename_closed (entry : Entry) (publisher : PublisherId) :
    (entry.rename σ == .closed (σ publisher)) = (entry == .closed publisher) := by
  rw [Bool.eq_iff_iff,beq_iff_eq,beq_iff_eq]
  cases entry <;> simp [rename]

theorem filterMap_unclosing (entries : List Entry) (publisher : PublisherId) :
    (entries.filter fun entry => !entry.closes).filterMap (message? publisher) =
      entries.filterMap (message? publisher) := by
  rw [List.filterMap_filter]
  refine List.filterMap_congr fun entry _ => ?_
  cases entry with
  | note event => cases event <;> rfl
  | _ => rfl

theorem Alike.matched (alike : Alike σ entries entries') : Matched σ entries entries' := by
  refine ⟨fun publisher => ?_,fun publisher => ?_,fun f blind => ?_⟩
  · rw [← filterMap_unclosing,← alike.rest,List.filterMap_map,← filterMap_unclosing entries]
    exact List.filterMap_congr fun entry _ => rename_message? entry publisher
  · rw [← alike.all.countP_eq,List.countP_map]
    refine List.countP_congr fun entry _ => ?_
    rw [Function.comp,rename_closed]
  · have same : f ∘ rename σ = f := funext blind
    have moved := alike.all.filterMap f
    rwa [List.filterMap_map,same] at moved

theorem Matched.append (first : Matched σ entries entries') (second : Matched σ more more') :
    Matched σ (entries ++ more) (entries' ++ more') := by
  refine ⟨fun publisher => ?_,fun publisher => ?_,fun f blind => ?_⟩
  · rw [List.filterMap_append,List.filterMap_append,first.messages,second.messages]
  · rw [List.countP_append,List.countP_append,first.closes,second.closes]
  · rw [List.filterMap_append,List.filterMap_append]
    exact (first.seen f blind).append (second.seen f blind)

theorem Matched.swap (first : Matched σ entries entries') (second : Matched σ more more')
    (apart : ∀ publisher, entries'.filterMap (message? publisher) = [] ∨
      more'.filterMap (message? publisher) = []) :
    Matched σ (entries ++ more) (more' ++ entries') := by
  have joined := first.append second
  refine ⟨fun publisher => ?_,fun publisher => ?_,fun f blind => ?_⟩
  · rw [← joined.messages,List.filterMap_append,List.filterMap_append]
    rcases apart (σ publisher) with none | none
    · rw [none,List.append_nil,List.nil_append]
    · rw [none,List.append_nil,List.nil_append]
  · rw [← joined.closes,List.countP_append,List.countP_append,Nat.add_comm]
  · exact (joined.seen f blind).trans (List.perm_append_comm.filterMap f)

end Entry
namespace Line.World

-- The numbers of the attempts that two messages come to if they are handed over in turn, and
-- those that they come to the other way round.
structure Exchanged (σ : Equiv.Perm PublisherId) (n : Nat) (one two : Effect) : Prop where
  below : ∀ k, k < n → σ k = k
  beyond : ∀ k, n + one.numbers + two.numbers ≤ k → σ k = k
  first : one.attempt.isSome → σ n = n + two.numbers
  second : two.attempt.isSome → σ (n + one.numbers) = n

variable {w first second here there : World} {device other : String} {effect one two : Effect}
  {n : Nat}

theorem Effect.numbers_one (tried : effect.attempt.isSome) : effect.numbers = 1 := if_pos tried

theorem Effect.numbers_zero (untried : ¬effect.attempt.isSome) : effect.numbers = 0 :=
  if_neg untried

theorem Effect.tried (opened : effect.opened?.isSome) : effect.attempt.isSome := by
  obtain ⟨binding,joined⟩ := Option.isSome_iff_exists.mp opened
  exact Option.isSome_of_mem (Option.join_eq_some_iff.mp joined)

theorem exchanged (n : Nat) (one two : Effect) : ∃ σ, Exchanged σ n one two := by
  by_cases first : one.attempt.isSome
  · by_cases second : two.attempt.isSome
    · refine ⟨Equiv.swap n (n + 1),fun k below => ?_,fun k beyond => ?_,fun _ => ?_,fun _ => ?_⟩
      · exact Equiv.swap_apply_of_ne_of_ne (Nat.ne_of_lt below)
          (Nat.ne_of_lt (Nat.lt_succ_of_lt below))
      · rw [Effect.numbers_one first,Effect.numbers_one second] at beyond
        exact Equiv.swap_apply_of_ne_of_ne (Nat.ne_of_gt (by omega)) (Nat.ne_of_gt (by omega))
      · rw [Effect.numbers_one second]
        exact Equiv.swap_apply_left _ _
      · rw [Effect.numbers_one first]
        exact Equiv.swap_apply_right _ _
    · refine ⟨Equiv.refl _,fun _ _ => rfl,fun _ _ => rfl,fun _ => ?_,fun tried => absurd tried second⟩
      rw [Effect.numbers_zero second]
      rfl
  · refine ⟨Equiv.refl _,fun _ _ => rfl,fun _ _ => rfl,fun tried => absurd tried first,fun _ => ?_⟩
    rw [Effect.numbers_zero first]
    rfl

theorem Exchanged.choice {κ : Type} [DecidableEq κ] (exchanged : Exchanged σ n one two)
    {old : Option PublisherId} (kept : ∀ k, old = some k → k < n) {mine yours : κ}
    (differs : mine ≠ yours) (key : κ) :
    (if one.opened?.isSome ∧ key = mine then some (n + two.numbers)
      else if two.opened?.isSome ∧ key = yours then some n else old) =
    (if two.opened?.isSome ∧ key = yours then some (n + one.numbers)
      else if one.opened?.isSome ∧ key = mine then some n else old).map σ := by
  by_cases own : one.opened?.isSome ∧ key = mine
  · have others : ¬(two.opened?.isSome ∧ key = yours) := fun ⟨_,same⟩ =>
      differs (own.2.symm.trans same)
    rw [if_pos own,if_neg others,if_pos own,Option.map_some,exchanged.first (Effect.tried own.1)]
  · rw [if_neg own,if_neg own]
    split
    · rename_i theirs
      rw [Option.map_some,exchanged.second (Effect.tried theirs.1)]
    · cases old with
      | none => rfl
      | some k => rw [Option.map_some,exchanged.below k (kept k rfl)]

theorem Exchanged.taken {α : Type} {old : List α} (exchanged : Exchanged σ old.length one two)
    (mine yours : α) (k : Nat) :
    (old ++ List.replicate two.numbers yours ++ List.replicate one.numbers mine)[σ k]? =
      (old ++ List.replicate one.numbers mine ++ List.replicate two.numbers yours)[k]? := by
  -- A number is old, taken by the one message, taken by the other one, or still free.
  have place : k < old.length ∨ (one.attempt.isSome ∧ k = old.length) ∨
      (two.attempt.isSome ∧ k = old.length + one.numbers) ∨
      old.length + one.numbers + two.numbers ≤ k := by
    cases first : one.attempt.isSome <;> cases second : two.attempt.isSome <;>
      simp only [Effect.numbers,first,second,Bool.false_eq_true,true_and,false_and,false_or,
        ↓reduceIte] <;> omega
  rcases place with below | ⟨tried,rfl⟩ | ⟨tried,rfl⟩ | beyond
  · rw [exchanged.below k below,List.append_assoc,List.append_assoc,
      List.getElem?_append_left below,List.getElem?_append_left below]
  · simp [exchanged.first tried,Effect.numbers_one tried]
  · simp [exchanged.second tried,Effect.numbers_one tried]
  · rw [exchanged.beyond k beyond,List.getElem?_eq_none (by simp; omega),
      List.getElem?_eq_none (by simp; omega)]

theorem opens_rename {m : PublisherId} (moved : effect.attempt.isSome → σ n = m) (rejects : Bool) :
    (effect.opens n rejects).map (OpenPublisher.rename σ) = effect.opens m rejects := by
  unfold Effect.opens
  cases opened : effect.opened? with
  | none => rfl
  | some binding =>
      have tried := Effect.tried (Option.isSome_of_mem opened)
      simp [OpenPublisher.rename,moved tried]

theorem opens_own (own : ∀ binding, effect.opened? = some binding → binding.device = device)
    (differs : device ≠ other) (rejects : Bool) :
    (effect.opens n rejects).filter (fun p => p.binding.device == other) = [] := by
  unfold Effect.opens
  cases opened : effect.opened? with
  | none => rfl
  | some binding => simp [own binding opened,differs]

theorem filter_rename (publishers : List OpenPublisher) (device : String) :
    (publishers.map (OpenPublisher.rename σ)).filter (fun p => p.binding.device == device) =
      (publishers.filter fun p => p.binding.device == device).map (OpenPublisher.rename σ) :=
  List.filter_map

theorem Gains.taken (gains : w.Gains first device effect) :
    first.rig.attempts.length = w.rig.attempts.length + effect.numbers := by
  rw [gains.attempts,List.length_append,List.length_replicate]

theorem Gains.rejects (gains : w.Gains first device effect) :
    first.rig.rejectSends = w.rig.rejectSends :=
  gains.kin.field Rig.rejectSends fun _ _ _ _ _ => rfl

section
variable (mine : w.Gains first device one) (yours : first.Gains here other two)
include mine yours

theorem Gains.serves_both (key : PublisherKey) : here.line.state.pool.serves? key =
    if two.opened?.isSome ∧ key = w.line.relay.publisherKey other then
      some (w.rig.attempts.length + one.numbers)
    else if one.opened?.isSome ∧ key = w.line.relay.publisherKey device then
      some w.rig.attempts.length
    else w.line.state.pool.serves? key := by
  rw [yours.serves,mine.serves,mine.relay,mine.taken]

theorem Gains.latest_both (name : String) : here.rig.latest.get? name =
    if two.opened?.isSome ∧ name = other then some (w.rig.attempts.length + one.numbers)
    else if one.opened?.isSome ∧ name = device then some w.rig.attempts.length
    else w.rig.latest.get? name := by
  rw [yours.latest,mine.latest,mine.taken]

theorem Gains.attempts_both : here.rig.attempts = w.rig.attempts ++
    List.replicate one.numbers ⟨w.line.number,device⟩ ++
      List.replicate two.numbers ⟨w.line.number,other⟩ := by
  rw [yours.attempts,mine.attempts,mine.number]

theorem Gains.publishers_both : here.rig.publishers = w.rig.publishers ++
    one.opens w.rig.attempts.length w.rig.rejectSends ++
      two.opens (w.rig.attempts.length + one.numbers) w.rig.rejectSends := by
  rw [yours.publishers,mine.publishers,mine.taken,mine.rejects]

theorem Gains.journal_both : here.rig.journal = w.rig.journal ++
    one.entries w.rig.attempts.length ++ two.entries (w.rig.attempts.length + one.numbers) := by
  rw [yours.journal,mine.journal,mine.taken]

theorem Gains.ignored_both : here.line.state.ignored = (if two.ignores then [other] else []) ++
    (if one.ignores then [device] else []) ++ w.line.state.ignored := by
  rw [yours.ignored,mine.ignored]
  cases two.ignores <;> cases one.ignores <;> rfl

theorem Gains.kin_both : w.rig.Kin here.rig := mine.kin.trans yours.kin

end

theorem Kept.served_lt (kept : w.Kept) {key : PublisherKey}
    (served : w.line.state.pool.serves? key = some n) : n < w.rig.attempts.length := by
  obtain ⟨p,member,rfl⟩ := (kept.serving key n served).member
  exact kept.begun p member

section
variable (ready : w.Ready)
  (filed : ∀ name n, w.rig.latest.get? name = some n → n < w.rig.attempts.length)
  (differs : device ≠ other) (exchanged : Exchanged σ w.rig.attempts.length one two)
  (mine : w.Gains first device one) (after : first.Gains here other two)
  (yours : w.Gains second other two) (before : second.Gains there device one)
include ready differs exchanged mine after yours before

theorem Gains.serves_swap (key : PublisherKey) : there.line.state.pool.serves? key =
    (here.line.state.pool.serves? key).map σ := by
  rw [mine.serves_both after,yours.serves_both before]
  exact exchanged.choice (fun _ => ready.served_lt) (fun same => differs (publisherKey_device same)) key

theorem Gains.publishers_swap
    (mineOwn : ∀ binding, one.opened? = some binding → binding.device = device)
    (yoursOwn : ∀ binding, two.opened? = some binding → binding.device = other) (name : String) :
    there.rig.publishersFor name =
      (here.rig.publishersFor name).map (OpenPublisher.rename σ) := by
  have old : w.rig.publishers.map (OpenPublisher.rename σ) = w.rig.publishers := by
    refine (List.map_congr_left fun p member => ?_).trans (List.map_id _)
    rw [OpenPublisher.rename,exchanged.below p.publisher (ready.begun p member)]
    rfl
  have mineMoved := opens_rename exchanged.first w.rig.rejectSends
  have yoursMoved := opens_rename exchanged.second w.rig.rejectSends
  unfold Rig.publishersFor
  rw [← filter_rename,mine.publishers_both after,yours.publishers_both before,List.map_append,
    List.map_append,old,mineMoved,yoursMoved,List.filter_append,List.filter_append,
    List.filter_append,List.filter_append]
  by_cases same : device = name
  · rw [opens_own yoursOwn (fun others => differs (same.trans others.symm)),List.append_nil,
      List.append_nil]
  · rw [opens_own mineOwn same,List.append_nil,List.append_nil]

include filed in
theorem Gains.renamed (mineOwn : ∀ binding, one.opened? = some binding → binding.device = device)
    (yoursOwn : ∀ binding, two.opened? = some binding → binding.device = other)
    (readyHere : here.Ready) (readyThere : there.Ready) : here.Renamed σ there := by
  have taken : here.rig.attempts.length =
      w.rig.attempts.length + one.numbers + two.numbers := by rw [after.taken,mine.taken]
  refine ⟨?_,?_,?_,?_,?_,?_⟩
  · rw [before.relay,yours.relay,after.relay,mine.relay]
  · rw [before.number,yours.number,after.number,mine.number]
  · rw [before.handle,yours.handle,after.handle,mine.handle]
  · rw [mine.ignored_both after,yours.ignored_both before]
    exact List.perm_append_comm.append_right _
  · exact ⟨readyHere.orderly,readyThere.orderly,readyHere.idle,readyThere.idle,
      mine.serves_swap ready differs exchanged after yours before⟩
  refine ⟨(mine.kin_both after).across (yours.kin_both before),?_,?_,?_,?_,?_,?_⟩
  · rw [taken,before.taken,yours.taken,Nat.add_right_comm]
  · rw [taken]
    exact exchanged.beyond
  · intro n
    rw [mine.attempts_both after,yours.attempts_both before]
    exact exchanged.taken _ _ n
  · intro name n found
    rw [mine.latest_both after] at found
    rw [taken]
    split at found
    · rename_i opened
      cases found
      rw [Effect.numbers_one (Effect.tried opened.1)]
      exact Nat.lt_succ_self _
    · split at found
      · rename_i opened
        cases found
        rw [Effect.numbers_one (Effect.tried opened.1)]
        exact Nat.lt_add_right _ (Nat.lt_succ_self _)
      · exact Nat.lt_add_right _ (Nat.lt_add_right _ (filed name n found))
  · intro name
    rw [mine.latest_both after,yours.latest_both before]
    exact exchanged.choice (filed name) differs name
  · exact mine.publishers_swap ready differs exchanged after yours before mineOwn yoursOwn

end

structure Interchange (σ : Equiv.Perm PublisherId) (w : World) (one two : Call) : Prop where
  below : ∀ n, n < w.rig.attempts.length → σ n = n
  renamed : ((w.perform one).perform two).Renamed σ ((w.perform two).perform one)
  matched : Entry.Matched σ ((w.perform one).perform two).rig.journal
    ((w.perform two).perform one).rig.journal
  adds : ∃ entries more, (w.perform one).rig.journal = w.rig.journal ++ entries ∧
    ((w.perform one).perform two).rig.journal = (w.perform one).rig.journal ++ more ∧
    (w.perform two).rig.journal = w.rig.journal ++ more.map (Entry.rename σ) ∧
    ((w.perform two).perform one).rig.journal =
      (w.perform two).rig.journal ++ entries.map (Entry.rename σ)

theorem Kept.matched (kept : w.Kept) (below : ∀ n, n < w.rig.attempts.length → σ n = n) :
    Entry.Matched σ w.rig.journal w.rig.journal := by
  have beyond (n : PublisherId) (large : w.rig.attempts.length ≤ n) :
      w.rig.attempts.length ≤ σ n := by
    by_contra small
    have fixed := σ.injective (below (σ n) (Nat.not_le.mp small))
    exact small (fixed.symm ▸ large)
  refine ⟨fun n => ?_,fun n => ?_,fun f _ => .refl _⟩
  · rcases Nat.lt_or_ge n w.rig.attempts.length with small | large
    · rw [below n small]
    · exact (kept.unused _ (beyond n large)).2.trans (kept.unused n large).2.symm
  · rcases Nat.lt_or_ge n w.rig.attempts.length with small | large
    · rw [below n small]
    · exact (kept.unused _ (beyond n large)).1.trans (kept.unused n large).1.symm

theorem interchange (ready : w.Ready) (told : w.rig.Told none) (off : w.rig.rejectSends = false)
    (filed : ∀ name n, w.rig.latest.get? name = some n → n < w.rig.attempts.length)
    (differs : device ≠ other) (data data' : String) (subFolder subFolder' : Option String) :
    ∃ σ, Interchange σ w (.publish device subFolder data) (.publish other subFolder' data') := by
  let one := w.effect device data subFolder
  let two := w.effect other data' subFolder'
  let n := w.rig.attempts.length
  obtain ⟨σ,exchanged⟩ := exchanged n one two
  have mine : w.Gains _ device one := perform_gains ready told off device data subFolder
  have yours : w.Gains _ other two := perform_gains ready told off other data' subFolder'
  obtain ⟨_,mineHandled⟩ := perform_handled ready (.publish device subFolder data)
  obtain ⟨_,yoursHandled⟩ := perform_handled ready (.publish other subFolder' data')
  have after := perform_gains mineHandled.ready (perform_told ready told _)
    (mine.rejects.trans off) other data' subFolder'
  have before := perform_gains yoursHandled.ready (perform_told ready told _)
    (yours.rejects.trans off) device data subFolder
  rw [mine.effect_same differs.symm] at after
  rw [yours.effect_same differs] at before
  obtain ⟨_,afterHandled⟩ := perform_handled mineHandled.ready (.publish other subFolder' data')
  obtain ⟨_,beforeHandled⟩ := perform_handled yoursHandled.ready (.publish device subFolder data)
  have fixed (key : PublisherKey) (k : PublisherId)
      (served : w.line.state.pool.serves? key = some k) : σ k = k :=
    exchanged.below k (ready.served_lt served)
  have mineMoved : (one.entries n).map (Entry.rename σ) = one.entries (n + two.numbers) :=
    effect_rename (fixed _) data subFolder exchanged.first
  have yoursMoved : (two.entries (n + one.numbers)).map (Entry.rename σ) = two.entries n :=
    effect_rename (fixed _) data' subFolder' exchanged.second
  -- The publisher that is told something in the first stretch is told nothing in the second.
  have apart (k : PublisherId) : (one.entries (n + two.numbers)).filterMap (Entry.message? k) = [] ∨
      (two.entries n).filterMap (Entry.message? k) = [] := by
    by_contra both
    obtain ⟨toldMine,toldYours⟩ := not_or.mp both
    rcases effect_told toldMine with served | ⟨_,own⟩
    · rcases effect_told toldYours with served' | ⟨_,own'⟩
      · exact differs (publisherKey_device (ready.apart k _ _ served served'))
      · exact Nat.ne_of_gt (ready.served_lt served) own'
    · rcases effect_told toldYours with served' | ⟨tried',own'⟩
      · exact Nat.not_lt.mpr (Nat.le_trans (Nat.le_add_right n _) (Nat.le_of_eq own))
          (ready.served_lt served')
      · rw [Effect.numbers_one tried'] at own
        exact Nat.succ_ne_self n (own.trans own'.symm)
  refine ⟨σ,exchanged.below,?_,?_,one.entries n,two.entries (n + one.numbers),mine.journal,?_,?_,?_⟩
  · exact mine.renamed ready filed differs exchanged after yours before (fun _ => effect_own)
      (fun _ => effect_own) afterHandled.ready beforeHandled.ready
  · rw [mine.journal_both after,yours.journal_both before,List.append_assoc,List.append_assoc]
    exact (ready.matched exchanged.below).append
      ((Entry.alike_eq mineMoved.symm).matched.swap (Entry.alike_eq yoursMoved.symm).matched apart)
  · rw [after.journal,mine.taken]
  · rw [yoursMoved]
    exact yours.journal
  · rw [mineMoved,before.journal,yours.taken]

end Line.World
end RegistryRelay
