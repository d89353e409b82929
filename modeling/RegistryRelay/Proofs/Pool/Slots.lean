import Mathlib.Data.List.Nodup
import Mathlib.Data.Option.Basic
import RegistryRelay.Pool

namespace RegistryRelay.Pool

variable {pool : Pool} {key other : PublisherKey} {slot : SlotId} {publisher : PublisherId}

def keyOf? (pool : Pool) (slot : SlotId) : Option PublisherKey := (pool.slots[slot]?).map Slot.key

-- Every slot was in the pool when it was made, so one that is not there now was drained.
def Drained (pool : Pool) (slot : SlotId) : Prop :=
  slot < pool.slots.length ∧ ∀ key, (key,slot) ∉ pool.cached

structure Orderly (pool : Pool) : Prop where
  unique : (pool.cached.map Prod.fst).Nodup
  placed : ∀ key slot, (key,slot) ∈ pool.cached → pool.keyOf? slot = some key

-- What no later step takes back: the key of a slot, its publisher, and that it was drained.
structure Grows (before after : Pool) : Prop where
  keys : ∀ slot key, before.keyOf? slot = some key → after.keyOf? slot = some key
  holds : ∀ slot publisher, before.content slot = .holds publisher →
    after.content slot = .holds publisher
  drained : ∀ slot, before.Drained slot → after.Drained slot

theorem Grows.refl (pool : Pool) : Grows pool pool :=
  ⟨fun _ _ h => h,fun _ _ h => h,fun _ h => h⟩

theorem Grows.trans {a b c : Pool} (ab : Grows a b) (bc : Grows b c) : Grows a c :=
  ⟨fun _ _ h => bc.keys _ _ (ab.keys _ _ h),fun _ _ h => bc.holds _ _ (ab.holds _ _ h),
    fun _ h => bc.drained _ (ab.drained _ h)⟩

theorem keyOf?_lt (known : pool.keyOf? slot = some key) : slot < pool.slots.length := by
  obtain ⟨found,present,_⟩ := Option.map_eq_some_iff.mp known
  exact (List.getElem?_eq_some_iff.mp present).1

theorem held?_eq_some_iff : pool.held? slot = some publisher ↔
    pool.content slot = .holds publisher := by
  unfold held?
  cases pool.content slot <;> simp

theorem mem_publishers : publisher ∈ pool.publishers ↔
    ∃ key slot, (key,slot) ∈ pool.cached ∧ pool.content slot = .holds publisher := by
  simp only [publishers,List.mem_filterMap,held?_eq_some_iff,Prod.exists]

theorem mem_of_slot? (found : pool.slot? key = some slot) : (key,slot) ∈ pool.cached := by
  obtain ⟨front,back,split,_⟩ := List.lookup_eq_some_iff.mp found
  rw [split]
  simp

theorem slot?_eq_some_iff (orderly : pool.Orderly) :
    pool.slot? key = some slot ↔ (key,slot) ∈ pool.cached := by
  refine ⟨mem_of_slot?,fun member => ?_⟩
  obtain ⟨front,back,split⟩ := List.append_of_mem member
  refine List.lookup_eq_some_iff.mpr ⟨front,back,split,?_⟩
  intro entry inFront
  have unique := orderly.unique
  rw [split,List.map_append,List.nodup_append] at unique
  have differs := unique.2.2 _ (List.mem_map_of_mem inFront) key (by simp)
  simpa using Ne.symm differs

theorem slot?_eq_none_iff : pool.slot? key = none ↔ ∀ slot, (key,slot) ∉ pool.cached := by
  simp only [slot?,List.lookup_eq_none_iff,Prod.forall,bne_iff_ne,ne_eq]
  constructor
  · intro absent slot member
    exact absent key slot member rfl
  · intro absent other slot member same
    subst same
    exact absent slot member

theorem caches_iff (orderly : pool.Orderly) :
    pool.caches key slot = true ↔ (key,slot) ∈ pool.cached := by
  rw [caches,beq_iff_eq,slot?_eq_some_iff orderly]

theorem Orderly.same_key (orderly : pool.Orderly) (one : (key,slot) ∈ pool.cached)
    (two : (other,slot) ∈ pool.cached) : key = other := by
  have placed := orderly.placed _ _ one
  rw [orderly.placed _ _ two] at placed
  exact (Option.some.inj placed).symm

theorem Orderly.same_slot (orderly : pool.Orderly) {one two : SlotId}
    (first : (key,one) ∈ pool.cached) (second : (key,two) ∈ pool.cached) : one = two := by
  rw [← slot?_eq_some_iff orderly] at first second
  rw [first] at second
  exact Option.some.inj second

theorem Orderly.drained_of_absent (orderly : pool.Orderly) (known : pool.keyOf? slot = some key)
    (absent : (key,slot) ∉ pool.cached) : pool.Drained slot := by
  refine ⟨keyOf?_lt known,fun other member => ?_⟩
  have same := orderly.placed _ _ member
  rw [known] at same
  cases same
  exact absent member

theorem Orderly.slots_nodup (orderly : pool.Orderly) : (pool.cached.map Prod.snd).Nodup := by
  apply List.Nodup.of_map pool.keyOf?
  have keys : (pool.cached.map Prod.snd).map pool.keyOf? =
      (pool.cached.map Prod.fst).map some := by
    rw [List.map_map,List.map_map]
    exact List.map_congr_left fun entry member => orderly.placed _ _ member
  rw [keys]
  exact orderly.unique.map (Option.some_injective _)

theorem empty_orderly : Orderly {} := ⟨by simp,by simp⟩

theorem slotFor_found (found : pool.slot? key = some slot) : pool.slotFor key = (pool,slot) := by
  simp only [slotFor,found]

theorem slotFor_made (absent : pool.slot? key = none) :
    pool.slotFor key = ({ slots := pool.slots ++ [⟨key,.empty⟩]
                          cached := pool.cached ++ [(key,pool.slots.length)] },
      pool.slots.length) := by
  simp only [slotFor,absent]

theorem content_slotFor (slot : SlotId) :
    (pool.slotFor key).1.content slot = pool.content slot := by
  cases found : pool.slot? key with
  | some old => rw [slotFor_found found]
  | none =>
      rw [slotFor_made found]
      simp only [content,List.getElem?_append]
      by_cases inside : slot < pool.slots.length
      · simp [inside]
      · by_cases last : slot = pool.slots.length
        · subst last; simp
        · have beyond : pool.slots.length < slot :=
            Nat.lt_of_le_of_ne (Nat.not_lt.mp inside) (Ne.symm last)
          simp [inside,Nat.sub_ne_zero_of_lt beyond]

theorem slotFor_held (held : pool.content (pool.slotFor key).2 = .holds publisher) :
    (key,(pool.slotFor key).2) ∈ pool.cached := by
  cases found : pool.slot? key with
  | some old => rw [slotFor_found found]; exact mem_of_slot? found
  | none =>
      rw [slotFor_made found] at held
      simp [content] at held

theorem slotFor_grows : Grows pool (pool.slotFor key).1 := by
  refine ⟨?_,fun slot publisher held => by rw [content_slotFor]; exact held,?_⟩
  · intro slot other known
    cases found : pool.slot? key with
    | some old => rw [slotFor_found found]; exact known
    | none =>
        rw [slotFor_made found]
        simpa [keyOf?,List.getElem?_append,keyOf?_lt known] using known
  · intro slot drained
    obtain ⟨inside,absent⟩ := drained
    cases found : pool.slot? key with
    | some old => rw [slotFor_found found]; exact ⟨inside,absent⟩
    | none =>
        rw [slotFor_made found]
        refine ⟨Nat.lt_of_lt_of_le inside (by simp),fun other member => ?_⟩
        rcases List.mem_append.mp member with old | new
        · exact absent other old
        · cases List.mem_singleton.mp new
          exact Nat.lt_irrefl _ inside

theorem keyOf?_slotFor (orderly : pool.Orderly) :
    (pool.slotFor key).1.keyOf? (pool.slotFor key).2 = some key := by
  cases found : pool.slot? key with
  | some old => rw [slotFor_found found]; exact orderly.placed _ _ (mem_of_slot? found)
  | none => rw [slotFor_made found]; simp [keyOf?]

theorem mem_slotFor {entry : PublisherKey × SlotId} : entry ∈ (pool.slotFor key).1.cached ↔
    entry ∈ pool.cached ∨ entry = (key,(pool.slotFor key).2) := by
  cases found : pool.slot? key with
  | some old =>
      rw [slotFor_found found]
      refine ⟨.inl,?_⟩
      intro found
      rcases found with member | rfl
      · exact member
      · exact mem_of_slot? found
  | none => rw [slotFor_made found]; simp

theorem slotFor_orderly (orderly : pool.Orderly) : (pool.slotFor key).1.Orderly := by
  refine ⟨?_,?_⟩
  · cases found : pool.slot? key with
    | some old => rw [slotFor_found found]; exact orderly.unique
    | none =>
        rw [slotFor_made found]
        simp only [List.map_append,List.map_cons,List.map_nil]
        refine List.nodup_append.mpr ⟨orderly.unique,by simp,?_⟩
        intro a member b last same
        obtain ⟨entry,inside,rfl⟩ := List.mem_map.mp member
        rw [List.mem_singleton] at last
        subst last
        exact slot?_eq_none_iff.mp found entry.2 (same ▸ inside)
  · intro other slot member
    rcases mem_slotFor.mp member with old | new
    · exact slotFor_grows.keys _ _ (orderly.placed _ _ old)
    · cases new
      exact keyOf?_slotFor orderly

theorem keyOf?_fill (content : Content) (place : SlotId) :
    (pool.fill slot content).keyOf? place = pool.keyOf? place := by
  simp only [keyOf?,fill,List.getElem?_modify]
  cases pool.slots[place]? with
  | none => rfl
  | some found => by_cases same : slot = place <;> simp [same]

theorem content_fill (made : slot < pool.slots.length) (content : Content) (place : SlotId) :
    (pool.fill slot content).content place = if place = slot then content else pool.content place := by
  simp only [Pool.content,fill,List.getElem?_modify]
  by_cases same : place = slot
  · subst same
    simp [List.getElem?_eq_getElem made]
  · simp [same,Ne.symm same]

theorem drained_fill (content : Content) :
    (pool.fill slot content).Drained = pool.Drained := by
  funext place
  simp only [Drained,fill,List.length_modify]

theorem fill_orderly (orderly : pool.Orderly) (content : Content) :
    (pool.fill slot content).Orderly :=
  ⟨orderly.unique,fun key place member => by rw [keyOf?_fill]; exact orderly.placed key place member⟩

theorem holds_fill (made : slot < pool.slots.length)
    (free : ∀ publisher, pool.content slot ≠ .holds publisher) (content : Content)
    (place : SlotId) : (pool.fill slot content).content place = .holds publisher ↔
      pool.content place = .holds publisher ∨ place = slot ∧ content = .holds publisher := by
  rw [content_fill made]
  by_cases same : place = slot
  · subst same; simp [free publisher]
  · simp [same]

theorem held_fill {content : Content} {place : SlotId}
    (held : (pool.fill slot content).content place = .holds publisher) :
    pool.content place = .holds publisher ∨ place = slot ∧ content = .holds publisher := by
  simp only [Pool.content,fill,List.getElem?_modify] at held ⊢
  cases found : pool.slots[place]? with
  | none => simp [found] at held
  | some old =>
      by_cases same : slot = place
      · subst same
        exact .inr ⟨rfl,by simpa [found] using held⟩
      · exact .inl (by simpa [found,same] using held)

theorem fill_fill (slot : SlotId) (one two : Content) :
    (pool.fill slot one).fill slot two = pool.fill slot two := by
  simp only [fill,List.modify_modify_eq]
  rfl

theorem fill_content (slot : SlotId) : pool.fill slot (pool.content slot) = pool := by
  have same : pool.slots.modify slot (fun found => { found with content := pool.content slot }) =
      pool.slots := by
    refine List.ext_getElem? fun place => ?_
    rw [List.getElem?_modify]
    cases found : pool.slots[place]? with
    | none => rfl
    | some old =>
        by_cases here : slot = place
        · subst here
          simp [Pool.content,found]
        · simp [here]
  simp only [fill,same]

-- Only a slot without a publisher is ever filled, so none loses the one it holds.
theorem fill_grows (made : slot < pool.slots.length)
    (free : ∀ publisher, pool.content slot ≠ .holds publisher) (content : Content) :
    Grows pool (pool.fill slot content) := by
  refine ⟨fun place key known => by rw [keyOf?_fill]; exact known,?_,?_⟩
  · intro place publisher held
    exact (holds_fill made free content place).mpr (.inl held)
  · intro place drained
    rw [drained_fill]
    exact drained

theorem drain_grows : Grows pool { pool with cached := [] } :=
  ⟨fun _ _ known => known,fun _ _ held => held,fun _ drained => ⟨drained.1,by simp⟩⟩

theorem drain_orderly : Orderly { pool with cached := [] } := ⟨by simp,by simp⟩

theorem drain_drained (orderly : pool.Orderly) (member : (key,slot) ∈ pool.cached) :
    Drained { pool with cached := [] } slot :=
  ⟨keyOf?_lt (orderly.placed _ _ member),by simp⟩

def serves? (pool : Pool) (key : PublisherKey) : Option PublisherId :=
  (pool.slot? key).bind pool.held?

theorem serves?_eq_some_iff (orderly : pool.Orderly) : pool.serves? key = some publisher ↔
    ∃ slot, (key,slot) ∈ pool.cached ∧ pool.content slot = .holds publisher := by
  simp only [serves?,Option.bind_eq_some_iff,slot?_eq_some_iff orderly,held?_eq_some_iff]

theorem mem_publishers_iff (orderly : pool.Orderly) :
    publisher ∈ pool.publishers ↔ ∃ key, pool.serves? key = some publisher := by
  simp only [mem_publishers,serves?_eq_some_iff orderly]

theorem publishers_nodup (orderly : pool.Orderly)
    (apart : ∀ publisher key other, pool.serves? key = some publisher →
      pool.serves? other = some publisher → key = other) : pool.publishers.Nodup := by
  refine List.pairwise_filterMap.mpr
    (List.Pairwise.imp_of_mem ?_ (List.pairwise_map.mp orderly.unique))
  intro one two first second differs publisher held other holds same
  subst same
  rw [held?_eq_some_iff] at held holds
  exact differs (apart publisher one.1 two.1
    ((serves?_eq_some_iff orderly).mpr ⟨one.2,first,held⟩)
    ((serves?_eq_some_iff orderly).mpr ⟨two.2,second,holds⟩))

theorem serves?_slotFor (orderly : pool.Orderly) :
    (pool.slotFor key).1.serves? other = pool.serves? other := by
  refine Option.ext fun publisher => ?_
  rw [serves?_eq_some_iff (slotFor_orderly orderly),serves?_eq_some_iff orderly]
  constructor
  · intro served
    obtain ⟨slot,member,held⟩ := served
    rw [content_slotFor] at held
    rcases mem_slotFor.mp member with old | new
    · exact ⟨slot,old,held⟩
    · cases new
      exact ⟨_,slotFor_held held,held⟩
  · intro served
    obtain ⟨slot,member,held⟩ := served
    exact ⟨slot,mem_slotFor.mpr (.inl member),by rw [content_slotFor]; exact held⟩

theorem slotFor_serving (orderly : pool.Orderly) (served : pool.serves? key = some publisher) :
    (pool.slotFor key).1 = pool ∧ pool.content (pool.slotFor key).2 = .holds publisher := by
  obtain ⟨slot,member,held⟩ := (serves?_eq_some_iff orderly).mp served
  rw [slotFor_found ((slot?_eq_some_iff orderly).mpr member)]
  exact ⟨rfl,held⟩

theorem slotFor_empty (orderly : pool.Orderly) (idle : ∀ slot, pool.content slot ≠ .opening)
    (unserved : pool.serves? key = none) : pool.content (pool.slotFor key).2 = .empty := by
  cases content : pool.content (pool.slotFor key).2 with
  | empty => rfl
  | opening => exact absurd content (idle _)
  | holds publisher =>
      have served := (serves?_eq_some_iff orderly).mpr ⟨_,slotFor_held content,content⟩
      cases unserved.symm.trans served

theorem caches_slotFor (orderly : pool.Orderly) :
    (pool.slotFor key).1.caches key (pool.slotFor key).2 = true :=
  (caches_iff (slotFor_orderly orderly)).mpr (mem_slotFor.mpr (.inr rfl))

theorem serves?_fill_here (orderly : pool.Orderly) (made : slot < pool.slots.length)
    (member : (key,slot) ∈ pool.cached) :
    (pool.fill slot (.holds publisher)).serves? key = some publisher := by
  rw [serves?_eq_some_iff (fill_orderly orderly _)]
  exact ⟨slot,member,by simp [content_fill made]⟩

theorem serves?_fill_away (orderly : pool.Orderly) (made : slot < pool.slots.length)
    (free : ∀ publisher, pool.content slot ≠ .holds publisher) (content : Content)
    (away : (∀ publisher, content ≠ .holds publisher) ∨ (key,slot) ∉ pool.cached) :
    (pool.fill slot content).serves? key = pool.serves? key := by
  refine Option.ext fun publisher => ?_
  rw [serves?_eq_some_iff (fill_orderly orderly _),serves?_eq_some_iff orderly]
  constructor
  · intro served
    obtain ⟨place,member,held⟩ := served
    rcases (holds_fill made free content place).mp held with old | ⟨rfl,new⟩
    · exact ⟨place,member,old⟩
    · rcases away with empty | absent
      · exact absurd new (empty publisher)
      · exact absurd member absent
  · intro served
    obtain ⟨place,member,held⟩ := served
    exact ⟨place,member,(holds_fill made free content place).mpr (.inl held)⟩

theorem serves?_fill_empty (orderly : pool.Orderly) (placed : (key,slot) ∈ pool.cached)
    (empty : pool.content slot = .empty) (publisher : PublisherId) (other : PublisherKey) :
    (pool.fill slot (.holds publisher)).serves? other =
      if other = key then some publisher else pool.serves? other := by
  have made := keyOf?_lt (orderly.placed _ _ placed)
  split
  · rename_i same
    subst same
    exact serves?_fill_here orderly made placed
  · rename_i differs
    have free : ∀ publisher, pool.content slot ≠ .holds publisher := by simp [empty]
    exact serves?_fill_away orderly made free _
      (.inr fun member => differs (orderly.same_key member placed))

theorem held?_congr {after : Pool} (same : ∀ publisher, after.content slot = .holds publisher ↔
    pool.content slot = .holds publisher) : after.held? slot = pool.held? slot :=
  Option.ext fun publisher => by rw [held?_eq_some_iff,held?_eq_some_iff,same]

theorem size_fill_idle (made : slot < pool.slots.length)
    (free : ∀ publisher, pool.content slot ≠ .holds publisher) (content : Content)
    (idle : ∀ publisher, content ≠ .holds publisher) : (pool.fill slot content).size = pool.size := by
  refine congrArg List.length (List.filterMap_congr fun entry _ => held?_congr fun publisher => ?_)
  rw [holds_fill made free]
  exact or_iff_left fun new => idle publisher new.2

theorem size_fill_holds (orderly : pool.Orderly) (member : (key,slot) ∈ pool.cached)
    (free : ∀ publisher, pool.content slot ≠ .holds publisher) (publisher : PublisherId) :
    (pool.fill slot (.holds publisher)).size = pool.size + 1 := by
  have made := keyOf?_lt (orderly.placed _ _ member)
  have mine : (pool.fill slot (.holds publisher)).held? slot = some publisher :=
    held?_eq_some_iff.mpr (by simp [content_fill made])
  have before : pool.held? slot = none :=
    Option.eq_none_iff_forall_ne_some.mpr fun other held => free other (held?_eq_some_iff.mp held)
  have others : ∀ entry ∈ pool.cached, entry.2 ≠ slot →
      (pool.fill slot (.holds publisher)).held? entry.2 = pool.held? entry.2 := by
    intro entry _ away
    refine held?_congr fun other => ?_
    rw [holds_fill made free]
    exact or_iff_left fun new => away new.1
  obtain ⟨front,back,split⟩ := List.append_of_mem member
  have unique := orderly.slots_nodup
  rw [split] at unique others
  simp only [List.map_append,List.map_cons,List.nodup_append,List.nodup_cons] at unique
  have ahead : ∀ entry ∈ front, entry.2 ≠ slot := fun entry inside =>
    unique.2.2 _ (List.mem_map_of_mem inside) _ List.mem_cons_self
  have behind : ∀ entry ∈ back, entry.2 ≠ slot := fun entry inside same =>
    unique.2.1.1 (same ▸ List.mem_map_of_mem inside)
  have first := List.filterMap_congr fun entry inside =>
    others entry (List.mem_append_left _ inside) (ahead entry inside)
  have last := List.filterMap_congr fun entry inside =>
    others entry (List.mem_append_right _ (List.mem_cons_of_mem _ inside)) (behind entry inside)
  have cached : (pool.fill slot (.holds publisher)).cached = pool.cached := rfl
  simp only [size,publishers,cached,split,List.filterMap_append,List.filterMap_cons,mine,before,
    first,last,List.length_append,List.length_cons]
  rfl

theorem size_slotFor : (pool.slotFor key).1.size = pool.size := by
  have contents : (pool.slotFor key).1.held? = pool.held? := by
    funext place
    rw [held?,held?,content_slotFor]
  cases found : pool.slot? key with
  | some old => rw [slotFor_found found]
  | none =>
      have empty : pool.held? pool.slots.length = none := by simp [held?,content]
      rw [slotFor_made found] at contents ⊢
      simp only [size,publishers,contents,List.filterMap_append,List.filterMap_cons,empty]
      simp

end RegistryRelay.Pool
