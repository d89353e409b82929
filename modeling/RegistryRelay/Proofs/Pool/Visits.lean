import Mathlib.Data.Set.Insert
import Mathlib.Logic.Function.Basic
import RegistryRelay.Proofs.Pool.Slots

namespace RegistryRelay.Pool

inductive Visit where
  | acquire (key : PublisherKey) (progress : Acquisition)
  | teardown (progress : Teardown)

namespace Visit

def turn? : Visit → Option SlotId
  | .acquire _ (.opening slot) => some slot
  | _ => none

-- Whether this call will still look at the slot and close what it holds, should the slot
-- not be in the pool.
def Owes : Visit → SlotId → Prop
  | .acquire _ (.checking place _ _),slot => place = slot
  | .teardown (.closing left _),slot => ∃ key, (key,slot) ∈ left
  | _,_ => False

-- What a call may rely on: its slot is that of its key, it opens only what is being opened,
-- it checks the publisher the slot holds, and a teardown visits drained slots only.
def Fits (pool : Pool) : Visit → Prop
  | .acquire key (.waiting slot) => pool.keyOf? slot = some key
  | .acquire key (.opening slot) => pool.keyOf? slot = some key ∧ pool.content slot = .opening
  | .acquire key (.checking slot publisher _) =>
      pool.keyOf? slot = some key ∧ pool.content slot = .holds publisher
  | .teardown (.closing left _) =>
      ∀ entry ∈ left, pool.keyOf? entry.2 = some entry.1 ∧ pool.Drained entry.2
  | _ => True

theorem Fits.grow {before after : Pool} {visit : Visit} (fits : visit.Fits before)
    (grows : Grows before after)
    (turn : ∀ slot, visit.turn? = some slot → after.content slot = before.content slot) :
    visit.Fits after := by
  match visit with
  | .acquire _ .asking | .teardown .starting => trivial
  | .acquire _ (.waiting _) => exact grows.keys _ _ fits
  | .acquire _ (.opening slot) => exact ⟨grows.keys _ _ fits.1,(turn slot rfl).trans fits.2⟩
  | .acquire _ (.checking _ _ _) => exact ⟨grows.keys _ _ fits.1,grows.holds _ _ fits.2⟩
  | .teardown (.closing left _) =>
      intro entry member
      exact ⟨grows.keys _ _ (fits entry member).1,grows.drained _ (fits entry member).2⟩

theorem Fits.opening {pool : Pool} {visit : Visit} {slot : SlotId} (fits : visit.Fits pool)
    (turn : visit.turn? = some slot) : pool.content slot = .opening := by
  match visit with
  | .acquire _ (.opening _) => cases turn; exact fits.2

end Visit

structure Scene where
  pool : Pool
  visits : Nat → Option Visit
  opened : Set PublisherId
  closed : Set PublisherId

def visitsOf {α : Type} (visit? : α → Option Visit) (calls : List α) (call : Nat) : Option Visit :=
  (calls[call]?).bind visit?

section
variable {α : Type} (visit? : α → Option Visit) {calls : List α} {index : Nat} {old : α}

theorem visitsOf_nil : visitsOf visit? [] = fun _ => none := by
  funext i
  simp [visitsOf]

theorem visitsOf_append (call : α) : visitsOf visit? (calls ++ [call]) =
    Function.update (visitsOf visit? calls) calls.length (visit? call) := by
  funext i
  simp only [visitsOf,Function.update_apply,List.getElem?_append]
  by_cases inside : i < calls.length
  · simp [inside,Nat.ne_of_lt inside]
  · by_cases last : i = calls.length
    · subst last; simp
    · have beyond : calls.length < i := Nat.lt_of_le_of_ne (Nat.not_lt.mp inside) (Ne.symm last)
      simp [inside,last,Nat.sub_ne_zero_of_lt beyond]

theorem visitsOf_set (here : calls[index]? = some old) (call : α) :
    visitsOf visit? (calls.set index call) =
      Function.update (visitsOf visit? calls) index (visit? call) := by
  funext i
  obtain ⟨inside,_⟩ := List.getElem?_eq_some_iff.mp here
  simp only [visitsOf,Function.update_apply]
  by_cases same : i = index
  · subst same
    simp [List.getElem?_set_self inside]
  · simp [same,List.getElem?_set_ne (Ne.symm same)]

theorem visitsOf_new : visitsOf visit? calls calls.length = none := by simp [visitsOf]

theorem visitsOf_here (here : calls[index]? = some old) :
    visitsOf visit? calls index = visit? old := by simp [visitsOf,here]

end

namespace Scene

def put (s : Scene) (call : Nat) (visit : Option Visit) : Scene :=
  { s with visits := Function.update s.visits call visit }

def on (s : Scene) (pool : Pool) : Scene := { s with pool }
def withOpened (s : Scene) (publisher : PublisherId) : Scene :=
  { s with opened := insert publisher s.opened }
def withClosed (s : Scene) (publisher : PublisherId) : Scene :=
  { s with closed := insert publisher s.closed }

inductive Step : Scene → Scene → Prop where
  | ask {s : Scene} (away : s.visits call = none) :
      Step s (s.put call (some (.acquire key .asking)))
  | clear {s : Scene} (away : s.visits call = none) :
      Step s (s.put call (some (.teardown .starting)))
  | look {s : Scene} (here : s.visits call = some (.acquire key .asking)) :
      Step s ((s.on (s.pool.slotFor key).1).put call
        (some (.acquire key (.waiting (s.pool.slotFor key).2))))
  | join {s : Scene} (here : s.visits call = some (.acquire key (.waiting slot)))
      (held : s.pool.content slot = .holds publisher) :
      Step s (s.put call (some (.acquire key (.checking slot publisher false))))
  | start {s : Scene} (here : s.visits call = some (.acquire key (.waiting slot)))
      (free : s.pool.content slot = .empty) :
      Step s ((s.on (s.pool.fill slot .opening)).put call (some (.acquire key (.opening slot))))
  | fill {s : Scene} (here : s.visits call = some (.acquire key (.opening slot)))
      (fresh : publisher ∉ s.opened) :
      Step s (((s.on (s.pool.fill slot (.holds publisher))).withOpened publisher).put call
        (some (.acquire key (.checking slot publisher true))))
  | fail {s : Scene} (here : s.visits call = some (.acquire key (.opening slot))) :
      Step s ((s.on (s.pool.fill slot .empty)).put call none)
  | deliver {s : Scene} (here : s.visits call = some (.acquire key (.checking slot publisher created)))
      (cached : s.pool.caches key slot = true) : Step s (s.put call none)
  | stale {s : Scene} (here : s.visits call = some (.acquire key (.checking slot publisher created)))
      (drained : s.pool.caches key slot = false) : Step s ((s.withClosed publisher).put call none)
  | drain {s : Scene} (here : s.visits call = some (.teardown .starting))
      (perm : left.Perm s.pool.cached) :
      Step s ((s.on { s.pool with cached := [] }).put call
        (some (.teardown (.closing left 0))))
  | shut {s : Scene} (here : s.visits call = some (.teardown (.closing ((key,slot) :: left) n)))
      (held : s.pool.held? slot = some publisher) :
      Step s ((s.withClosed publisher).put call (some (.teardown (.closing left (n + 1)))))
  | pass {s : Scene} (here : s.visits call = some (.teardown (.closing ((key,slot) :: left) n)))
      (empty : s.pool.held? slot = none) :
      Step s (s.put call (some (.teardown (.closing left n))))
  | leave {s : Scene} (here : s.visits call = some (.teardown (.closing [] n))) :
      Step s (s.put call none)

-- Whose duty every open publisher is: that of the pool while its slot is there, else that of
-- a call which has yet to check the slot or to visit it in a teardown.
structure Sound (s : Scene) : Prop where
  orderly : s.pool.Orderly
  fits : ∀ call visit, s.visits call = some visit → visit.Fits s.pool
  turn : ∀ one two first second slot, s.visits one = some first → s.visits two = some second →
    first.turn? = some slot → second.turn? = some slot → one = two
  opened : ∀ publisher, publisher ∈ s.opened ↔ ∃ slot, s.pool.content slot = .holds publisher
  apart : ∀ one two publisher, s.pool.content one = .holds publisher →
    s.pool.content two = .holds publisher → one = two
  known : s.closed ⊆ s.opened
  unclosed : ∀ key slot publisher, (key,slot) ∈ s.pool.cached →
    s.pool.content slot = .holds publisher → publisher ∉ s.closed
  obliged : ∀ slot publisher, s.pool.content slot = .holds publisher → publisher ∉ s.closed →
    (∃ key, (key,slot) ∈ s.pool.cached) ∨ ∃ call visit, s.visits call = some visit ∧
      visit.Owes slot

variable {s next : Scene} {call : Nat} {key : PublisherKey} {slot : SlotId}
  {publisher : PublisherId}

theorem put_visits (other : Nat) (visit : Option Visit) :
    (s.put call visit).visits other = if other = call then visit else s.visits other := by
  simp only [put,Function.update_apply]

theorem put_visit {visit : Option Visit} {other : Nat} {found : Visit}
    (present : (s.put call visit).visits other = some found) :
    other = call ∧ visit = some found ∨ other ≠ call ∧ s.visits other = some found := by
  rw [put_visits] at present
  by_cases same : other = call
  · exact .inl ⟨same,by simpa [same] using present⟩
  · exact .inr ⟨same,by simpa [same] using present⟩

theorem Sound.revisit (sound : s.Sound) {before visit : Option Visit}
    (here : s.visits call = before)
    (fits : ∀ found, visit = some found → found.Fits s.pool ∧ found.turn? = none)
    (owes : ∀ slot publisher found, s.pool.content slot = .holds publisher →
      publisher ∉ s.closed → before = some found → found.Owes slot →
      (∃ key, (key,slot) ∈ s.pool.cached) ∨ ∃ found, visit = some found ∧ found.Owes slot) :
    (s.put call visit).Sound := by
  refine ⟨sound.orderly,?_,?_,sound.opened,sound.apart,sound.known,sound.unclosed,?_⟩
  · intro other found present
    rcases put_visit present with ⟨_,new⟩ | ⟨_,old⟩
    · exact (fits found new).1
    · exact sound.fits other found old
  · intro one two first second slot here there turn turn'
    rcases put_visit here with ⟨_,new⟩ | ⟨_,old⟩
    · rw [(fits first new).2] at turn; cases turn
    · rcases put_visit there with ⟨_,new⟩ | ⟨_,old'⟩
      · rw [(fits second new).2] at turn'; cases turn'
      · exact sound.turn one two first second slot old old' turn turn'
  · intro slot publisher held unclosed
    rcases sound.obliged slot publisher held unclosed with cached | ⟨other,found,present,owed⟩
    · exact .inl cached
    · by_cases same : other = call
      · subst same
        rcases owes slot publisher found held unclosed (here.symm.trans present) owed with
          cached | ⟨new,rfl,owed⟩
        · exact .inl cached
        · exact .inr ⟨other,new,by simp [put_visits],owed⟩
      · exact .inr ⟨other,found,by simp [put_visits,same,present],owed⟩

theorem Sound.close (sound : s.Sound) (held : s.pool.content slot = .holds publisher)
    (drained : s.pool.Drained slot) : (s.withClosed publisher).Sound := by
  refine ⟨sound.orderly,sound.fits,sound.turn,sound.opened,sound.apart,?_,?_,?_⟩
  · intro other closed
    rcases closed with rfl | closed
    · exact (sound.opened other).mpr ⟨slot,held⟩
    · exact sound.known closed
  · intro key place other cached holds closed
    rcases closed with rfl | closed
    · cases sound.apart _ _ _ held holds
      exact drained.2 key cached
    · exact sound.unclosed key place other cached holds closed
  · intro place other holds unclosed
    exact sound.obliged place other holds fun closed => unclosed (.inr closed)

theorem Sound.refill (sound : s.Sound) {content : Content} {before : Visit}
    {visit : Option Visit} {opened : Set PublisherId} (here : s.visits call = some before)
    (dutiless : ∀ place, ¬ before.Owes place) (made : slot < s.pool.slots.length)
    (free : ∀ publisher, s.pool.content slot ≠ .holds publisher)
    (alone : ∀ other found, s.visits other = some found → found.turn? = some slot →
      other = call)
    (fresh : ∀ publisher, content = .holds publisher → publisher ∉ s.opened)
    (opens : ∀ publisher,
      publisher ∈ opened ↔ publisher ∈ s.opened ∨ content = .holds publisher)
    (fits : ∀ found, visit = some found → found.Fits (s.pool.fill slot content) ∧
      ∀ place, found.turn? = some place → place = slot)
    (owes : ∀ publisher, content = .holds publisher →
      ∃ found, visit = some found ∧ found.Owes slot) :
    (Scene.put { s with pool := s.pool.fill slot content, opened } call visit).Sound := by
  have grows := fill_grows made free content
  have filled : ∀ place publisher, (s.pool.fill slot content).content place = .holds publisher ↔
      s.pool.content place = .holds publisher ∨ place = slot ∧ content = .holds publisher :=
    fun place publisher => holds_fill made free content place
  have mine : ∀ found, visit = some found → ∀ place, found.turn? = some place → place = slot :=
    fun found new => (fits found new).2
  refine ⟨fill_orderly sound.orderly content,?_,?_,?_,?_,?_,?_,?_⟩
  · intro other found present
    rcases put_visit present with ⟨_,new⟩ | ⟨away,old⟩
    · exact (fits found new).1
    · refine (sound.fits other found old).grow grows fun place turn => ?_
      have differs : place ≠ slot := by
        intro same
        subst same
        exact away (alone other found old turn)
      exact (content_fill made content place).trans (if_neg differs)
  · intro one two first second place here there turn turn'
    rcases put_visit here with ⟨same,new⟩ | ⟨away,old⟩
    · rcases put_visit there with ⟨same',_⟩ | ⟨_,old'⟩
      · exact same.trans same'.symm
      · cases mine first new place turn
        exact same.trans (alone two second old' turn').symm
    · rcases put_visit there with ⟨same',new'⟩ | ⟨_,old'⟩
      · cases mine second new' place turn'
        exact (alone one first old turn).trans same'.symm
      · exact sound.turn one two first second place old old' turn turn'
  · intro publisher
    refine (opens publisher).trans ?_
    rw [sound.opened]
    constructor
    · intro opened
      rcases opened with ⟨place,held⟩ | new
      · exact ⟨place,(filled place publisher).mpr (.inl held)⟩
      · exact ⟨slot,(filled slot publisher).mpr (.inr ⟨rfl,new⟩)⟩
    · intro holder
      obtain ⟨place,held⟩ := holder
      rcases (filled place publisher).mp held with old | ⟨_,new⟩
      · exact .inl ⟨place,old⟩
      · exact .inr new
  · intro one two publisher first second
    rcases (filled one publisher).mp first with old | ⟨rfl,new⟩
    · rcases (filled two publisher).mp second with old' | ⟨_,new'⟩
      · exact sound.apart one two publisher old old'
      · exact absurd ((sound.opened publisher).mpr ⟨one,old⟩) (fresh publisher new')
    · rcases (filled two publisher).mp second with old' | ⟨rfl,_⟩
      · exact absurd ((sound.opened publisher).mpr ⟨two,old'⟩) (fresh publisher new)
      · rfl
  · intro publisher closed
    exact (opens publisher).mpr (.inl (sound.known closed))
  · intro key place publisher cached held closed
    rcases (filled place publisher).mp held with old | ⟨_,new⟩
    · exact sound.unclosed key place publisher cached old closed
    · exact fresh publisher new (sound.known closed)
  · intro place publisher held unclosed
    rcases (filled place publisher).mp held with old | ⟨rfl,new⟩
    · rcases sound.obliged place publisher old unclosed with cached | ⟨other,found,present,owed⟩
      · exact .inl cached
      · have away : other ≠ call := by
          intro same
          subst same
          cases here.symm.trans present
          exact dutiless place owed
        exact .inr ⟨other,found,by simp only [put_visits,if_neg away]; exact present,owed⟩
    · obtain ⟨found,rfl,owed⟩ := owes publisher new
      exact .inr ⟨call,found,by simp [put_visits],owed⟩

theorem Sound.look (sound : s.Sound) (key : PublisherKey) :
    (s.on (s.pool.slotFor key).1).Sound := by
  have grows : Grows s.pool (s.pool.slotFor key).1 := slotFor_grows
  refine ⟨slotFor_orderly sound.orderly,?_,sound.turn,?_,?_,sound.known,?_,?_⟩
  · intro other found present
    exact (sound.fits other found present).grow grows fun slot _ => content_slotFor slot
  · simpa only [on,content_slotFor] using sound.opened
  · simpa only [on,content_slotFor] using sound.apart
  · intro other slot publisher cached held
    rw [on,content_slotFor] at held
    rcases mem_slotFor.mp cached with old | new
    · exact sound.unclosed other slot publisher old held
    · cases new
      exact sound.unclosed key _ publisher (slotFor_held held) held
  · intro slot publisher held unclosed
    rw [on,content_slotFor] at held
    rcases sound.obliged slot publisher held unclosed with ⟨other,cached⟩ | owed
    · exact .inl ⟨other,mem_slotFor.mpr (.inl cached)⟩
    · exact .inr owed

-- A teardown takes over the duties of the pool as it empties it.
theorem Sound.drain (sound : s.Sound) (here : s.visits call = some (.teardown .starting))
    {left : List (PublisherKey × SlotId)} (perm : left.Perm s.pool.cached) :
    ((s.on { s.pool with cached := [] }).put call
      (some (.teardown (.closing left 0)))).Sound := by
  refine ⟨drain_orderly,?_,?_,sound.opened,sound.apart,sound.known,by simp [put,on],?_⟩
  · intro other found present
    rcases put_visit present with ⟨_,new⟩ | ⟨_,old⟩
    · cases new
      intro entry member
      have cached := perm.mem_iff.mp member
      exact ⟨sound.orderly.placed _ _ cached,drain_drained sound.orderly cached⟩
    · exact (sound.fits other found old).grow drain_grows fun _ _ => rfl
  · intro one two first second slot one' two' turn turn'
    rcases put_visit one' with ⟨_,new⟩ | ⟨_,old⟩
    · cases new; cases turn
    · rcases put_visit two' with ⟨_,new⟩ | ⟨_,old'⟩
      · cases new; cases turn'
      · exact sound.turn one two first second slot old old' turn turn'
  · intro slot publisher held unclosed
    refine .inr ?_
    rcases sound.obliged slot publisher held unclosed with ⟨key,cached⟩ | ⟨other,found,present,owed⟩
    · exact ⟨call,.teardown (.closing left 0),by simp [put_visits],key,perm.mem_iff.mpr cached⟩
    · have away : other ≠ call := by
        intro same
        subst same
        rw [here] at present
        cases present
        exact owed
      exact ⟨other,found,by simp only [put_visits,if_neg away]; exact present,owed⟩

theorem Sound.visited (sound : s.Sound) {left : List (PublisherKey × SlotId)} {n m : Nat}
    (here : s.visits call = some (.teardown (.closing ((key,slot) :: left) n)))
    (closed : ∀ publisher, s.pool.content slot = .holds publisher → publisher ∈ s.closed) :
    (s.put call (some (.teardown (.closing left m)))).Sound := by
  have fits := sound.fits _ _ here
  refine sound.revisit here ?_ ?_
  · intro found new
    cases new
    exact ⟨fun entry member => fits entry (List.mem_cons_of_mem _ member),rfl⟩
  · intro place publisher found held unclosed before owed
    cases before
    obtain ⟨owner,member⟩ := owed
    rcases List.mem_cons.mp member with first | later
    · cases first
      exact absurd (closed publisher held) unclosed
    · exact .inr ⟨_,rfl,owner,later⟩

theorem initial_sound : Sound ⟨{},fun _ => none,∅,∅⟩ := by
  refine ⟨empty_orderly,?_,?_,?_,?_,?_,?_,?_⟩ <;> simp [content]

theorem Sound.my_turn (sound : s.Sound)
    (here : s.visits call = some (.acquire key (.opening slot))) :
    s.pool.keyOf? slot = some key ∧ (∀ publisher, s.pool.content slot ≠ .holds publisher) ∧
      ∀ other found, s.visits other = some found → found.turn? = some slot → other = call := by
  have fits := sound.fits call _ here
  refine ⟨fits.1,fun publisher => by simp [fits.2],fun other found present turn => ?_⟩
  exact sound.turn other call found _ slot present here turn rfl

theorem Sound.current (sound : s.Sound) {created : Bool}
    (here : s.visits call = some (.acquire key (.checking slot publisher created)))
    (cached : s.pool.caches key slot = true) :
    publisher ∈ s.pool.publishers ∧ publisher ∉ s.closed := by
  obtain ⟨_,held⟩ := sound.fits _ _ here
  have member := (caches_iff sound.orderly).mp cached
  exact ⟨mem_publishers.mpr ⟨key,slot,member,held⟩,sound.unclosed key slot publisher member held⟩

theorem Sound.outlived (sound : s.Sound) {created : Bool}
    (here : s.visits call = some (.acquire key (.checking slot publisher created)))
    (absent : s.pool.caches key slot = false) : s.pool.Drained slot ∧
      s.pool.content slot = .holds publisher ∧ publisher ∉ s.pool.publishers := by
  obtain ⟨known,held⟩ := sound.fits _ _ here
  have drained : s.pool.Drained slot := by
    refine sound.orderly.drained_of_absent known fun member => ?_
    rw [(caches_iff sound.orderly).mpr member] at absent
    cases absent
  refine ⟨drained,held,fun member => ?_⟩
  obtain ⟨other,place,cached,holds⟩ := mem_publishers.mp member
  cases sound.apart _ _ _ held holds
  exact drained.2 other cached

theorem preserves_sound (sound : s.Sound) (step : Step s next) : next.Sound := by
  cases step with
  | ask away | clear away =>
      refine sound.revisit away ?_ (by simp)
      intro found new
      cases new
      exact ⟨trivial,rfl⟩
  | look here =>
      refine (sound.look _).revisit here ?_ ?_
      · intro found new
        cases new
        exact ⟨keyOf?_slotFor sound.orderly,rfl⟩
      · intro slot publisher found held unclosed before owed
        cases before
        exact owed.elim
  | join here held =>
      refine sound.revisit here ?_ ?_
      · intro found new
        cases new
        exact ⟨⟨sound.fits _ _ here,held⟩,rfl⟩
      · intro slot publisher found holds unclosed before owed
        cases before
        exact owed.elim
  | start here free =>
      have known := sound.fits _ _ here
      have made := keyOf?_lt known
      refine sound.refill here (fun _ => id) made (by simp [free]) ?_ (by simp) (by simp) ?_
        (by simp)
      · intro other found present turn
        have opening := (sound.fits other found present).opening turn
        rw [free] at opening
        cases opening
      · intro found new
        cases new
        refine ⟨⟨(keyOf?_fill _ _).trans known,by simp [content_fill made]⟩,?_⟩
        intro place turn
        cases turn
        rfl
  | fill here fresh =>
      obtain ⟨known,free,alone⟩ := sound.my_turn here
      have made := keyOf?_lt known
      refine sound.refill here (fun _ => id) made free alone (by simpa using fresh) ?_ ?_ ?_
      · intro other
        simp [on,Set.mem_insert_iff,or_comm,eq_comm]
      · intro found new
        cases new
        refine ⟨⟨(keyOf?_fill _ _).trans known,by simp [content_fill made]⟩,?_⟩
        intro place turn
        cases turn
      · intro other _
        exact ⟨_,rfl,rfl⟩
  | fail here =>
      obtain ⟨known,free,alone⟩ := sound.my_turn here
      exact sound.refill here (fun _ => id) (keyOf?_lt known) free alone (by simp) (by simp)
        (by simp) (by simp)
  | deliver here cached =>
      refine sound.revisit here (by simp) ?_
      intro slot publisher found held unclosed before owed
      cases before
      cases owed
      exact .inl ⟨_,(caches_iff sound.orderly).mp cached⟩
  | stale here absent =>
      obtain ⟨drained,held,_⟩ := sound.outlived here absent
      refine (sound.close held drained).revisit here (by simp) ?_
      intro place other found holds unclosed before owed
      cases before
      cases owed
      cases held.symm.trans holds
      exact absurd (.inl rfl) unclosed
  | drain here perm => exact sound.drain here perm
  | shut here held =>
      have holds := held?_eq_some_iff.mp held
      have drained := (sound.fits _ _ here _ List.mem_cons_self).2
      refine (sound.close holds drained).visited here ?_
      intro other held'
      cases holds.symm.trans held'
      exact .inl rfl
  | pass here empty =>
      refine sound.visited here ?_
      intro publisher held
      rw [held?_eq_some_iff.mpr held] at empty
      cases empty
  | leave here =>
      refine sound.revisit here (by simp) ?_
      intro slot publisher found held unclosed before owed
      cases before
      obtain ⟨owner,member⟩ := owed
      cases member

theorem Step.grows (sound : s.Sound) (step : Step s next) : Grows s.pool next.pool := by
  cases step with
  | look here => exact slotFor_grows
  | start here free =>
      exact fill_grows (keyOf?_lt (sound.fits _ _ here)) (by simp [free]) _
  | fill here fresh | fail here =>
      obtain ⟨known,free,_⟩ := sound.my_turn here
      exact fill_grows (keyOf?_lt known) free _
  | drain here => exact drain_grows
  | _ => exact .refl _

theorem Sound.settled (sound : s.Sound) (away : ∀ call, s.visits call = none) :
    publisher ∈ s.opened ∧ publisher ∉ s.closed ↔ publisher ∈ s.pool.publishers := by
  rw [sound.opened,mem_publishers]
  constructor
  · intro live
    obtain ⟨⟨slot,held⟩,unclosed⟩ := live
    rcases sound.obliged slot publisher held unclosed with ⟨key,cached⟩ | ⟨call,visit,here,_⟩
    · exact ⟨key,slot,cached,held⟩
    · rw [away call] at here; cases here
  · intro served
    obtain ⟨key,slot,cached,held⟩ := served
    exact ⟨⟨slot,held⟩,sound.unclosed key slot publisher cached held⟩

theorem Sound.publishers_nodup (sound : s.Sound) : s.pool.publishers.Nodup := by
  have slots := sound.orderly.slots_nodup.filterMap (f := s.pool.held?)
    fun one two publisher first second => sound.apart one two publisher
      (held?_eq_some_iff.mp first) (held?_eq_some_iff.mp second)
  rw [List.filterMap_map] at slots
  exact slots

end Scene
end RegistryRelay.Pool
