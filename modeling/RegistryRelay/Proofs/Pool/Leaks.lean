import RegistryRelay.Proofs.Pool.Crowd

namespace RegistryRelay.Pool

-- No publisher leaks: when no call is in flight, those that were opened and never closed are
-- the ones in the pool, and their number is the size of the pool.
theorem quiet_open_publishers {crowd : Crowd} (reached : Reached crowd)
    (quiet : ∀ call ∈ crowd.calls, call.inFlight = false) :
    (∀ publisher, publisher ∈ crowd.opened ∧ publisher ∉ crowd.closed ↔
      publisher ∈ crowd.pool.publishers) ∧
    crowd.opened.Nodup ∧
    crowd.pool.size = (crowd.opened.filter (· ∉ crowd.closed)).length := by
  have sound := reached_sound reached
  have away : ∀ call, crowd.scene.visits call = none := by
    intro call
    simp only [Crowd.scene,visitsOf]
    cases present : crowd.calls[call]? with
    | none => rfl
    | some found => exact found.visit?_eq_none (quiet found (List.mem_of_getElem? present))
  have exactly : ∀ publisher, publisher ∈ crowd.opened ∧ publisher ∉ crowd.closed ↔
      publisher ∈ crowd.pool.publishers := fun publisher => sound.settled away
  have nodup := reached_opened_nodup reached
  have perm : (crowd.opened.filter (· ∉ crowd.closed)).Perm crowd.pool.publishers := by
    refine (List.perm_ext_iff_of_nodup (nodup.filter _) sound.publishers_nodup).mpr ?_
    intro publisher
    refine Iff.trans ?_ (exactly publisher)
    simp [List.mem_filter]
  exact ⟨exactly,nodup,perm.length_eq.symm⟩

-- A teardown empties the pool while one caller opens a publisher and another waits for it. A third
-- caller gets a slot of its own. The first publisher is closed three times.
def overtaken : List Move :=
  let key : PublisherKey := ⟨"dst","reg","a"⟩
  [.acquire key,.advance 0 none,.advance 0 none,.acquire key,.advance 1 none,
    .clear,.advance 2 none,.acquire key,.advance 3 none,.advance 3 none,
    .advance 0 (some 7),.advance 2 none,.advance 2 none,.advance 1 none,
    .advance 0 none,.advance 1 none,.advance 3 (some 8),.advance 3 none]

theorem quiet_open_publishers_overtaken : ∃ crowd : Crowd, Crowd.run {} overtaken = some crowd ∧
    crowd.opened = [8,7] ∧ crowd.closed = [7,7,7] ∧
    (∀ publisher, publisher ∈ crowd.opened ∧ publisher ∉ crowd.closed ↔
      publisher ∈ crowd.pool.publishers) ∧ crowd.pool.size = 1 := by
  obtain ⟨crowd,ran⟩ : ∃ crowd, Crowd.run {} overtaken = some crowd := ⟨_,rfl⟩
  refine ⟨crowd,ran,?_⟩
  have reached := reached_run .initial ran
  cases ran
  exact ⟨rfl,rfl,(quiet_open_publishers reached (by decide)).1,rfl⟩

end RegistryRelay.Pool
