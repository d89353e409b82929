import RegistryRelay.Proofs.Relay.Advance

namespace RegistryRelay.Relay

def made (moves : List Move) : List Call :=
  moves.filterMap fun move =>
    match move with
    | .begin call => some call
    | .advance _ _ => none

theorem made_cons (move : Move) (rest : List Move) :
    made (move :: rest) = made [move] ++ made rest := by
  rw [made,made,made,← List.filterMap_append]
  rfl

theorem forall_recorded {P : Record → Prop} {records : List Record} {record : Record} :
    (∀ one ∈ records ++ [record], P one) ↔ (∀ one ∈ records, P one) ∧ P record := by
  rw [List.forall_mem_append,List.forall_mem_singleton]

namespace System

-- How a relay goes on from a system: the calls that are made, the steps that are taken, and
-- where it comes to. Longer ways are shorter ones and one move more.
inductive Onward (relay : Relay) (s : System) : List Call → List Record → System → Prop where
  | stay : Onward relay s [] [] s
  | begin (way : Onward relay s entries records t) (entry : call.isEntry = true) :
      Onward relay s (entries ++ [call]) records { t with calls := t.calls ++ [call] }
  | take {state : State} {acts : List Act} (way : Onward relay s entries records t)
      (here : t.calls[index]? = some call) (fresh : t.fresh reply = true)
      (taken : Transition relay t.state reply call state after acts) :
      Onward relay s entries (records ++ [⟨index,reply,call,after,acts⟩])
        (t.log state ⟨index,reply,call,after,acts⟩)

variable {relay : Relay} {s t next : System} {entries : List Call} {records : List Record}
  {moves : List Move}

theorem Onward.advance {move : Move} (way : Onward relay s entries records t)
    (advanced : t.advance relay move = some next) :
    ∃ more, Onward relay s (entries ++ made [move]) (records ++ more) next := by
  cases advance_sound advanced with
  | begin entry => exact ⟨[],by rw [List.append_nil]; exact way.begin entry⟩
  | take here fresh taken =>
      have further := way.take here fresh taken
      rw [← List.append_nil entries] at further
      exact ⟨_,further⟩

theorem Onward.run (way : Onward relay s entries records t)
    (ran : t.run relay moves = some next) :
    ∃ more, Onward relay s (entries ++ made moves) (records ++ more) next := by
  induction moves generalizing t entries records with
  | nil =>
      cases ran
      exact ⟨[],by simpa [made] using way⟩
  | cons move rest ih =>
      obtain ⟨middle,first,others⟩ := Option.bind_eq_some_iff.mp ran
      obtain ⟨one,way⟩ := way.advance first
      obtain ⟨more,way⟩ := ih way others
      exact ⟨one ++ more,by rw [made_cons,← List.append_assoc,← List.append_assoc]; exact way⟩

theorem Onward.history (way : Onward relay s entries records t) :
    t.history = s.history ++ records := by
  induction way with
  | stay => simp
  | begin way entry ih => exact ih
  | take way here fresh taken ih => rw [log,ih,List.append_assoc]

theorem Onward.entry (way : Onward relay s entries records t) :
    ∀ call ∈ entries, call.isEntry = true := by
  induction way with
  | stay => simp
  | begin way entry ih => exact List.forall_mem_append.mpr ⟨ih,by simpa using entry⟩
  | take way here fresh taken ih => exact ih

theorem Onward.recorded (way : Onward relay s entries records t) :
    ∀ record ∈ records, ∃ before next,
      Transition relay before record.reply record.before next record.after record.acts := by
  induction way with
  | stay => simp
  | begin way entry ih => exact ih
  | take way here fresh taken ih =>
      exact forall_recorded.mpr ⟨ih,_,_,taken⟩

theorem run_onward (ran : s.run relay moves = some next)
    (added : next.history = s.history ++ records) :
    Onward relay s (made moves) records next := by
  obtain ⟨more,way⟩ := Onward.run .stay ran
  rw [List.nil_append,List.nil_append] at way
  have same : records = more := List.append_cancel_left (added.symm.trans way.history)
  rw [same]
  exact way

theorem reached_onward (reached : Reached relay s) :
    ∃ entries, Onward relay {} entries s.history s := by
  induction reached with
  | initial => exact ⟨[],.stay⟩
  | step reached advanced ih =>
      obtain ⟨entries,way⟩ := ih
      cases advance_sound advanced with
      | begin entry => exact ⟨_,way.begin entry⟩
      | take here fresh taken => exact ⟨_,way.take here fresh taken⟩

theorem Onward.reached (reached : Reached relay s) (way : Onward relay s entries records t) :
    Reached relay t := by
  induction way with
  | stay => exact reached
  | begin way entry ih => exact .step ih (advance_complete (.begin entry))
  | take way here fresh taken ih => exact .step ih (advance_complete (.take here fresh taken))

theorem countP_taken (value : Call → Bool) {calls : List Call} {call : Call} {index : Nat}
    (here : calls[index]? = some call) (after : Call) :
    (calls.set index after).countP value + (value call).toNat =
      calls.countP value + (value after).toNat := by
  induction calls generalizing index with
  | nil => cases here
  | cons first rest ih =>
      cases index with
      | zero =>
          cases here
          simp only [List.set_cons_zero,List.countP_cons]
          cases value call <;> cases value after <;> simp
      | succ index =>
          have tail := ih (by simpa using here)
          simp only [List.set_cons_succ,List.countP_cons]
          omega

-- Where every step is even, what the calls hold and what the steps give up adds up to what
-- the calls held, what new calls brought, and what the steps took in.
theorem Onward.balance {value : Call → Bool} {gain cost : Act → Bool} {Fair : Record → Prop}
    (even : ∀ {index : Nat} {reply : Option Reply} {call after : Call} {acts : List Act}
      {before next : State}, Transition relay before reply call next after acts →
      Fair ⟨index,reply,call,after,acts⟩ →
      (value call).toNat + acts.countP gain = (value after).toNat + acts.countP cost)
    (way : Onward relay s entries records t) (fair : ∀ record ∈ records, Fair record) :
    s.calls.countP value + entries.countP value + (records.flatMap Record.acts).countP gain =
      t.calls.countP value + (records.flatMap Record.acts).countP cost := by
  induction way with
  | stay => simp
  | begin way entry ih =>
      have before := ih fair
      simp only [List.countP_append] at before ⊢
      omega
  | take way here fresh taken ih =>
      rename_i index call reply after state acts
      obtain ⟨earlier,last⟩ := forall_recorded.mp fair
      have before := ih earlier
      have step := even taken last
      have moved := countP_taken value here after
      simp only [log,List.flatMap_append,List.flatMap_singleton,List.countP_append]
      omega

end System
end RegistryRelay.Relay
