import Mathlib.Algebra.GroupWithZero.Nat
import Mathlib.Data.List.Basic
import RegistryRelay.Proofs.Relay.Onward

namespace RegistryRelay.Relay

-- The way of a single call from where it was made, step by step, whatever the other calls do
-- in between.
inductive Course (relay : Relay) (entry : Call) : List Record → Call → Prop where
  | start : Course relay entry [] entry
  | step (course : Course relay entry records call)
      (taken : Transition relay s reply call t after acts) :
      Course relay entry (records ++ [⟨index,reply,call,after,acts⟩]) after

namespace System

def trace (s : System) (index : Nat) : List Record := s.history.filter (·.call == index)

-- Every call was made at an entry and went its own way since; no record is left over.
structure Ledger (relay : Relay) (entries : List Call) (s : System) : Prop where
  length : s.calls.length = entries.length
  entry : ∀ call ∈ entries, call.isEntry = true
  course : ∀ (index : Nat) (entry now : Call), entries[index]? = some entry →
    s.calls[index]? = some now → Course relay entry (s.trace index) now
  covered : ∀ record ∈ s.history, record.call < s.calls.length

variable {relay : Relay} {s next : System} {entries : List Call} {index : Nat}
  {reply : Option Reply} {call after : Call} {state : State} {acts : List Act}

theorem initial_ledger : Ledger relay [] {} := ⟨rfl,by simp,by simp,by simp⟩

theorem trace_log (record : Record) (index : Nat) : (s.log state record).trace index =
    if record.call = index then s.trace index ++ [record] else s.trace index := by
  simp only [trace,log,List.filter_append]
  by_cases same : record.call = index <;> simp [same]

theorem Ledger.begin (ledger : Ledger relay entries s) (entry : call.isEntry = true) :
    Ledger relay (entries ++ [call]) { s with calls := s.calls ++ [call] } := by
  have unheard : s.trace s.calls.length = [] := by
    refine List.filter_eq_nil_iff.mpr fun record member => ?_
    simpa using Nat.ne_of_lt (ledger.covered record member)
  refine ⟨by simp [ledger.length],?_,?_,?_⟩
  · intro found member
    rcases List.mem_append.mp member with old | new
    · exact ledger.entry found old
    · cases List.mem_singleton.mp new
      exact entry
  · intro other first now begun present
    rcases call_made present with old | ⟨rfl,rfl⟩
    · have inside := (List.getElem?_eq_some_iff.mp old).1
      rw [List.getElem?_append_left (ledger.length ▸ inside)] at begun
      exact ledger.course other first now begun old
    · rw [ledger.length,List.getElem?_concat_length] at begun
      cases begun
      change Course relay first (s.trace s.calls.length) first
      rw [unheard]
      exact .start
  · intro record member
    exact Nat.lt_of_lt_of_le (ledger.covered record member) (by simp)

theorem Ledger.take (ledger : Ledger relay entries s) (here : s.calls[index]? = some call)
    (taken : Transition relay s.state reply call state after acts) :
    Ledger relay entries (s.log state ⟨index,reply,call,after,acts⟩) := by
  refine ⟨by simp [log,ledger.length],ledger.entry,?_,?_⟩
  · intro other first now begun present
    rw [trace_log]
    rcases call_taken present with ⟨rfl,rfl⟩ | ⟨away,old⟩
    · rw [if_pos rfl]
      exact .step (ledger.course _ _ _ begun here) taken
    · rw [if_neg (Ne.symm away)]
      exact ledger.course other first now begun old
  · intro record member
    have inside := (List.getElem?_eq_some_iff.mp here).1
    simp only [log,List.length_set]
    rcases List.mem_append.mp member with old | new
    · exact ledger.covered record old
    · cases List.mem_singleton.mp new
      exact inside

theorem Onward.ledger {records : List Record} (way : Onward relay {} entries records s) :
    Ledger relay entries s := by
  induction way with
  | stay => exact initial_ledger
  | begin way entry ih => exact ih.begin entry
  | take way here fresh taken ih => exact ih.take here taken

theorem history_perm {history : List Record} {calls : Nat}
    (covered : ∀ record ∈ history, record.call < calls) :
    history.Perm ((List.range calls).flatMap fun index => history.filter (·.call == index)) := by
  induction calls generalizing history with
  | zero =>
      cases history with
      | nil => exact .refl _
      | cons record rest => exact absurd (covered record List.mem_cons_self) (Nat.not_lt_zero _)
  | succ calls ih =>
      have earlier : ∀ record ∈ history.filter (·.call != calls), record.call < calls := by
        intro record member
        obtain ⟨member,other⟩ := List.mem_filter.mp member
        exact Nat.lt_of_le_of_ne (Nat.le_of_lt_succ (covered record member)) (by simpa using other)
      have same : ∀ index ∈ List.range calls, (history.filter (·.call != calls)).filter
          (·.call == index) = history.filter (·.call == index) := by
        intro index member
        rw [List.filter_filter]
        refine List.filter_congr fun record _ => ?_
        by_cases found : record.call = index
        · simp [found,Nat.ne_of_lt (List.mem_range.mp member)]
        · simp [found]
      have front := ih earlier
      rw [List.flatMap_congr same] at front
      rw [List.range_succ,List.flatMap_append,List.flatMap_singleton]
      have split := List.filter_append_perm (·.call != calls) history
      simp only [bne,Bool.not_not] at split front
      exact split.symm.trans (front.append_right _)

theorem countP_toNat {α : Type} (value : α → Bool) (list : List α) :
    list.countP value = (list.map fun one => (value one).toNat).sum := by
  induction list with
  | nil => rfl
  | cons one list ih =>
      rw [List.countP_cons,ih,List.map_cons,List.sum_cons,Nat.add_comm]
      cases value one <;> rfl

theorem Ledger.sum (ledger : Ledger relay entries s) (worth : Record → Nat) :
    (s.history.map worth).sum =
      ((List.range s.calls.length).map fun index => ((s.trace index).map worth).sum).sum := by
  rw [((history_perm ledger.covered).map worth).sum_nat,List.map_flatMap,List.flatMap_def,
    List.sum_flatten,List.map_map]
  rfl

theorem Ledger.recorded (ledger : Ledger relay entries s) {record : Record}
    (member : record ∈ s.history) : ∃ entry now, entries[record.call]? = some entry ∧
      entry.isEntry = true ∧ Course relay entry (s.trace record.call) now := by
  have inside := ledger.covered record member
  have present := List.getElem?_eq_getElem inside
  rw [ledger.length] at inside
  have begun := List.getElem?_eq_getElem inside
  exact ⟨_,_,begun,ledger.entry _ (List.getElem_mem inside),ledger.course _ _ _ begun present⟩

end System

theorem run_course {moves : List Move} {s : System} (ran : System.run relay {} moves = some s)
    (quiet : s.quiet) {index : Nat} {entry : Call} (begun : (made moves)[index]? = some entry) :
    entry.isEntry = true ∧ Course relay entry (s.trace index) .finished := by
  have ledger := (System.run_onward ran rfl).ledger
  have inside := (List.getElem?_eq_some_iff.mp begun).1
  rw [← ledger.length] at inside
  have present := List.getElem?_eq_getElem inside
  rw [quiet _ (List.getElem_mem inside)] at present
  exact ⟨ledger.entry entry (List.mem_of_getElem? begun),ledger.course index entry _ begun present⟩

end RegistryRelay.Relay
