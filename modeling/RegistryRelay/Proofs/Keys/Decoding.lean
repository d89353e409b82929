import RegistryRelay.Proofs.Keys.Encoding

namespace RegistryRelay.Base64

variable {key text s : List UInt8} {vs front back : List Nat} {byte : UInt8}
  {v offset start pads total : Nat}

theorem value?_symbol : ∀ v < 64, value? (symbol v) = some v := by decide

theorem symbol_ne_pad : ∀ v < 64, symbol v ≠ pad := by decide

theorem value?_eq_some_iff : value? byte = some v ↔ v < 64 ∧ byte = symbol v := by
  constructor
  · intro found
    have all : ∀ n < 256, ∀ v ∈ value? (UInt8.ofNat n), v < 64 ∧ UInt8.ofNat n = symbol v := by
      decide +kernel
    have here := all byte.toNat byte.toNat_lt
    rw [UInt8.ofNat_toNat] at here
    exact here v found
  · rintro ⟨small,rfl⟩
    exact value?_symbol v small

theorem values_ok_iff : values offset s = .ok vs ↔ s = vs.map symbol ∧ ∀ v ∈ vs, v < 64 := by
  constructor
  · intro read
    fun_induction values offset s generalizing vs with
    | case1 => cases read; exact ⟨rfl,nofun⟩
    | case2 => cases read
    | case3 => cases read
    | case4 offset byte rest v found more others ih =>
        cases read
        obtain ⟨small,rfl⟩ := value?_eq_some_iff.mp found
        obtain ⟨same,within⟩ := ih others
        exact ⟨by rw [same]; rfl,List.forall_mem_cons.mpr ⟨small,within⟩⟩
  · rintro ⟨rfl,small⟩
    induction vs generalizing offset with
    | nil => rfl
    | cons v vs ih =>
        rw [List.forall_mem_cons] at small
        simp only [List.map_cons,values,value?_symbol v small.1,ih small.2]

-- The end of a text is read when it is a run of symbols and then padding, which does not come too
-- early. Once there is padding, no symbol may follow.
theorem ending_sound (read : ending start offset pads s = .ok (vs,total)) : ∃ more,
    s = vs.map symbol ++ List.replicate more pad ∧ total = pads + more ∧ (∀ v ∈ vs, v < 64) ∧
      (more = 0 ∨ start + 2 ≤ offset + vs.length) ∧ (0 < pads → vs = []) := by
  fun_induction ending start offset pads s generalizing vs total with
  | case1 => cases read; exact ⟨0,rfl,rfl,nofun,.inl rfl,fun _ => rfl⟩
  | case2 => cases read
  | case3 offset pads rest early ih =>
      obtain ⟨more,same,counted,small,_,only⟩ := ih read
      cases only (Nat.succ_pos pads)
      refine ⟨more + 1,?_,by omega,small,.inr ?_,fun _ => rfl⟩
      · rw [same]
        rfl
      · rw [List.length_nil]
        omega
  | case4 => cases read
  | case5 => cases read
  | case6 => cases read
  | case7 offset pads byte rest isPad unpadded v found more padding others ih =>
      cases read
      obtain ⟨here,rfl⟩ := value?_eq_some_iff.mp found
      obtain ⟨more,same,counted,small,early,_⟩ := ih others
      refine ⟨more,?_,by omega,List.forall_mem_cons.mpr ⟨here,small⟩,?_,fun padded =>
        absurd padded unpadded⟩
      · rw [same]
        rfl
      · rw [List.length_cons]
        omega

theorem ending_pads (more : Nat) (early : more = 0 ∨ start + 2 ≤ offset) :
    ending start offset pads (List.replicate more pad) = .ok ([],pads + more) := by
  induction more generalizing offset pads with
  | zero => rfl
  | succ more ih =>
      rw [List.replicate_succ,ending,if_pos rfl,if_neg (by omega),ih (by omega)]
      congr 2
      omega

theorem ending_complete (small : ∀ v ∈ vs, v < 64)
    (early : pads = 0 ∨ start + 2 ≤ offset + vs.length) :
    ending start offset 0 (vs.map symbol ++ List.replicate pads pad) = .ok (vs,pads) := by
  induction vs generalizing offset with
  | nil => exact (ending_pads pads early).trans (by rw [Nat.zero_add])
  | cons v vs ih =>
      rw [List.forall_mem_cons] at small
      rw [List.length_cons] at early
      have rest : ending start (offset + 1) 0 (vs.map symbol ++ List.replicate pads pad) =
          .ok (vs,pads) := ih small.2 (by omega)
      simp only [List.map_cons,List.cons_append,ending,symbol_ne_pad v small.1,value?_symbol v small.1,
        rest,↓reduceIte,Nat.lt_irrefl]

theorem endStart_facts (n : Nat) : endStart n ≤ n ∧ endStart n % 4 = 0 ∧ n ≤ endStart n + 4 := by
  unfold endStart
  split <;> omega

theorem bytes_append (groups : front.length % 4 = 0) (back : List Nat) :
    bytes (front ++ back) = bytes front ++ bytes back := by
  induction front using Whole.induct with
  | case1 a b c d rest ih =>
      simp only [List.length_cons] at groups
      simp only [List.cons_append,bytes,ih (by omega)]
  | case2 | case3 | case4 => simp at groups
  | case5 => rfl

theorem whole_append (groups : front.length % 4 = 0) (back : List Nat) :
    Whole (front ++ back) ↔ Whole back := by
  induction front using Whole.induct with
  | case1 a b c d rest ih =>
      simp only [List.length_cons] at groups
      exact ih (by omega)
  | case2 | case3 | case4 => simp at groups
  | case5 => rfl

theorem whole_last (some : 2 ≤ back.length) (few : back.length ≤ 4) :
    Whole back ↔ spare back = 0 := by
  match back with
  | [_,_] | [_,_,_] => rfl
  | [_,_,_,_] => exact ⟨fun _ => rfl,fun _ => trivial⟩
  | [] | [_] => simp at some
  | _ :: _ :: _ :: _ :: _ :: _ =>
      simp only [List.length_cons] at few
      omega

theorem decode_complete (small : ∀ v ∈ front ++ back, v < 64) (groups : front.length % 4 = 0)
    (some : 2 ≤ back.length) (last : back.length + pads = 4) (whole : Whole back) :
    decode ((front ++ back).map symbol ++ List.replicate pads pad) = .ok (bytes (front ++ back)) := by
  obtain ⟨ahead,behind⟩ := List.forall_mem_append.mp small
  have length : ((front ++ back).map symbol ++ List.replicate pads pad).length = front.length + 4 := by
    simp only [List.length_append,List.length_map,List.length_replicate]
    omega
  have start : endStart (front.length + 4) = front.length := by
    unfold endStart
    split <;> omega
  have split : (front ++ back).map symbol ++ List.replicate pads pad =
      front.map symbol ++ (back.map symbol ++ List.replicate pads pad) := by
    rw [List.map_append,List.append_assoc]
  have filled : (front ++ back).map symbol ++ List.replicate pads pad ≠ [] :=
    List.ne_nil_of_length_pos (by omega)
  simp only [decode,List.getLast?_eq_some_getLast filled,length,start]
  rw [if_neg (by omega),split,List.take_left' (List.length_map _),List.drop_left' (List.length_map _),
    values_ok_iff.mpr ⟨rfl,ahead⟩]
  simp only [ending_complete behind (.inr (Nat.add_le_add_left some _))]
  rw [if_neg (by omega),if_neg (by omega),if_neg (fun spares => spares ((whole_last some (by omega)).mp whole)),
    bytes_append groups]

theorem decode_sound (decoded : decode text = .ok key) : text = encode key := by
  unfold decode at decoded
  dsimp only at decoded
  split at decoded
  · rename_i empty
    cases decoded
    exact List.getLast?_eq_none_iff.mp empty
  split at decoded
  · cases decoded
  split at decoded
  · cases decoded
  rename_i front ahead
  split at decoded
  · cases decoded
  rename_i back pads behind
  split at decoded
  · cases decoded
  split at decoded
  · cases decoded
  split at decoded
  · cases decoded
  rename_i _ _ some padded zero
  cases decoded
  obtain ⟨first,small⟩ := values_ok_iff.mp ahead
  obtain ⟨more,rest,counted,small',_,_⟩ := ending_sound behind
  have whole : text = (front ++ back).map symbol ++ List.replicate more pad := by
    rw [List.map_append,List.append_assoc,← first,← rest,List.take_append_drop]
  obtain ⟨within,even,few⟩ := endStart_facts text.length
  have start := congrArg List.length first
  rw [List.length_take,List.length_map,Nat.min_eq_left within] at start
  have length := congrArg List.length whole
  simp only [List.length_append,List.length_map,List.length_replicate] at length
  have groups : front.length % 4 = 0 := start ▸ even
  have last : back.length + more = 4 := by omega
  have ends : Whole back :=
    (whole_last (by omega) (by omega)).mpr (Classical.byContradiction fun spares => zero spares)
  have values : sextets (bytes (front ++ back)) = front ++ back :=
    sextets_bytes (List.forall_mem_append.mpr ⟨small,small'⟩) ((whole_append groups back).mpr ends)
  have lacking : missing (front ++ back).length = more := by
    rw [List.length_append]
    unfold missing
    omega
  rw [← bytes_append groups,encode_sextets,values,lacking]
  exact whole

theorem decode_encode (key : List UInt8) : decode (encode key) = .ok key := by
  have whole := sextets_whole key
  have inside := whole.length
  rw [encode_sextets]
  cases none : (sextets key).length with
  | zero =>
      have empty := List.length_eq_zero_iff.mp none
      have same := bytes_sextets key
      rw [empty] at same ⊢
      cases same
      rfl
  | succ n =>
      let cut := (sextets key).length + missing (sextets key).length - 4
      have place : cut + 4 = (sextets key).length + missing (sextets key).length ∧ cut % 4 = 0 ∧
          missing (sextets key).length ≤ 2 := by
        simp only [cut,missing]
        omega
      obtain ⟨last,even,short⟩ := place
      have front : ((sextets key).take cut).length = cut := List.length_take_of_le (by omega)
      have back : ((sextets key).drop cut).length = (sextets key).length - cut := List.length_drop
      have parts := List.take_append_drop cut (sextets key)
      rw [← none]
      have small : ∀ v ∈ (sextets key).take cut ++ (sextets key).drop cut, v < 64 := by
        rw [parts]
        exact sextets_small key
      have groups : ((sextets key).take cut).length % 4 = 0 := by rw [front,even]
      have ends : Whole ((sextets key).drop cut) :=
        (whole_append groups _).mp (by rw [parts]; exact whole)
      have filled : ((sextets key).drop cut).length + missing (sextets key).length = 4 := by omega
      have decoded := decode_complete small groups (by omega) filled ends
      rwa [parts,bytes_sextets] at decoded

theorem decode_eq_ok_iff : decode text = .ok key ↔ text = encode key :=
  ⟨decode_sound,fun same => same ▸ decode_encode key⟩

end RegistryRelay.Base64
