import RegistryRelay.Proofs.Keys.Material

namespace RegistryRelay.Base64

-- The bits of the last symbol that no byte uses: four where its group has two symbols, two where it
-- has three.
def unused (offset v : Nat) : Nat :=
  if offset % 4 = 1 then v % 16 else if offset % 4 = 2 then v % 4 else 0

def Error.Fits (text : List UInt8) : Error → Prop
  | .symbol offset byte => text[offset]? = some byte ∧ byte ∉ alphabet
  | .lastSymbol offset byte => text[offset]? = some byte ∧
      (∀ earlier ∈ text.take offset, earlier ∈ alphabet) ∧
      (∀ later ∈ text.drop (offset + 1), later = pad) ∧
      ∃ v < 64, alphabet[v]? = some byte ∧ unused offset v ≠ 0
  | .length bytes => bytes = text.length ∧ text.length % 4 = 1 ∧ ∀ byte ∈ text, byte ∈ alphabet
  | .padding => text.length % 4 ≠ 0 ∧ ∃ front pads, text = front ++ List.replicate pads pad ∧
      pads ≤ 2 ∧ ∀ byte ∈ front, byte ∈ alphabet

variable {text s : List UInt8} {vs front back : List Nat} {byte : UInt8} {error : Error}
  {v offset start pads : Nat}

theorem alphabet_symbol : ∀ v < 64, alphabet[v]? = some (symbol v) := by decide

theorem symbol_mem_alphabet (small : v < 64) : symbol v ∈ alphabet :=
  List.mem_of_getElem? (alphabet_symbol v small)

theorem alphabet_length : alphabet.length = 64 := rfl

theorem value?_eq_none (none : value? byte = none) : byte ∉ alphabet := by
  intro member
  obtain ⟨v,found⟩ := List.mem_iff_getElem?.mp member
  have small : v < 64 := alphabet_length ▸ (List.getElem?_eq_some_iff.mp found).1
  cases found.symm.trans (alphabet_symbol v small)
  cases none.symm.trans (value?_symbol v small)

theorem symbols_mem_alphabet (small : ∀ v ∈ vs, v < 64) : ∀ byte ∈ vs.map symbol, byte ∈ alphabet :=
  List.forall_mem_map.mpr fun v member => symbol_mem_alphabet (small v member)

theorem values_blames (failed : values offset s = .error error) :
    ∃ place byte, error = .symbol (offset + place) byte ∧ s[place]? = some byte ∧
      value? byte = none := by
  fun_induction values offset s with
  | case1 => cases failed
  | case2 offset byte rest unknown =>
      cases failed
      exact ⟨0,byte,rfl,rfl,unknown⟩
  | case3 offset byte rest v found fault others ih =>
      cases failed
      obtain ⟨place,byte,rfl,here,unknown⟩ := ih others
      exact ⟨place + 1,byte,by rw [Nat.add_assoc,Nat.add_comm 1],here,unknown⟩
  | case4 => cases failed

theorem ending_blames (failed : ending start offset pads s = .error error) :
    ∃ spot byte, error = .symbol spot byte ∧ value? byte = none ∧
      ((∃ place, spot = offset + place ∧ s[place]? = some byte) ∨
        0 < pads ∧ spot = offset - pads ∧ byte = pad) := by
  fun_induction ending start offset pads s with
  | case1 => cases failed
  | case2 offset pads rest early =>
      cases failed
      exact ⟨offset,pad,rfl,rfl,.inl ⟨0,rfl,rfl⟩⟩
  | case3 offset pads rest early ih =>
      obtain ⟨spot,byte,rfl,unknown,blamed⟩ := ih failed
      refine ⟨spot,byte,rfl,unknown,?_⟩
      rcases blamed with ⟨place,rfl,here⟩ | ⟨_,rfl,rfl⟩
      · exact .inl ⟨place + 1,by omega,here⟩
      · cases pads with
        | zero => exact .inl ⟨0,rfl,rfl⟩
        | succ pads => exact .inr ⟨Nat.succ_pos pads,by omega,rfl⟩
  | case4 offset pads byte rest symbol padded =>
      cases failed
      exact ⟨_,pad,rfl,rfl,.inr ⟨padded,rfl,rfl⟩⟩
  | case5 offset pads byte rest symbol unpadded unknown =>
      cases failed
      exact ⟨offset,byte,rfl,unknown,.inl ⟨0,rfl,rfl⟩⟩
  | case6 offset pads byte rest symbol unpadded v found fault others ih =>
      cases failed
      obtain ⟨spot,byte,rfl,unknown,blamed⟩ := ih others
      rcases blamed with ⟨place,rfl,here⟩ | ⟨padded,_⟩
      · exact ⟨_,byte,rfl,unknown,.inl ⟨place + 1,by omega,here⟩⟩
      · exact absurd padded (Nat.lt_irrefl 0)
  | case7 => cases failed

theorem length_fits (small : ∀ v ∈ front ++ back, v < 64) (groups : front.length % 4 = 0)
    (one : back.length = 1) :
    (Error.length (front.length + back.length)).Fits ((front ++ back).map symbol) := by
  have length : ((front ++ back).map symbol).length = front.length + back.length := by
    rw [List.length_map,List.length_append]
  refine ⟨length.symm,?_,symbols_mem_alphabet small⟩
  rw [length]
  omega

theorem padding_fits (small : ∀ v ∈ vs, v < 64) (few : pads ≤ 2)
    (uneven : (vs.length + pads) % 4 ≠ 0) :
    Error.padding.Fits (vs.map symbol ++ List.replicate pads pad) := by
  refine ⟨?_,_,pads,rfl,few,symbols_mem_alphabet small⟩
  rwa [List.length_append,List.length_map,List.length_replicate]

theorem lastSymbol_fits (small : ∀ n ∈ vs ++ [v], n < 64) (spares : unused vs.length v ≠ 0)
    (pads : Nat) : (Error.lastSymbol vs.length (symbol v)).Fits
      ((vs ++ [v]).map symbol ++ List.replicate pads pad) := by
  obtain ⟨before,last⟩ := List.forall_mem_append.mp small
  have here : v < 64 := last v (List.mem_singleton_self v)
  have length : (vs.map symbol).length = vs.length := List.length_map _
  have cut : (vs ++ [v]).map symbol ++ List.replicate pads pad =
      vs.map symbol ++ symbol v :: List.replicate pads pad := by
    rw [List.map_append,List.append_assoc]
    rfl
  rw [cut]
  refine ⟨?_,?_,?_,v,here,alphabet_symbol v here,spares⟩
  · rw [List.getElem?_append_right (Nat.le_of_eq length),length,Nat.sub_self]
    rfl
  · rw [List.take_left' length]
    exact symbols_mem_alphabet before
  · have front : (vs.map symbol ++ [symbol v]).length = vs.length + 1 := by
      rw [List.length_append,length,List.length_singleton]
    rw [List.append_cons,List.drop_left' front]
    exact fun later member => List.eq_of_mem_replicate member

theorem spare_last (groups : front.length % 4 = 0) (spares : spare back ≠ 0) :
    ∃ init v, back = init ++ [v] ∧ unused (front ++ init).length v ≠ 0 := by
  match back with
  | [a,b] =>
      refine ⟨[a],b,rfl,?_⟩
      have place : (front ++ [a]).length % 4 = 1 := by
        rw [List.length_append,List.length_singleton]
        omega
      rwa [unused,if_pos place]
  | [a,b,c] =>
      refine ⟨[a,b],c,rfl,?_⟩
      have place : (front ++ [a,b]).length % 4 = 2 := by
        rw [List.length_append,List.length_cons,List.length_singleton]
        omega
      rwa [unused,if_neg (by omega),if_pos place]
  | [] | [_] | _ :: _ :: _ :: _ :: _ => exact absurd rfl spares

theorem read_whole (ahead : values 0 (text.take (endStart text.length)) = .ok front)
    (behind : ending (endStart text.length) (endStart text.length) 0
      (text.drop (endStart text.length)) = .ok (back,pads)) :
    text = (front ++ back).map symbol ++ List.replicate pads pad ∧ (∀ v ∈ front ++ back, v < 64) ∧
      front.length = endStart text.length ∧ (pads = 0 ∨ 2 ≤ back.length) := by
  obtain ⟨first,small⟩ := values_ok_iff.mp ahead
  obtain ⟨more,rest,counted,small',early,_⟩ := ending_sound behind
  obtain ⟨within,_⟩ := endStart_facts text.length
  have start := congrArg List.length first
  rw [List.length_take,List.length_map,Nat.min_eq_left within] at start
  rw [Nat.zero_add] at counted
  subst counted
  refine ⟨?_,List.forall_mem_append.mpr ⟨small,small'⟩,start.symm,by omega⟩
  rw [List.map_append,List.append_assoc,← first,← rest,List.take_append_drop]

theorem decode_fits (failed : decode text = .error error) : error.Fits text := by
  unfold decode at failed
  dsimp only at failed
  split at failed
  · cases failed
  rename_i last final
  split at failed
  · rename_i cutOff
    cases failed
    rw [List.getLast?_eq_getElem?] at final
    exact ⟨final,value?_eq_none cutOff.2.2⟩
  split at failed
  · rename_i fault ahead
    cases failed
    obtain ⟨place,byte,rfl,here,unknown⟩ := values_blames ahead
    rw [List.getElem?_take] at here
    rw [Nat.zero_add]
    split at here
    · exact ⟨here,value?_eq_none unknown⟩
    · cases here
  rename_i front ahead
  split at failed
  · rename_i fault behind
    cases failed
    obtain ⟨spot,byte,rfl,unknown,blamed⟩ := ending_blames behind
    rcases blamed with ⟨place,rfl,here⟩ | ⟨padded,_⟩
    · rw [List.getElem?_drop] at here
      exact ⟨here,value?_eq_none unknown⟩
    · exact absurd padded (Nat.lt_irrefl 0)
  -- From here on the text is known to be one of symbols and padding, and is measured.
  rename_i back pads behind
  obtain ⟨whole,small,start,early⟩ := read_whole ahead behind
  obtain ⟨_,even,few⟩ := endStart_facts text.length
  have groups : front.length % 4 = 0 := start ▸ even
  have length := congrArg List.length whole
  simp only [List.length_append,List.length_map,List.length_replicate] at length
  have longer : 0 < text.length := List.length_pos_of_mem (List.mem_of_getLast? final)
  split at failed
  · rename_i lone
    cases failed
    obtain rfl : pads = 0 := by omega
    have one : back.length = 1 := by
      unfold endStart at start
      split at start <;> omega
    rw [List.replicate_zero,List.append_nil] at whole
    rw [← start,whole]
    exact length_fits small groups one
  split at failed
  · rename_i uneven
    cases failed
    rw [whole]
    refine padding_fits small (by omega) ?_
    rw [List.length_append]
    omega
  split at failed
  · rename_i spares
    cases failed
    obtain ⟨init,v,rfl,unused⟩ := spare_last groups spares
    have place : endStart text.length + (init ++ [v]).length - 1 = (front ++ init).length := by
      rw [← start,List.length_append,List.length_append,List.length_singleton]
      omega
    rw [← List.append_assoc] at whole small
    have fits := lastSymbol_fits small unused pads
    rw [← whole] at fits
    rw [place,List.getD_eq_getElem?_getD,fits.1]
    exact fits
  · cases failed

end RegistryRelay.Base64

namespace RegistryRelay.Device

theorem key_faults_located (device : Device) (error : Base64.Error)
    (failed : device.keyMaterial = .error (.keyDecode error)) :
    ∃ text, device.metadata.get? bytesKey = some text ∧ error.Fits text.toUTF8.data.toList := by
  cases named : device.metadata.get? algorithmKey with
  | none => cases (keyMaterial_unnamed named).symm.trans failed
  | some algorithm =>
      cases present : device.metadata.get? bytesKey with
      | none => cases (keyMaterial_keyless named present).symm.trans failed
      | some text =>
          cases decoded : Base64.decode text.toUTF8.data.toList with
          | ok bytes => cases (keyMaterial_found named present decoded).symm.trans failed
          | error refused =>
              cases (keyMaterial_refused named present decoded).symm.trans failed
              exact ⟨text,rfl,Base64.decode_fits decoded⟩

theorem key_faults_located_spare :
    let device : Device :=
      ⟨"device",Dict.ofPairs [(algorithmKey,"RS256"),(bytesKey,"AQIDAR==")]⟩
    device.keyMaterial = .error (.keyDecode (.lastSymbol 5 82)) ∧
      ∃ text, device.metadata.get? bytesKey = some text ∧
        (Base64.Error.lastSymbol 5 82).Fits text.toUTF8.data.toList := by
  intro device
  have failed : device.keyMaterial = .error (.keyDecode (.lastSymbol 5 82)) := by decide
  exact ⟨failed,key_faults_located device _ failed⟩

end RegistryRelay.Device
