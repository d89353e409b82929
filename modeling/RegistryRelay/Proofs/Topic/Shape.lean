import RegistryRelay.Topic

namespace RegistryRelay.Topic

def Configures (device topic : String) : Prop :=
  device ≠ "" ∧ '/' ∉ device.toList ∧ topic = "/devices/" ++ device ++ "/config"

-- A topic that is looked at, whether it names a device or not.
def EndsInConfig (topic : String) : Prop := ∃ front, topic = front ++ configFolder

variable {s : List Char} {parts : List (List Char)} {topic device : String}

theorem segments_ne_nil (s : List Char) : segments s ≠ [] := by
  unfold segments
  split
  · simp
  · split
    · simp
    · split <;> simp

theorem segments_cons (c : Char) (s : List Char) : segments (c :: s) =
    if c = '/' then [] :: segments s else (segments s).modifyHead (c :: ·) := by
  rw [segments]
  cases found : segments s with
  | nil => exact absurd found (segments_ne_nil s)
  | cons part parts => rfl

theorem segments_eq_splitOn (s : List Char) : segments s = s.splitOn '/' := by
  induction s with
  | nil => rfl
  | cons c s ih =>
      rw [segments_cons,ih]
      simp only [List.splitOn_eq_splitOnP,List.splitOnP_cons_eq_if_modifyHead,beq_iff_eq]

theorem segments_bare : ∀ part ∈ segments s, '/' ∉ part := by
  induction s with
  | nil => simp [segments]
  | cons c s ih =>
      rw [segments_cons]
      split
      · simpa using ih
      · rename_i other
        obtain ⟨part,parts,found⟩ := List.exists_cons_of_ne_nil (segments_ne_nil s)
        rw [found] at ih ⊢
        obtain ⟨first,others⟩ := List.forall_mem_cons.mp ih
        exact List.forall_mem_cons.mpr ⟨by simp [Ne.symm other,first],others⟩

theorem segments_eq_iff (filled : parts ≠ []) : segments s = parts ↔
    (∀ part ∈ parts, '/' ∉ part) ∧ ['/'].intercalate parts = s := by
  constructor
  · rintro rfl
    exact ⟨segments_bare,by rw [segments_eq_splitOn,List.intercalate_splitOn]⟩
  · rintro ⟨bare,rfl⟩
    rw [segments_eq_splitOn,List.splitOn_intercalate '/' bare filled]

theorem configures_iff : Configures device topic ↔ device.toList ≠ [] ∧ segments topic.toList =
    [[],"devices".toList,device.toList,configFolder.toList] := by
  have spelled : topic = "/devices/" ++ device ++ "/config" ↔
      ['/'].intercalate [[],"devices".toList,device.toList,configFolder.toList] = topic.toList := by
    rw [← String.toList_inj,String.toList_append,String.toList_append,eq_comm]
    simp [List.intercalate,configFolder]
  have bare : (∀ part ∈ [[],"devices".toList,device.toList,configFolder.toList], '/' ∉ part) ↔
      '/' ∉ device.toList := by
    simp [configFolder]
  rw [segments_eq_iff (by simp),bare,← spelled,Configures,ne_eq,ne_eq,String.toList_eq_nil_iff]

theorem configDevice?_eq_some_iff : configDevice? topic = some device ↔ Configures device topic := by
  rw [configures_iff,configDevice?]
  constructor
  · intro found
    split at found
    · rename_i root devices part config parts
      split at found
      · rename_i named
        obtain ⟨rfl,rfl,rfl,filled⟩ := named
        cases found
        rw [String.toList_ofList]
        exact ⟨filled,parts⟩
      · cases found
    · cases found
  · intro named
    obtain ⟨filled,parts⟩ := named
    rw [parts]
    simp only [filled,ne_eq,not_false_eq_true,and_self,↓reduceIte,String.ofList_toList]

theorem isConfig_iff : isConfig topic = true ↔ EndsInConfig topic := by
  rw [isConfig,List.isSuffixOf_iff_suffix]
  constructor
  · rintro ⟨front,same⟩
    exact ⟨String.ofList front,by rw [← String.toList_inj,String.toList_append,String.toList_ofList,same]⟩
  · rintro ⟨front,rfl⟩
    exact ⟨front.toList,String.toList_append.symm⟩

theorem Configures.ends (configures : Configures device topic) : EndsInConfig topic := by
  obtain ⟨_,_,rfl⟩ := configures
  have joined : "/" ++ configFolder = "/config" := by decide
  exact ⟨"/devices/" ++ device ++ "/",by rw [← joined,← String.append_assoc]⟩

theorem isConfig_eq_false_iff : isConfig topic = false ↔ ¬EndsInConfig topic := by
  rw [← isConfig_iff,Bool.not_eq_true]

theorem configDevice?_eq_none_iff : configDevice? topic = none ↔
    ∀ device, ¬Configures device topic := by
  simp only [Option.eq_none_iff_forall_ne_some,ne_eq,configDevice?_eq_some_iff]

theorem Configures.unique {other : String} (one : Configures device topic)
    (two : Configures other topic) : device = other := by
  rw [← configDevice?_eq_some_iff] at one two
  exact Option.some.inj (one.symm.trans two)

end RegistryRelay.Topic
