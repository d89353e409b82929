namespace RegistryRelay

-- A finite map from names to values: one entry a name, the newest in front.
-- Readers see only `get?`; the order of the entries is never shown.
structure Dict (α : Type) where
  entries : List (String × α) := []
deriving DecidableEq, Repr

namespace Dict
variable {α β : Type}

def get? (d : Dict α) (name : String) : Option α := d.entries.lookup name

def contains (d : Dict α) (name : String) : Bool := (d.get? name).isSome

def put (d : Dict α) (name : String) (value : α) : Dict α :=
  ⟨(name,value) :: d.entries.filter (fun entry => !(entry.1 == name))⟩

def erase (d : Dict α) (name : String) : Dict α :=
  ⟨d.entries.filter (fun entry => !(entry.1 == name))⟩

def set (d : Dict α) (name : String) : Option α → Dict α
  | some value => d.put name value
  | none => d.erase name

def names (d : Dict α) : List String := d.entries.map (·.1)

def ofPairs (pairs : List (String × α)) : Dict α :=
  pairs.foldl (fun d pair => d.put pair.1 pair.2) {}

def last? (pairs : List (String × α)) (name : String) : Option α :=
  (pairs.filter (fun pair => pair.1 == name)).getLast?.map (·.2)

theorem lookup_filter_ne (entries : List (String × α)) (name other : String) :
    (entries.filter (fun entry => !(entry.1 == name))).lookup other =
      if other = name then none else entries.lookup other := by
  induction entries with
  | nil => simp
  | cons head rest ih =>
      obtain ⟨key,value⟩ := head
      by_cases dropped : key = name
      · subst dropped
        rw [List.filter_cons]
        simp only [beq_self_eq_true,Bool.not_true,Bool.false_eq_true,↓reduceIte,ih,List.lookup_cons]
        split
        · rfl
        · rename_i differs
          rw [beq_eq_false_iff_ne.mpr differs]
      · rw [List.filter_cons]
        simp only [beq_eq_false_iff_ne.mpr dropped,Bool.not_false,↓reduceIte,List.lookup_cons,ih]
        by_cases found : other = key
        · subst found
          simp [dropped]
        · rw [beq_eq_false_iff_ne.mpr found]

@[simp] theorem get?_put (d : Dict α) (name other : String) (value : α) :
    (d.put name value).get? other = if other = name then some value else d.get? other := by
  simp only [get?,put,List.lookup_cons,lookup_filter_ne]
  by_cases same : other = name
  · simp [same]
  · simp [beq_eq_false_iff_ne.mpr same,same]

@[simp] theorem get?_erase (d : Dict α) (name other : String) :
    (d.erase name).get? other = if other = name then none else d.get? other :=
  lookup_filter_ne d.entries name other

theorem get?_set (d : Dict α) (name other : String) (value : Option α) :
    (d.set name value).get? other = if other = name then value else d.get? other := by
  cases value with
  | none => exact get?_erase d name other
  | some value => exact get?_put d name other value

@[simp] theorem get?_empty (name : String) : ({} : Dict α).get? name = none := rfl

theorem get?_isSome_iff (d : Dict α) (name : String) :
    (d.get? name).isSome ↔ name ∈ d.names := by
  obtain ⟨entries⟩ := d
  simp only [get?,names]
  induction entries with
  | nil => simp
  | cons head rest ih =>
      obtain ⟨key,value⟩ := head
      rw [List.lookup_cons]
      by_cases found : name = key
      · subst found; simp
      · rw [beq_eq_false_iff_ne.mpr found]
        simp [found,ih]

theorem last?_cons (pair : String × α) (rest : List (String × α)) (name : String) :
    last? (pair :: rest) name =
      (last? rest name).or (if name = pair.1 then some pair.2 else none) := by
  unfold last?
  by_cases same : name = pair.1
  · rw [List.filter_cons_of_pos (by simp [same]),List.getLast?_cons,if_pos same]
    cases (rest.filter (fun pair => pair.1 == name)).getLast? with
    | none => rfl
    | some last => rfl
  · rw [List.filter_cons_of_neg (by simp [Ne.symm same]),if_neg same,Option.or_none]

theorem last?_concat (pairs : List (String × α)) (pair : String × α) (name : String) :
    last? (pairs ++ [pair]) name = if name = pair.1 then some pair.2 else last? pairs name := by
  unfold last?
  rw [List.filter_append]
  by_cases same : name = pair.1
  · rw [List.filter_cons_of_pos (by simp [same]),List.filter_nil,List.getLast?_concat,if_pos same]
    rfl
  · rw [List.filter_cons_of_neg (by simp [Ne.symm same]),List.filter_nil,List.append_nil,if_neg same]

theorem last?_isSome_iff (pairs : List (String × α)) (name : String) :
    (last? pairs name).isSome ↔ name ∈ pairs.map (·.1) := by
  induction pairs with
  | nil => simp [last?]
  | cons pair rest ih =>
      rw [last?_cons,Option.isSome_or,Bool.or_eq_true,ih,List.map_cons,List.mem_cons,or_comm]
      by_cases same : name = pair.1
      · simp [same]
      · simp [same]

theorem get?_foldl_put (pairs : List (String × α)) (d : Dict α) (name : String) :
    (pairs.foldl (fun d pair => d.put pair.1 pair.2) d).get? name =
      (last? pairs name).or (d.get? name) := by
  induction pairs generalizing d with
  | nil => rfl
  | cons pair rest ih =>
      rw [List.foldl_cons,ih,last?_cons,get?_put,Option.or_assoc]
      split
      · rfl
      · rw [Option.none_or]

theorem get?_ofPairs (pairs : List (String × α)) (name : String) :
    (ofPairs pairs).get? name = last? pairs name := by
  rw [ofPairs,get?_foldl_put,get?_empty,Option.or_none]

end Dict
end RegistryRelay
