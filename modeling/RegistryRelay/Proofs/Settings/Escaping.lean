import RegistryRelay.Proofs.Inventory.Acceptance
import RegistryRelay.Proofs.Settings.Writing

namespace RegistryRelay.Settings

-- What becomes of a character that is written as two units: one of an even plane loses a bit and
-- comes out at the same place of the plane before it.
def merged (c : Char) : Char :=
  if 0x20000 ≤ c.toNat ∧ c.toNat / 0x10000 % 2 = 0 then Char.ofNat (c.toNat - 0x10000) else c

def mergedText (text : String) : String := String.ofList (text.toList.map merged)

def mergedPair (pair : String × String) : String × String := (mergedText pair.1,mergedText pair.2)

structure Renders (written : List Char) (pieces : List Piece) (c : Char) : Prop where
  read : ∀ rest, readText '"' (written ++ rest) =
    (readText '"' rest).map fun found => (pieces ++ found.1,found.2)
  decoded : ∀ more, decodePieces (pieces ++ more) = (decodePieces more).map (c :: ·)

inductive Encoded (pairs : List (String × String)) (text : String) : Prop where
  | object (object : Inventory.Object Inventory.Text pairs text.toList tail)
      (blank : Inventory.Blank tail) (ascii : ∀ c ∈ text.toList, c.toNat < 128)

variable {c : Char} {written body text s tail g : List Char} {piece : Piece} {value : String}
  {pair : String × String} {pairs : List (String × String)}

theorem Spells.renders (spells : Spells '"' written c piece) : Renders written [piece] c :=
  ⟨spells.read,spells.decoded⟩

theorem or_bit : ∀ n < 0x400, n ||| 0x40 = if n / 0x40 % 2 = 1 then n else n + 0x40 := by
  decide +kernel

theorem or_units {high low : Nat} (small : high < 0x400) (low_small : low < 0x400) :
    (high <<< 10) ||| (low + 0x10000) =
      if high / 0x40 % 2 = 1 then high * 0x400 + low else high * 0x400 + low + 0x10000 := by
  have offset : low + 0x10000 = (0x40 <<< 10) ||| low :=
    (Nat.add_comm ..).trans (Nat.shiftLeft_add_eq_or_of_lt (i := 10) low_small 0x40)
  rw [offset,← Nat.or_assoc,← Nat.shiftLeft_or_distrib,or_bit high small,
    ← Nat.shiftLeft_add_eq_or_of_lt low_small,Nat.shiftLeft_eq]
  split <;> omega

theorem pairChar_merged (large : 0x10000 ≤ c.toNat) :
    pairChar (0xD800 + (c.toNat - 0x10000) / 0x400) (0xDC00 + (c.toNat - 0x10000) % 0x400) =
      merged c := by
  have valid : c.toNat.isValidChar := c.valid
  unfold Nat.isValidChar at valid
  rw [pairChar,Nat.add_sub_cancel_left,Nat.add_sub_cancel_left,or_units (by omega) (by omega),merged]
  by_cases even : c.toNat / 0x10000 % 2 = 0
  · rw [if_pos (by omega),if_pos ⟨by omega,even⟩]
    exact congrArg Char.ofNat (by omega)
  · rw [if_neg (by omega),if_neg (fun both => even both.2)]
    have same : (c.toNat - 0x10000) / 0x400 * 0x400 + (c.toNat - 0x10000) % 0x400 + 0x10000 =
        c.toNat := by omega
    rw [same,Char.ofNat_toNat]

theorem merged_small (small : c.toNat < 0x20000) : merged c = c := if_neg (by omega)

-- The characters that keep their place are those of the first plane and of the odd planes.
theorem merged_eq_iff : merged c = c ↔ c.toNat < 0x10000 ∨ c.toNat / 0x10000 % 2 = 1 := by
  have valid : c.toNat.isValidChar := c.valid
  unfold Nat.isValidChar at valid
  unfold merged
  split
  · rename_i moved
    have lower : (c.toNat - 0x10000).isValidChar := by
      unfold Nat.isValidChar
      omega
    have differs : Char.ofNat (c.toNat - 0x10000) ≠ c := by
      intro same
      have number := congrArg Char.toNat same
      rw [Inventory.toNat_ofNat_valid lower] at number
      omega
    simp only [differs,false_iff]
    omega
  · simp only [true_iff]
    omega

theorem merged_merged (c : Char) : merged (merged c) = merged c := by
  have valid : c.toNat.isValidChar := c.valid
  unfold Nat.isValidChar at valid
  by_cases moved : 0x20000 ≤ c.toNat ∧ c.toNat / 0x10000 % 2 = 0
  · have lower : (c.toNat - 0x10000).isValidChar := by
      unfold Nat.isValidChar
      omega
    rw [merged_eq_iff,merged,if_pos moved,Inventory.toNat_ofNat_valid lower]
    omega
  · rw [merged,merged,if_neg moved,if_neg moved]

theorem isHex_all (d e f g : Char) : (isHex d && isHex e && isHex f && isHex g) = true ↔
    ∀ digit ∈ [d,e,f,g], isHex digit = true := by
  simp [and_assoc]

theorem renders_units (escaped : Inventory.Escaped (Inventory.units c) written) :
    ∃ pieces, Renders written pieces (merged c) := by
  by_cases small : c.toNat < 0x10000
  · rw [Inventory.units,if_pos small] at escaped
    obtain ⟨d,e,f,g,_,rfl,found,more⟩ := Inventory.escaped_cons escaped
    obtain ⟨digits,number⟩ := Inventory.unit?_eq_some_iff.mp found
    cases more
    obtain ⟨lead,trail⟩ := Bool.or_eq_false_iff.mp (Inventory.lone_small small)
    rw [← number] at lead trail
    have spells : Spells '"' _ _ _ := spells_unit d e f g ((isHex_all d e f g).mpr digits) trail lead
    rw [number,Char.ofNat_toNat] at spells
    rw [merged_small (by omega)]
    exact ⟨_,spells.renders⟩
  · have large := Nat.not_lt.mp small
    obtain ⟨lead,trail,pair,leads,notTrail,trails,_⟩ := Inventory.pairChar_units large
    have same := pairChar_merged large
    rw [Inventory.units,if_neg small] at pair
    simp only [List.cons.injEq,and_true] at pair
    obtain ⟨rfl,rfl⟩ := pair
    rw [Inventory.units,if_neg small] at escaped
    obtain ⟨d,e,f,g,_,rfl,first,more⟩ := Inventory.escaped_cons escaped
    obtain ⟨d',e',f',g',_,rfl,second,more⟩ := Inventory.escaped_cons more
    obtain ⟨digits,number⟩ := Inventory.unit?_eq_some_iff.mp first
    obtain ⟨digits',number'⟩ := Inventory.unit?_eq_some_iff.mp second
    cases more
    refine ⟨[.unit d e f g,.unit d' e' f' g'],?_,?_⟩
    · intro rest
      simp only [List.cons_append,List.nil_append]
      rw [readText.eq_4,if_pos ((isHex_all _ _ _ _).mpr digits),readText.eq_4,
        if_pos ((isHex_all _ _ _ _).mpr digits')]
      rw [Option.map_map]
      rfl
    · intro more
      have paired : (Piece.unit d' e' f' g').trail = .ok (hexNumber [d',e',f',g']) := by
        rw [← number'] at trails
        have hex : ([d',e',f',g'].all isHex) = true := List.all_eq_true.mpr digits'
        simp only [Piece.trail,Piece.body,hex,trails,Bool.not_true,Bool.false_eq_true,↓reduceIte]
      simp only [List.cons_append,List.nil_append]
      rw [decodePieces.eq_def]
      simp only [number,notTrail,leads,Bool.false_eq_true,↓reduceIte,paired,number',same]

theorem shorthand_letters : ∀ short ∈ Inventory.shorthands, escapedChar short.1 = short.2 ∧
    isLineEnd short.1 = false ∧ short.2.toNat < 128 ∧
    ¬(short.1 = 'x' ∨ short.1 = 'u' ∨ ('1' ≤ short.1 ∧ short.1 ≤ '9')) := by
  decide

theorem renders_spelled (spelled : Inventory.Spelled c written)
    (ascii : ∀ c ∈ written, c.toNat < 128) : ∃ pieces, Renders written pieces (merged c) := by
  cases spelled with
  | plain printable inner bare =>
      have low := ascii c (List.mem_singleton_self c)
      have inside : isLineEnd c = false := by
        refine isLineEnd_eq_false fun ends => ?_
        simp only [EndsLine,lineEndCodes,List.mem_cons,List.not_mem_nil,or_false] at ends
        omega
      rw [merged_small (by omega)]
      exact ⟨_,(spells_plain inner bare inside).renders⟩
  | letter short =>
      obtain ⟨denotes,inside,low,allowed⟩ := shorthand_letters _ short
      simp only at denotes inside low allowed
      have spells : Spells '"' _ _ _ := spells_letter inside allowed
      rw [denotes] at spells
      rw [merged_small (by omega)]
      exact ⟨_,spells.renders⟩
  | escaped escaped => exact renders_units escaped

theorem readText_body (written : Inventory.Body text body) (ascii : ∀ c ∈ body, c.toNat < 128) :
    ∃ pieces, decodePieces pieces = .ok (text.map merged) ∧
      ∀ rest, readText '"' (body ++ '"' :: rest) = some (pieces,rest) := by
  induction written with
  | nothing =>
      refine ⟨[],rfl,fun rest => ?_⟩
      rw [List.nil_append,readText_bare (by decide),if_pos rfl]
  | char spelled _ ih =>
      obtain ⟨here,others⟩ := List.forall_mem_append.mp ascii
      obtain ⟨pieces,renders⟩ := renders_spelled spelled here
      obtain ⟨more,decoded,read⟩ := ih others
      refine ⟨pieces ++ more,?_,fun rest => ?_⟩
      · rw [renders.decoded,decoded]
        rfl
      · rw [List.append_assoc,renders.read,read]
        rfl

theorem stands_text (written : Inventory.Body value.toList body)
    (ascii : ∀ c ∈ body, c.toNat < 128) : ∃ pieces, decodeText pieces = .ok (mergedText value) ∧
      ∀ rest, Stands ('"' :: (body ++ ['"'])) (.text pieces) rest := by
  obtain ⟨isMark,blank,slash⟩ := quote_facts (.inl rfl)
  obtain ⟨pieces,decoded,read⟩ := readText_body written ascii
  refine ⟨pieces,?_,fun rest => ?_⟩
  · rw [decodeText,decoded]
    rfl
  constructor
  case filled => exact skipBlank_other blank slash
  case read =>
    rw [List.cons_append,List.append_assoc,List.singleton_append,readLexeme]
    simp only [isMark,Bool.false_eq_true,↓reduceIte,true_or,read]
    rfl

theorem gap_blank (blank : Inventory.Blank g) : Gap g := by
  induction g with
  | nil => exact .nothing
  | cons c g ih =>
      obtain ⟨here,others⟩ := List.forall_mem_cons.mp blank
      have known : ∀ c ∈ [' ','\t','\n','\r'], Blank c := by
        simp only [List.forall_mem_cons]
        exact ⟨by decide,by decide,by decide,by decide,nofun⟩
      exact .blank (known c here) (ih others)

theorem through_strict_mark {progress next : Progress} (mark : Inventory.Mark c s tail)
    (known : c ∈ ['\x7b','\x7d','[',']',':',',']) (advances : progress.advance (.mark c) = some next) :
    progress.through s = next.through tail := by
  obtain ⟨b,blank,rfl⟩ := mark
  exact through_mark (gap_blank blank) known advances

theorem mark_subset (mark : Inventory.Mark c s tail) : tail ⊆ s := by
  obtain ⟨b,_,rfl⟩ := mark
  exact List.Subset.trans (List.subset_cons_self c tail) (List.subset_append_right b _)

theorem through_strict_text (read : Inventory.Text value s tail) (ascii : ∀ c ∈ s, c.toNat < 128) :
    ∃ pieces, decodeText pieces = .ok (mergedText value) ∧
      ∀ progress next : Progress, progress.advance (.text pieces) = some next →
        progress.through s = next.through tail := by
  obtain ⟨b,body,blank,written,rfl⟩ := read
  have inner : ∀ c ∈ body, c.toNat < 128 := by
    intro c member
    apply ascii
    simp only [List.mem_append,List.mem_cons,member,true_or,or_true]
  obtain ⟨pieces,decoded,stands⟩ := stands_text written inner
  refine ⟨pieces,decoded,fun progress next advances => ?_⟩
  have through := through_stands (gap_blank blank) (stands tail) advances
  simp only [List.cons_append,List.append_assoc,List.nil_append] at through
  exact through

theorem text_subset (read : Inventory.Text value s tail) : tail ⊆ s := by
  obtain ⟨b,body,_,_,rfl⟩ := read
  intro c member
  simp only [List.mem_append,List.mem_cons,member,or_true]

theorem ascii_subset (within : tail ⊆ s) (ascii : ∀ c ∈ s, c.toNat < 128) :
    ∀ c ∈ tail, c.toNat < 128 := fun c member => ascii c (within member)

theorem member_through (member : Inventory.Member Inventory.Text pair s tail)
    (ascii : ∀ c ∈ s, c.toNat < 128) : tail ⊆ s ∧
    ∃ name content, (∀ members, decodeMembers ((name,.text content) :: members) =
        (decodeMembers members).map (mergedPair pair :: ·)) ∧
      ∀ frames members, (Progress.key frames members).through s =
        (Progress.after (.object members name :: frames) (.text content)).through tail := by
  cases member with
  | member text colon rest =>
      have named := ascii_subset (text_subset text) ascii
      have valued := ascii_subset (mark_subset colon) named
      obtain ⟨name,decodesName,readsName⟩ := through_strict_text text ascii
      obtain ⟨content,decodesValue,readsValue⟩ := through_strict_text rest valued
      have within := List.Subset.trans (mark_subset colon) (text_subset text)
      refine ⟨List.Subset.trans (text_subset rest) within,name,content,?_,?_⟩
      · intro members
        simp only [decodeMembers,decodesName,decodesValue,mergedPair]
      · intro frames members
        rw [readsName (.key frames members) (.colon frames members name) rfl,
          through_strict_mark colon (by decide) rfl,readsValue _ _ rfl]

theorem members_through (written : Inventory.Members Inventory.Text pairs s tail)
    (ascii : ∀ c ∈ s, c.toNat < 128) :
    ∃ read, decodeMembers read = .ok (pairs.map mergedPair) ∧
      ∀ frames members, (Progress.key frames members).through s =
        (Progress.after frames (.object (members ++ read))).through tail := by
  induction written with
  | last member closes =>
      obtain ⟨_,name,content,decodes,reads⟩ := member_through member ascii
      refine ⟨[(name,.text content)],?_,?_⟩
      · rw [decodes]
        rfl
      · intro frames members
        rw [reads,through_strict_mark closes (by decide) rfl]
  | more member comma _ ih =>
      obtain ⟨within,name,content,decodes,reads⟩ := member_through member ascii
      obtain ⟨more,decodesMore,readsMore⟩ :=
        ih (ascii_subset (List.Subset.trans (mark_subset comma) within) ascii)
      refine ⟨(name,.text content) :: more,?_,?_⟩
      · rw [decodes,decodesMore]
        rfl
      · intro frames members
        rw [reads,through_strict_mark comma (by decide) rfl,readsMore,List.append_assoc]
        rfl

theorem strict_object_through (object : Inventory.Object Inventory.Text pairs s tail)
    (ascii : ∀ c ∈ s, c.toNat < 128) :
    ∃ members, decodeMembers members = .ok (pairs.map mergedPair) ∧
      ∀ frames optional, (Progress.value frames optional).through s =
        (Progress.after frames (.object members)).through tail := by
  cases object with
  | empty opens closes =>
      refine ⟨[],rfl,fun frames optional => ?_⟩
      rw [through_strict_mark opens (by decide) rfl,through_strict_mark closes (by decide) rfl]
  | members opens members =>
      obtain ⟨read,decodes,reads⟩ := members_through members (ascii_subset (mark_subset opens) ascii)
      refine ⟨read,decodes,fun frames optional => ?_⟩
      rw [through_strict_mark opens (by decide) rfl,reads]
      rfl

theorem readPairs_encoded {text : String} (encoded : Encoded pairs text) :
    readPairs text = .ok (pairs.map mergedPair) := by
  cases encoded with
  | object object blank ascii =>
      obtain ⟨members,decodes,reads⟩ := strict_object_through object ascii
      have whole : Value.read? text = some (.object members) := by
        rw [read?_through,reads,through_ending (.gap (gap_blank blank))]
        rfl
      rw [readPairs,whole]
      exact decodes

theorem mergedText_self {text : String} (kept : ∀ c ∈ text.toList, merged c = c) :
    mergedText text = text := by
  rw [mergedText,List.map_congr_left (g := id) kept,List.map_id,String.ofList_toList]

theorem merged_of_mem {text : String} (member : c ∈ (mergedText text).toList) : merged c = c := by
  rw [mergedText,String.toList_ofList,List.mem_map] at member
  obtain ⟨c,_,rfl⟩ := member
  exact merged_merged c

theorem last?_mem {key : String} (last : Dict.last? pairs key = some value) : (key,value) ∈ pairs := by
  unfold Dict.last? at last
  obtain ⟨found,final,rfl⟩ := Option.map_eq_some_iff.mp last
  obtain ⟨member,named⟩ := List.mem_filter.mp (List.mem_of_getLast? final)
  rwa [← eq_of_beq named]

theorem last?_merged (kept : ∀ key value, Dict.last? pairs key = some value →
    ∀ c ∈ key.toList ++ value.toList, merged c = c) (key : String) :
    Dict.last? (pairs.map mergedPair) key = Dict.last? pairs key := by
  have keys : ∀ pair ∈ pairs, mergedPair pair = Inventory.Reader.Valued mergedText pair := by
    intro pair member
    have counts := (Dict.last?_isSome_iff pairs pair.1).mpr (List.mem_map_of_mem member)
    obtain ⟨value,last⟩ := Option.isSome_iff_exists.mp counts
    have own := (List.forall_mem_append.mp (kept _ _ last)).1
    rw [mergedPair,mergedText_self own]
    rfl
  rw [List.map_congr_left keys,Inventory.last?_valued]
  cases last : Dict.last? pairs key with
  | none => rfl
  | some value =>
      have own := (List.forall_mem_append.mp (kept key value last)).2
      rw [Option.map_some,mergedText_self own]

theorem escaped_pairs_merge {text : String} (encoded : Encoded pairs text) :
    ∃ settings, read text = .ok settings ∧
      (∀ key, settings.get? key = Dict.last? (pairs.map mergedPair) key) ∧
      ((∀ key, settings.get? key = Dict.last? pairs key) ↔
        ∀ key value, Dict.last? pairs key = some value → ∀ c ∈ key.toList ++ value.toList,
          c.toNat < 0x10000 ∨ c.toNat / 0x10000 % 2 = 1) := by
  simp only [← merged_eq_iff]
  refine ⟨Dict.ofPairs (pairs.map mergedPair),?_,Dict.get?_ofPairs _,?_⟩
  · rw [read,readPairs_encoded encoded]
  constructor
  · intro unchanged key value last c member
    have read := unchanged key
    rw [Dict.get?_ofPairs,last] at read
    obtain ⟨pair,_,same⟩ := List.mem_map.mp (last?_mem read)
    cases same
    rcases List.mem_append.mp member with own | own <;> exact merged_of_mem own
  · intro kept key
    rw [Dict.get?_ofPairs,last?_merged kept]

def escapedSample : String := "\x7b\"k\":\"\\ud840\\udc00\\ud83d\\ude00\\n\"\x7d"

def escapedValue : List Char := [Char.ofNat 0x20000,Char.ofNat 0x1F600,'\n']

def escapedPairs : List (String × String) := [("k",String.ofList escapedValue)]

theorem escapedSample_encoded : Encoded escapedPairs escapedSample := by
  have third : Inventory.Escaped (Inventory.units (Char.ofNat 0x20000)) _ :=
    .unit ((isHex_all 'd' '8' '4' '0').mp rfl)
      (.unit ((isHex_all 'd' 'c' '0' '0').mp rfl) .nothing)
  have second : Inventory.Escaped (Inventory.units (Char.ofNat 0x1F600)) _ :=
    .unit ((isHex_all 'd' '8' '3' 'd').mp rfl)
      (.unit ((isHex_all 'd' 'e' '0' '0').mp rfl) .nothing)
  have last : Inventory.Spelled '\n' ['\\','n'] := .letter (by decide)
  have value : Inventory.Body escapedValue _ :=
    .char (.escaped third) (.char (.escaped second) (.char last .nothing))
  rw [← String.toList_ofList (l := escapedValue)] at value
  have member : Inventory.Member Inventory.Text ("k",String.ofList escapedValue) _ ['\x7d'] :=
    .member (Inventory.letter_text (by decide) _) (Inventory.mark_first ':' _) ⟨[],_,nofun,value,rfl⟩
  have object : Inventory.Object Inventory.Text escapedPairs _ [] :=
    .members (Inventory.mark_first _ _) (.last member (Inventory.mark_first _ _))
  refine .object (cast (congrArg (Inventory.Object Inventory.Text escapedPairs · []) ?_) object) nofun ?_
  · decide +kernel
  · intro c member
    have all : (escapedSample.toList.all fun c => decide (c.toNat < 128)) = true := by decide +kernel
    exact of_decide_eq_true (List.all_eq_true.mp all c member)

theorem escaped_pairs_merge_sample :
    ∃ settings, read escapedSample = .ok settings ∧
      settings.get? "k" = some (String.ofList [Char.ofNat 0x10000,Char.ofNat 0x1F600,'\n']) := by
  obtain ⟨settings,reads,values,_⟩ := escaped_pairs_merge escapedSample_encoded
  refine ⟨settings,reads,?_⟩
  rw [values]
  decide +kernel

theorem escaped_pairs_not_kept : ¬∀ pairs text, Encoded pairs text →
    ∃ settings, read text = .ok settings ∧ ∀ key, settings.get? key = Dict.last? pairs key := by
  intro kept
  obtain ⟨settings,reads,values⟩ := kept escapedPairs escapedSample escapedSample_encoded
  rw [read,readPairs_encoded escapedSample_encoded] at reads
  cases reads
  have moved := values "k"
  rw [Dict.get?_ofPairs] at moved
  revert moved
  decide +kernel

end RegistryRelay.Settings
