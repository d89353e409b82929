import RegistryRelay.Proofs.Settings.Lexing
import RegistryRelay.Settings

namespace RegistryRelay.Settings

inductive Pair : String × String → List Char → Prop where
  | pair (name : Name key named) (before : Gap b) (after : Gap a) (literal : Literal value written) :
      Pair (key,value) (named ++ (b ++ ':' :: (a ++ written)))

-- What follows a pair: the pairs after it and the closing brace. A comma may follow the last pair.
inductive Tail : List (String × String) → List Char → Prop where
  | close (gap : Gap g) : Tail [] (g ++ ['\x7d'])
  | comma (before : Gap b) (after : Gap a) : Tail [] (b ++ ',' :: (a ++ ['\x7d']))
  | more (before : Gap b) (after : Gap a) (first : Pair pair written) (tail : Tail pairs more) :
      Tail (pair :: pairs) (b ++ ',' :: (a ++ (written ++ more)))

inductive Object : List (String × String) → List Char → Prop where
  | empty (gap : Gap g) : Object [] ('\x7b' :: (g ++ ['\x7d']))
  | pairs (gap : Gap g) (first : Pair pair written) (tail : Tail pairs more) :
      Object (pair :: pairs) ('\x7b' :: (g ++ (written ++ more)))

inductive Document : List (String × String) → List Char → Prop where
  | object (before : Gap b) (object : Object pairs written) (after : Ending a) :
      Document pairs (b ++ (written ++ a))

def Progress.through (progress : Progress) (s : List Char) : Option Progress :=
  (lexemes s).bind (·.foldlM Progress.advance progress)

variable {pairs : List (String × String)} {pair : String × String} {g rest written : List Char}

theorem through_stands {progress next : Progress} {lexeme : Lexeme} (gap : Gap g)
    (stands : Stands written lexeme rest) (advances : progress.advance lexeme = some next) :
    progress.through (g ++ (written ++ rest)) = next.through rest := by
  unfold Progress.through
  rw [lexemes_stands gap stands,Option.bind_map]
  apply Option.bind_congr
  intro lexemes _
  rw [Function.comp,List.foldlM_cons,advances]
  rfl

theorem through_mark {progress next : Progress} {c : Char} (gap : Gap g)
    (mark : c ∈ ['\x7b','\x7d','[',']',':',',']) (advances : progress.advance (.mark c) = some next) :
    progress.through (g ++ c :: rest) = next.through rest :=
  through_stands gap (stands_mark mark rest) advances

theorem through_ending (ending : Ending g) (progress : Progress) :
    progress.through g = some progress := by
  rw [Progress.through,lexemes_ending ending]
  rfl

theorem pair_through (written_ : Pair pair written) :
    ∃ name content, (∀ members, decodeMembers ((name,.text content) :: members) =
        (decodeMembers members).map (pair :: ·)) ∧
      ∀ frames members g rest, Gap g →
        (Progress.key frames members).through (g ++ (written ++ rest)) =
          (Progress.after (.object members name :: frames) (.text content)).through rest := by
  cases written_ with
  | pair name before after literal =>
      obtain ⟨pieces,decodesName,lexeme,kind,standsName⟩ := stands_name name
      obtain ⟨content,decodesValue,standsValue⟩ := stands_literal literal
      refine ⟨pieces,content,?_,?_⟩
      · intro members
        simp only [decodeMembers,decodesName,decodesValue]
      intro frames members g rest gap
      have named : (Progress.key frames members).advance lexeme =
          some (.colon frames members pieces) := by
        rcases kind with rfl | rfl <;> rfl
      simp only [List.append_assoc,List.cons_append]
      rw [through_stands gap (standsName _ (apart_mark before)) named,
        through_mark before (by decide) rfl,through_stands after (standsValue rest) rfl]

theorem tail_through (tail : Tail pairs written) :
    ∃ more, decodeMembers more = .ok pairs ∧
      ∀ frames members name last rest,
        (Progress.after (.object members name :: frames) last).through (written ++ rest) =
          (Progress.after frames (.object (members ++ (name,last) :: more))).through rest := by
  induction tail with
  | close gap =>
      refine ⟨[],rfl,?_⟩
      intro frames members name last rest
      rw [List.append_assoc,List.singleton_append,through_mark gap (by decide) rfl]
  | comma before after =>
      refine ⟨[],rfl,?_⟩
      intro frames members name last rest
      simp only [List.append_assoc,List.cons_append,List.nil_append]
      rw [through_mark before (by decide) rfl,through_mark after (by decide) rfl]
  | more before after first _ ih =>
      obtain ⟨key,content,decodes,reads⟩ := pair_through first
      obtain ⟨more,decodesMore,readsMore⟩ := ih
      refine ⟨(key,.text content) :: more,?_,?_⟩
      · rw [decodes,decodesMore]
        rfl
      intro frames members name last rest
      simp only [List.append_assoc,List.cons_append]
      rw [through_mark before (by decide) rfl,reads _ _ _ _ after,readsMore]
      simp only [List.append_assoc,List.singleton_append]

theorem object_through (object : Object pairs written) :
    ∃ members, decodeMembers members = .ok pairs ∧
      ∀ frames optional g rest, Gap g →
        (Progress.value frames optional).through (g ++ (written ++ rest)) =
          (Progress.after frames (.object members)).through rest := by
  cases object with
  | empty gap =>
      refine ⟨[],rfl,?_⟩
      intro frames optional g rest before
      simp only [List.append_assoc,List.cons_append,List.nil_append]
      rw [through_mark before (by decide) rfl,through_mark gap (by decide) rfl]
  | pairs gap first tail =>
      obtain ⟨key,content,decodes,reads⟩ := pair_through first
      obtain ⟨more,decodesMore,readsMore⟩ := tail_through tail
      refine ⟨(key,.text content) :: more,?_,?_⟩
      · rw [decodes,decodesMore]
        rfl
      intro frames optional g rest before
      simp only [List.append_assoc,List.cons_append]
      rw [through_mark before (by decide) rfl,reads _ _ _ _ gap,readsMore]
      rfl

theorem read?_through (text : String) :
    Value.read? text = ((Progress.value [] false).through text.toList).bind Progress.result? :=
  (Option.bind_assoc (lexemes text.toList) _ Progress.result?).symm

theorem document_pairs {text : String} (document : Document pairs text.toList) :
    readPairs text = .ok pairs := by
  generalize spelled : text.toList = s at document
  cases document with
  | object before object after =>
      obtain ⟨members,decodes,reads⟩ := object_through object
      have whole : Value.read? text = some (.object members) := by
        rw [read?_through,spelled,reads _ _ _ _ before,through_ending after]
        rfl
      rw [readPairs,whole]
      exact decodes

theorem pairs_read_back {text : String} (document : Document pairs text.toList) :
    ∃ settings, read text = .ok settings ∧
      ∀ key, settings.get? key = Dict.last? pairs key := by
  refine ⟨Dict.ofPairs pairs,?_,Dict.get?_ofPairs pairs⟩
  rw [read,document_pairs document]

def sample : String := "/**/\x7b'it\\'s':\"a\",//\nk:'b',\"k\":'c',\x7d//"

def samplePairs : List (String × String) := [("it's","a"),("k","b"),("k","c")]

theorem sample_document : Document samplePairs sample.toList := by
  have block : Gap ['/','*','*','/'] := @Gap.block [] [] (by decide) .nothing
  have line : Gap ['/','/','\n'] := @Gap.line [] '\n' [] nofun (by decide) .nothing
  have first : Pair ("it's","a") _ := .pair (.literal .single) .nothing .nothing .double
  have second : Pair ("k","b") _ := .pair (.bare ⟨'k',[],rfl,rfl,nofun⟩) .nothing .nothing .single
  have third : Pair ("k","c") _ := .pair (.literal .double) .nothing .nothing .single
  have object : Object samplePairs _ := .pairs .nothing first
    (.more .nothing line second (.more .nothing .nothing third (.comma .nothing .nothing)))
  have document : Document samplePairs _ := .object block object (@Ending.line [] [] .nothing nofun)
  refine cast (congrArg (Document samplePairs) ?_) document
  decide +kernel

theorem pairs_read_back_sample :
    ∃ settings, read sample = .ok settings ∧ settings.get? "it's" = some "a" ∧
      settings.get? "k" = some "c" ∧ settings.get? "kk" = none := by
  obtain ⟨settings,reads,values⟩ := pairs_read_back sample_document
  refine ⟨settings,reads,?_,?_,?_⟩
  all_goals rw [values]; decide

end RegistryRelay.Settings
