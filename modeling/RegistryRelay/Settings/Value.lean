import RegistryRelay.Settings.Lexeme

namespace RegistryRelay.Settings

inductive Value where
  | null
  | bool (value : Bool)
  | text (pieces : List Piece)
  | number (digits : List Char)
  | array (items : List Value)
  | object (members : List (List Piece × Value))

inductive Frame where
  | array (items : List Value)
  | object (members : List (List Piece × Value)) (key : List Piece)

-- What may come next: a value (or, where one may be left out, the closing bracket), a key
-- or the closing brace, the colon after a key, or whatever follows a finished value.
inductive Progress where
  | value (frames : List Frame) (optional : Bool)
  | key (frames : List Frame) (members : List (List Piece × Value))
  | colon (frames : List Frame) (members : List (List Piece × Value)) (key : List Piece)
  | after (frames : List Frame) (value : Value)

def wordValue? (pieces : List Piece) : Option Value :=
  let spells (word : String) : Bool := pieces == word.toList.map .plain
  if spells "null" then some .null
  else if spells "true" then some (.bool true)
  else if spells "false" then some (.bool false)
  else if spells "Infinity" then some (.number "Infinity".toList)
  else if spells "NaN" then some (.number "NaN".toList)
  else none

def Progress.advance : Progress → Lexeme → Option Progress
  | .value frames optional,.mark c =>
      if c = '[' then some (.value (.array [] :: frames) true)
      else if c = '\x7b' then some (.key frames [])
      else
        match c,optional,frames with
        | ']',true,.array items :: outer => some (.after outer (.array items))
        | _,_,_ => none
  | .value frames _,.text pieces => some (.after frames (.text pieces))
  | .value frames _,.number digits => some (.after frames (.number digits))
  | .value frames _,.word pieces => (wordValue? pieces).map (.after frames)
  | .key frames members,.text pieces => some (.colon frames members pieces)
  | .key frames members,.word pieces => some (.colon frames members pieces)
  | .key frames members,.mark c =>
      if c = '\x7d' then some (.after frames (.object members)) else none
  | .colon frames members name,.mark c =>
      if c = ':' then some (.value (.object members name :: frames) false) else none
  | .after (.array items :: outer) last,.mark c =>
      if c = ',' then some (.value (.array (items ++ [last]) :: outer) true)
      else if c = ']' then some (.after outer (.array (items ++ [last])))
      else none
  | .after (.object members name :: outer) last,.mark c =>
      if c = ',' then some (.key outer (members ++ [(name,last)]))
      else if c = '\x7d' then some (.after outer (.object (members ++ [(name,last)])))
      else none
  | _,_ => none

def Progress.result? : Progress → Option Value
  | .after [] document => some document
  | _ => none

def Value.ofLexemes? (lexemes : List Lexeme) : Option Value :=
  (lexemes.foldlM Progress.advance (.value [] false)).bind Progress.result?

def Value.read? (text : String) : Option Value :=
  (lexemes text.toList).bind Value.ofLexemes?

end RegistryRelay.Settings
