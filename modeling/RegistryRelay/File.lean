namespace RegistryRelay

inductive File where
  | absent
  | folder
  | garbled
  | text (contents : String)
deriving DecidableEq, Repr

-- Bytes are text exactly when they are valid UTF-8; a byte order mark is a character.
def File.ofBytes (bytes : ByteArray) : File :=
  match String.fromUTF8? bytes with
  | some contents => .text contents
  | none => .garbled

end RegistryRelay
