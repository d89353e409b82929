import RegistryRelay.Text.Combining
import RegistryRelay.Text.Unprintable

namespace RegistryRelay.Quoted

def byNumber (c : Char) : List Char :=
  ['\\','u','\x7b'] ++ Nat.toDigits 16 c.toNat ++ ['\x7d']

-- What a character looks like between double quotes. NUL, tab, line feed and carriage
-- return have short forms; whatever would not show on its own is given by number.
def escape (c : Char) : List Char :=
  if c = '"' then ['\\','"']
  else if c = '\\' then ['\\','\\']
  else if c = '\n' then ['\\','n']
  else if c = '\r' then ['\\','r']
  else if c = '\t' then ['\\','t']
  else if c = '\x00' then ['\\','0']
  else if combining.contains c || unprintable.contains c then byNumber c
  else [c]

def quote (text : String) : String :=
  String.ofList ('"' :: text.toList.flatMap escape ++ ['"'])

def flatten (text : String) : String :=
  String.ofList (text.toList.flatMap (fun c => if c = '"' then ['"'] else escape c))

end RegistryRelay.Quoted
