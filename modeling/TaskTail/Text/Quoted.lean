/-
Quoted text: between double quotes, with a backslash before a quote and before a backslash, short escapes for the
common controls, and the hexadecimal code point of every other character that cannot be seen by itself.
-/
import TaskTail.Text.Hidden
namespace TaskTail.Text

/-- The written form of one character inside double quotes. -/
def quoteChar (c : Char) : List Char :=
  if c = '"' then ['\\', '"']
  else if c = '\\' then ['\\', '\\']
  else if c = '\n' then ['\\', 'n']
  else if c = '\r' then ['\\', 'r']
  else if c = '\t' then ['\\', 't']
  else if c = '\x00' then ['\\', '0']
  else if isHidden c then ['\\', 'u', '\x7b'] ++ Nat.toDigits 16 c.toNat ++ ['\x7d']
  else [c]

def quoted (s : String) : String :=
  String.ofList ('"' :: (s.toList.flatMap quoteChar ++ ['"']))

end TaskTail.Text
