import EngineHost.Text.Hex
import EngineHost.Text.Printable
/-
Text between double quotes, spelled so that every character of it can be seen.
The quote, the backslash and four control characters have short escapes.  Any
other character that has no shape of its own is written by its code point.  A
single quote needs no escape here.
-/
namespace EngineHost
namespace Text
namespace Quoted

def char (c : Char) : String :=
  if c = '"' then "\\\""
  else if c = '\\' then "\\\\"
  else if c = '\n' then "\\n"
  else if c = '\r' then "\\r"
  else if c = '\t' then "\\t"
  else if c.toNat = 0 then "\\0"
  else if Printable.isShown c then String.singleton c
  else "\\u\x7b" ++ Hex.number c.toNat ++ "\x7d"

def encode (text : String) : String :=
  "\"" ++ String.join (text.toList.map char) ++ "\""

/-- Quoted texts between brackets, with a comma and a space between them. -/
def list (texts : List String) : String :=
  "[" ++ ", ".intercalate (texts.map encode) ++ "]"

end Quoted
end Text
end EngineHost
