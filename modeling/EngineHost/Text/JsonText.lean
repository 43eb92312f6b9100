import EngineHost.Text.Hex
import EngineHost.Text.Decimal
/-
The pieces of compact JSON: quoted strings, numbers, arrays and objects, with
no blank between them.  A string escapes what it has to and nothing else: the
quote, the backslash, and the characters below the space, five of which have
short forms.
-/
namespace EngineHost
namespace Text
namespace JsonText

def escape (c : Char) : List Char :=
  if c = '"' then ['\\', '"']
  else if c = '\\' then ['\\', '\\']
  else if c.toNat = 0x08 then ['\\', 'b']
  else if c.toNat = 0x0C then ['\\', 'f']
  else if c = '\n' then ['\\', 'n']
  else if c = '\r' then ['\\', 'r']
  else if c = '\t' then ['\\', 't']
  else if c.toNat < 0x20 then
    ['\\', 'u', '0', '0', Hex.digit (c.toNat / 16), Hex.digit (c.toNat % 16)]
  else [c]

def string (text : String) : String :=
  "\"" ++ String.ofList (text.toList.flatMap escape) ++ "\""

def number (n : Int) : String := Decimal.write n

def array (items : List String) : String := "[" ++ ",".intercalate items ++ "]"

/-- Members in the order given.  The names are written as they stand, so they
must need no escape. -/
def object (members : List (String × String)) : String :=
  "\x7b" ++ ",".intercalate (members.map fun m => "\"" ++ m.1 ++ "\":" ++ m.2) ++ "\x7d"

end JsonText
end Text
end EngineHost
