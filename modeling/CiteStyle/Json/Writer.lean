-- Writing JSON text.
import CiteStyle.Json.Basic

namespace CiteStyle.Json

/-! ## Strings -/

/-- A digit of a hexadecimal number. -/
def hexDigit (n : Nat) : Char := Nat.digitChar (n % 16)

/-- A character as it stands in a string. -/
def writeChar (c : Char) : List Char :=
  if c = '"' then ['\\', '"']
  else if c = '\\' then ['\\', '\\']
  else if c.toNat < 32 then
    ['\\', 'u', '0', '0', hexDigit (c.toNat / 16), hexDigit c.toNat]
  else [c]

/-- A string in quotes. -/
def quote (s : String) : String := String.ofList ('"' :: s.toList.flatMap writeChar ++ ['"'])

/-! ## Values -/

/-- The value that stands for a whole number. -/
def ofInt (n : Int) : Json := .number (.ofInt n)

mutual
/-- The text of a value. What cannot be read is written as null. -/
def write : Json → String
  | .null => "null"
  | .bool value => if value then "true" else "false"
  | .number n => n.written
  | .text value => quote value
  | .array items => "[" ++ writeItems items ++ "]"
  | .object fields => "\x7b" ++ writeFields fields ++ "\x7d"
  | .unreadable => "null"

/-- The texts of some values with commas between them. -/
def writeItems : List Json → String
  | [] => ""
  | [item] => item.write
  | item :: rest => item.write ++ "," ++ writeItems rest

/-- The texts of some fields with commas between them. -/
def writeFields : List (String × Json) → String
  | [] => ""
  | [(name, value)] => quote name ++ ":" ++ value.write
  | (name, value) :: rest => quote name ++ ":" ++ value.write ++ "," ++ writeFields rest
end

end CiteStyle.Json
