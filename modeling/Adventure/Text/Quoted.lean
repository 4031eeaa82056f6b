import Adventure.Json.Printer
import Adventure.Text.Shown

/-! # Quoted texts

Texts as they stand in diagnostic listings: between quotes, with quotes and backslashes escaped and
hidden characters by number.
-/

namespace Adventure.Text

/-- The hexadecimal digits of a number, none for zero. -/
def hexDigits (n : Nat) : List Char :=
  if n = 0 then [] else hexDigits (n / 16) ++ [Json.hexDigit (n % 16)]
termination_by n
decreasing_by omega

/-- A number in hexadecimal, in lower case and without leading zeros. -/
def hexNumber (n : Nat) : String := if n = 0 then "0" else String.ofList (hexDigits n)

/-- A character as it stands between quotes. -/
def escaped (c : Char) : String :=
  if c = '"' then "\\\""
  else if c = '\\' then "\\\\"
  else if c = '\n' then "\\n"
  else if c = '\r' then "\\r"
  else if c = '\t' then "\\t"
  else if c.toNat = 0 then "\\0"
  else if isShown c then c.toString
  else "\\u\x7b" ++ hexNumber c.toNat ++ "\x7d"

/-- A text between quotes. -/
def quoted (s : String) : String := "\"" ++ String.join (s.toList.map escaped) ++ "\""

/-- Texts between brackets. -/
def quotedList (texts : List String) : String := "[" ++ ", ".intercalate (texts.map quoted) ++ "]"

end Adventure.Text
