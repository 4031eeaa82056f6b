import Adventure.Json.Value

/-! # Writing JSON

* `Value.compact` — without white space.
* `Value.pretty` — one item a line, two spaces deeper at each level; what is empty stays on one
  line.
* `quoted` — a string between quotes. Control characters, the quote and the backslash are escaped;
  all other characters stand as they are.
-/

namespace Adventure.Json

/-- A hexadecimal digit in lower case. -/
def hexDigit (n : Nat) : Char := if n < 10 then Char.ofNat (0x30 + n) else Char.ofNat (0x57 + n)

/-- A character as it stands in a string. -/
def escaped (c : Char) : List Char :=
  if c = '"' then ['\\', '"']
  else if c = '\\' then ['\\', '\\']
  else if c = '\n' then ['\\', 'n']
  else if c = '\r' then ['\\', 'r']
  else if c = '\t' then ['\\', 't']
  else if c.toNat = 0x08 then ['\\', 'b']
  else if c.toNat = 0x0C then ['\\', 'f']
  else if c.toNat < 0x20 then
    ['\\', 'u', '0', '0', hexDigit (c.toNat / 16), hexDigit (c.toNat % 16)]
  else [c]

/-- A text between quotes. -/
def quoted (s : String) : String := String.ofList ('"' :: s.toList.flatMap escaped ++ ['"'])

namespace Value

/-- The text of a value that has no parts; the empty text for the others. -/
def scalarText : Value → String
  | null => "null"
  | bool true => "true"
  | bool false => "false"
  | int i => toString i
  | real literal => literal
  | str s => quoted s
  | meaningless => "null"
  | arr _ | obj _ => ""

mutual

/-- The text without white space. -/
def compact : Value → String
  | arr items => "[" ++ compactItems items ++ "]"
  | obj members => "\x7b" ++ compactMembers members ++ "\x7d"
  | v => v.scalarText

/-- The items of an array, commas between. -/
def compactItems : List Value → String
  | [] => ""
  | [v] => v.compact
  | v :: rest => v.compact ++ "," ++ compactItems rest

/-- The members of an object, commas between. -/
def compactMembers : List (String × Value) → String
  | [] => ""
  | [(key, v)] => quoted key ++ ":" ++ v.compact
  | (key, v) :: rest => quoted key ++ ":" ++ v.compact ++ "," ++ compactMembers rest

end

/-- A new line that is `depth` levels deep. -/
def newline (depth : Nat) : String := "\n" ++ String.ofList (List.replicate (2 * depth) ' ')

mutual

/-- The text with one item a line; `depth` is the level of the line it starts on. -/
def indented (depth : Nat) : Value → String
  | arr [] => "[]"
  | obj [] => "\x7b\x7d"
  | arr items => "[" ++ indentedItems (depth + 1) items ++ newline depth ++ "]"
  | obj members => "\x7b" ++ indentedMembers (depth + 1) members ++ newline depth ++ "\x7d"
  | v => v.scalarText

/-- The items of an array, each on a line of its own. -/
def indentedItems (depth : Nat) : List Value → String
  | [] => ""
  | [v] => newline depth ++ v.indented depth
  | v :: rest => newline depth ++ v.indented depth ++ "," ++ indentedItems depth rest

/-- The members of an object, each on a line of its own. -/
def indentedMembers (depth : Nat) : List (String × Value) → String
  | [] => ""
  | [(key, v)] => newline depth ++ quoted key ++ ": " ++ v.indented depth
  | (key, v) :: rest =>
    newline depth ++ quoted key ++ ": " ++ v.indented depth ++ "," ++ indentedMembers depth rest

end

/-- The text with one item a line. -/
def pretty (v : Value) : String := v.indented 0

end Value

end Adventure.Json
