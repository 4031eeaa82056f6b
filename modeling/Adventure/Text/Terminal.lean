import Adventure.Text.Utf8

/-! # Text for terminals

Text in which control sequences set the style, and the same text for readers that are no terminal.

* `styled` — a text between the sequences that begin and end a style.
* `plain` — what is left of a text without control sequences and control characters. White space
  stays.
* `plain_of_isShownPlain` — a text without either is left as it is.
-/

namespace Adventure.Text.Terminal

/-- The character that begins every control sequence. -/
def escapeChar : Char := '\x1b'

/-- A text in a style of its own, which `code` stands for. -/
def styled (code s : String) : String :=
  s!"{escapeChar}[{code}m{s}{escapeChar}[0m"

/-! ## Control sequences -/

/-- The part of a control sequence that a character may stand in. -/
inductive Place where
  /-- No sequence. -/
  | text
  /-- Behind the escape character. -/
  | escape
  /-- Behind the first of the characters that go before the last one of a short sequence. -/
  | escapeMore
  /-- In a sequence with parameters. -/
  | control
  /-- At the start of a sequence for a device. -/
  | device
  /-- In the parameters of one. -/
  | deviceParameters
  /-- In what stands between the parameters and the data. -/
  | deviceMore
  /-- In text that is not for the screen. -/
  | hidden
  /-- In a command to the terminal. -/
  | command
  deriving DecidableEq, Repr

/-- White space of ASCII other than the space itself. -/
def isBreak (c : Char) : Bool := c = '\t' || c = '\n' || c = '\x0c' || c = '\r'

/-- Whether a character shows when there is no sequence. -/
def isShownPlain (c : Char) : Bool := isBreak c || (' ' ≤ c && c ≠ '\x7f')

namespace Place

/-- Whether a character shows. Inside of sequences only breaks do, and not in every kind. -/
def shows : Place → Char → Bool
  | text, c => isShownPlain c
  | escape, c | escapeMore, c | control, c => isBreak c
  | _, _ => false

/-- Whether the byte that ends hidden text is among the bytes of `c`. -/
def hasTerminator (c : Char) : Bool := (Utf8.encode c.toString).contains 0x9C

/-- The place behind `c`, unless it shows. -/
def next (p : Place) (c : Char) : Place :=
  if c = '\x18' || c = '\x1a' then text
  else if c = escapeChar then escape
  else match p with
    | text => text
    | escape =>
      if ' ' ≤ c ∧ c ≤ '/' then escapeMore
      else if c = '[' then control
      else if c = ']' then command
      else if c = 'P' then device
      else if c = 'X' ∨ c = '^' ∨ c = '_' then hidden
      else if '0' ≤ c ∧ c ≤ '~' then text
      else escape
    | escapeMore => if '0' ≤ c ∧ c ≤ '~' then text else escapeMore
    | control => if '@' ≤ c ∧ c ≤ '~' then text else control
    | device =>
      if ' ' ≤ c ∧ c ≤ '/' then deviceMore
      else if '0' ≤ c ∧ c ≤ '?' then deviceParameters
      else if '@' ≤ c ∧ c ≤ '~' then hidden
      else device
    | deviceParameters =>
      if ' ' ≤ c ∧ c ≤ '/' then deviceMore
      else if '<' ≤ c ∧ c ≤ '~' then hidden
      else deviceParameters
    | deviceMore => if '0' ≤ c ∧ c ≤ '~' then hidden else deviceMore
    | hidden => if hasTerminator c then text else hidden
    | command => if c = '\x07' then text else command

end Place

/-! ## Plain text -/

/-- What shows of a text that begins at `p`. Behind a character that showed, characters show as
outside of sequences; the sequence goes on behind the first that does not, unless a character
beyond ASCII has shown. -/
def plainFrom (p : Place) (afterShown : Bool) : List Char → List Char
  | [] => []
  | c :: rest =>
    if (if afterShown then Place.text else p).shows c then
      c :: plainFrom (if c.toNat < 0x80 then p else .text) true rest
    else plainFrom (p.next c) false rest

/-- What shows of a text. -/
def plain (s : String) : String := String.ofList (plainFrom .text false s.toList)

theorem plainFrom_text {cs : List Char} (h : ∀ c ∈ cs, isShownPlain c) (afterShown : Bool) :
    plainFrom .text afterShown cs = cs := by
  induction cs generalizing afterShown with
  | nil => rfl
  | cons c rest ih =>
    have here : Place.text.shows c = true := h c (by simp)
    have behind : ∀ d ∈ rest, isShownPlain d := fun d hd => h d (by simp [hd])
    simp [plainFrom, here, ih behind]

/-- Text without control characters has nothing to lose. -/
theorem plain_of_isShownPlain {s : String} (h : ∀ c ∈ s.toList, isShownPlain c) : plain s = s := by
  simp [plain, plainFrom_text h]

end Adventure.Text.Terminal
