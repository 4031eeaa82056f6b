import Std.Data.ExtTreeMap
import Adventure.Number
import Adventure.Text.Fold

/-! # Tables of named things

A `NameTable` holds things that have a name and finds them without regard to the case of ASCII
letters. It lists them in the order of their folded names.

* `put` replaces whatever goes by the same name.
* `PropertyMap` — the table of texts by name that keeps the first spelling of a name when the
  text is replaced.
-/

namespace Adventure

open Std (ExtTreeMap)

/-- Things of type `α` by their folded names. -/
structure NameTable (α : Type) (name : α → String) where
  entries : ExtTreeMap String α
  /-- Each thing stands under its own name. -/
  named : ∀ key a, entries[key]? = some a → Text.fold (name a) = key

namespace NameTable

variable {α : Type} {name : α → String}

/-- The table that holds nothing. -/
def empty : NameTable α name where
  entries := ∅
  named := by simp

instance : EmptyCollection (NameTable α name) := ⟨empty⟩
instance : Inhabited (NameTable α name) := ⟨empty⟩

/-- The thing called `n` in any spelling. -/
def get? (t : NameTable α name) (n : String) : Option α := t.entries[Text.fold n]?

def contains (t : NameTable α name) (n : String) : Bool := (t.get? n).isSome

/-- Adds `a` in place of whatever has its name. -/
def put (t : NameTable α name) (a : α) : NameTable α name where
  entries := t.entries.insert (Text.fold (name a)) a
  named key b h := by
    rw [ExtTreeMap.getElem?_insert] at h
    split at h
    · next eq => simp_all
    · exact t.named key b h

/-- Removes what is called `n`. -/
def erase (t : NameTable α name) (n : String) : NameTable α name where
  entries := t.entries.erase (Text.fold n)
  named key b h := by
    rw [ExtTreeMap.getElem?_erase] at h
    split at h
    · simp at h
    · exact t.named key b h

def size (t : NameTable α name) : Nat := t.entries.size

def isEmpty (t : NameTable α name) : Bool := t.entries.isEmpty

/-- All things, ascending by folded name. -/
def toList (t : NameTable α name) : List α := t.entries.toList.map (·.2)

/-- The table of `things`; of two with one name the later stays. -/
def ofList (things : List α) : NameTable α name := things.foldl put empty

end NameTable

/-! ## Texts by name -/

/-- A text with the spelling of the name it was first given under. -/
structure Binding where
  name : String
  text : String
  deriving DecidableEq, Repr

/-- Texts by name. -/
abbrev PropertyMap := NameTable Binding Binding.name

namespace PropertyMap

/-- The text called `n`. -/
def text? (m : PropertyMap) (n : String) : Option String := (m.get? n).map (·.text)

/-- Binds `n` to `text`. The spelling stays that of the first binding. -/
def set (m : PropertyMap) (n text : String) : PropertyMap :=
  m.put ⟨((m.get? n).map (·.name)).getD n, text⟩

/-- Binds `n` to `text`, and gives the text that had its place. -/
def replace (m : PropertyMap) (n text : String) : Option String × PropertyMap :=
  match m.get? n with
  | some b => (some b.text, m.put { b with text })
  | none => (none, m.put ⟨n, text⟩)

/-- The map of `pairs`, bound one after the other. -/
def ofPairs (pairs : List (String × String)) : PropertyMap :=
  pairs.foldl (fun m p => m.set p.1 p.2) ∅

/-- Spellings and texts, ascending by folded name. -/
def toPairs (m : PropertyMap) : List (String × String) := m.toList.map fun b => (b.name, b.text)

/-- The same texts by exact spelling, in the order of the spellings. -/
def bySpelling (m : PropertyMap) : ExtTreeMap String String := ExtTreeMap.ofList m.toPairs

/-- The map of texts by exact spelling: of two spellings of a name the lesser is kept, with the
text of the greater. -/
def ofSpellings (texts : ExtTreeMap String String) : PropertyMap := ofPairs texts.toList

end PropertyMap

end Adventure
