import Adventure.Json.Shape
import Adventure.Property

/-! # Custom properties in JSON

A schema is an array of declarations. Of two declarations with one name the later stays.

A map of texts is an object. Of two members with the same key the later counts; the keys are then
taken in the order of their code points, and of two spellings of a name the first stays with the
text of the last.
-/

namespace Adventure

open Json Std

namespace Property

def Kind.shape : Shape Kind := Shape.choice Kind.name Kind.all

/-- Name and type are required. -/
def Declaration.shape : Shape Declaration :=
  .record { name := "", kind := .integer } [
    requiredField "name" .text (·.name) (fun x d => { d with name := x }),
    requiredField "type" Kind.shape (·.kind) (fun x d => { d with kind := x }),
    field "description" .text (·.description) (fun x d => { d with description := x }),
    field "default_value" .text (·.default) (fun x d => { d with default := x })]

def Schema.shape : Shape Schema := (Shape.list Declaration.shape).via (·.toList) NameTable.ofList

end Property

namespace PropertyMap

def shape : Shape PropertyMap where
  write m := .obj (m.bySpelling.toList.map fun (name, text) => (name, .str text))
  read?
    | .obj members => do
      let texts ← members.mapM fun (name, v) => return (name, ← Shape.text.read? v)
      return ofSpellings (texts.foldl (fun m (name, text) => m.insert name text) ∅)
    | _ => none

end PropertyMap

end Adventure
