import Adventure.Game.Bundle
import Adventure.Proofs.Json.Shape
import Adventure.Proofs.NameTable

/-! # The data of a game in JSON

Each kind of record that a game is made of is read as what was written: clips, characters with
their block of integers, panels but for their order of drawing, schemas and maps of texts, compiled
scripts and plugins.
-/

namespace Adventure

open Json Json.Shape

/-! ## Custom properties -/

namespace Property

theorem Kind.lawful : Kind.shape.Lawful :=
  lawful_choice (fun kind => by cases kind <;> simp [Kind.all]) (by simp [Kind.all, Kind.name])

theorem Declaration.lawful : Declaration.shape.Lawful :=
  lawful_record (by simp) fun d => by simp [Kind.lawful]

/-- Declarations are listed by their names, which are all different. -/
theorem Schema.lawful : Schema.shape.Lawful := Declaration.lawful.list.via NameTable.ofList_toList

end Property

/-- A map is written by exact spelling. Spellings that differ are not taken for one another, since
no two of a map are of one name. -/
theorem PropertyMap.lawful : PropertyMap.shape.Lawful := by
  intro m
  have texts : (m.bySpelling.toList.map fun p => (p.1, Value.str p.2)).mapM
      (fun p => (Shape.text.read? p.2).bind fun text => some (p.1, text)) =
        some m.bySpelling.toList := by
    rw [List.mapM_map]
    exact (mapM_eq_some_map fun p _ => rfl).trans (congrArg some (List.map_id _))
  show ((m.bySpelling.toList.map fun p => (p.1, Value.str p.2)).mapM
    fun p => (Shape.text.read? p.2).bind fun text => some (p.1, text)).bind
      (fun texts => some (ofSpellings (texts.foldl (fun m p => m.insert p.1 p.2) ∅))) = some m
  rw [texts, Option.bind_some]
  rw [← Std.ExtTreeMap.ofList_eq_foldl, ofList_of_perm (.refl _), ofSpellings_bySpelling]

namespace Game

/-! ## Characters -/

namespace Character

theorem readFields_words (slots : List Slot) (fields : List (Json.Field Character))
    (given : List (Option Value)) (c s : Character) :
    readFields (slots.map wordField ++ fields)
        (slots.map (fun slot => some ((wordField slot).write c)) ++ given) s =
      readFields fields given (slots.foldl (fun s slot => s.set slot (c.words.get slot)) s) := by
  induction slots generalizing s with
  | nil => rfl
  | cons slot slots hyp => exact (readFields_field lawful_int32).trans (hyp _)

theorem foldl_set (slots : List Slot) (c s : Character) :
    slots.foldl (fun s slot => s.set slot (c.words.get slot)) s =
      { s with
        words := slots.foldl (fun w (slot : Slot) => w.set slot (c.words.get slot) slot.isLt)
          s.words } := by
  induction slots generalizing s with
  | nil => rfl
  | cons slot slots hyp => exact hyp _

section Words

variable {n : Nat}

theorem get_set (w : Vector Int32 n) (slot i : Fin n) (value : Int32) :
    (w.set slot value slot.isLt).get i = if slot = i then value else w.get i := by
  simp only [Fin.ext_iff]
  exact Vector.getElem_set slot.isLt i.isLt

theorem get_foldl_set {v w : Vector Int32 n} {slots : List (Fin n)} {i : Fin n}
    (covered : i ∈ slots ∨ w.get i = v.get i) :
    (slots.foldl (fun w (slot : Fin n) => w.set slot (v.get slot) slot.isLt) w).get i =
      v.get i := by
  induction slots generalizing w with
  | nil => exact covered.resolve_left List.not_mem_nil
  | cons slot slots hyp =>
    refine hyp ?_
    rw [get_set]
    by_cases here : slot = i
    · rw [if_pos here, here]
      exact .inr rfl
    · rw [if_neg here]
      exact covered.imp_left fun member => List.mem_of_ne_of_mem (Ne.symm here) member

/-- Setting every word of a block makes the block. -/
theorem foldl_set_finRange (v w : Vector Int32 n) :
    (List.finRange n).foldl (fun w (slot : Fin n) => w.set slot (v.get slot) slot.isLt) w = v := by
  ext i below
  exact get_foldl_set (i := ⟨i, below⟩) (.inl (List.mem_finRange _))

end Words

theorem lawful : shape.Lawful := by
  refine lawful_record (by decide +kernel) fun c => ?_
  simp only [List.map_append, List.map_cons, List.map_nil, List.map_map, List.cons_append,
    List.nil_append, field_write, readFields_field lawful_text]
  -- the words stand between the names and the items
  refine (readFields_words _ _ _ c _).trans ?_
  rw [foldl_set, foldl_set_finRange]
  simp

end Character

/-! ## Panels -/

theorem Control.lawful : Control.shape.Lawful := by
  have kind : ControlKind.shape.Lawful :=
    lawful_choice (fun kind => by cases kind <;> simp) (by simp [ControlKind.name])
  exact lawful_record (by simp) fun c => by simp [kind]

/-- A panel as it is stored: the order of drawing is none of its data. -/
def Gui.stored (g : Gui) : Gui := { g with controlDrawOrder := [] }

theorem Gui.read_write (g : Gui) : Gui.shape.read? (Gui.shape.write g) = some g.stored := by
  have style : PopupStyle.shape.Lawful :=
    lawful_choice (fun style => by cases style <;> simp) (by simp [PopupStyle.name])
  rw [Gui.shape, record_read_write _ (by simp)]
  simp [style, Control.lawful, Gui.stored]

/-! ## Other records -/

theorem AudioClass.lawful : AudioClass.shape.Lawful := lawful_record (by simp) fun c => by simp

theorem AudioClip.lawful : AudioClip.shape.Lawful := lawful_record (by simp) fun c => by simp

theorem Resolution.lawful : Resolution.shape.Lawful :=
  lawful_choice (fun r => by cases r <;> simp [Resolution.all])
    (by simp [Resolution.all, Resolution.name])

theorem Options.lawful : Options.shape.Lawful := lawful_record (by simp) fun o => by simp

theorem Font.lawful : Font.shape.Lawful := lawful_record (by simp) fun f => by simp

theorem Dialog.lawful : Dialog.shape.Lawful := lawful_record (by simp) fun d => by simp

theorem Item.lawful : Item.shape.Lawful := lawful_record (by simp) fun i => by simp

end Game

theorem Script.Module.lawful : Script.Module.shape.Lawful :=
  lawful_record (by simp) fun m => by simp

theorem Plugin.Info.lawful : Plugin.Info.shape.Lawful := lawful_record (by simp) fun i => by simp

end Adventure
