import Adventure.Proofs.Registry.Coherent
import Adventure.Proofs.Registry.Offsets

/-! # Where numbers are too big for their bits

Of all that scripts do with handles and arrays, counting references alone can need a number that
does not fit its bits.

* `Bounded.addReference_eq_overflow_iff` — when it does.
* `readField_ne_overflow`, `writeField_ne_overflow`, … — nothing else does.
-/

namespace Adventure

variable {absent : Registry.Fault}

/-! ## Records -/

theorem Record.read_ne_overflow (r : Record) (offset : Int) :
    r.read offset ≠ .error .overflow := by
  unfold Record.read
  split
  · exact nofun
  · exact nofun

theorem Record.write_ne_overflow (r : Record) (offset : Int) (v : Int32) :
    r.write offset v ≠ .error .overflow := by
  unfold Record.write
  rw [except_map_ne_error]
  rcases writeInPlace_cases r offset v with ⟨fault, refused, other, -⟩ | ⟨i, -, -, wrote⟩
  · rw [InPlace.result_of_error refused]
    exact fun same => other (Except.error.inj same)
  · rw [InPlace.result_of_ok wrote]
    exact nofun

theorem World.read_ne_overflow (known : absent ≠ .overflow) (w : World) (t : Target)
    (offset : Int) : w.read t absent offset ≠ .error .overflow := by
  unfold World.read
  cases w.record? t with
  | none => exact fun same => known (Except.error.inj same)
  | some r => exact r.read_ne_overflow offset

theorem World.write_ne_overflow (known : absent ≠ .overflow) (w : World) (t : Target)
    (offset : Int) (v : Int32) : w.write t absent offset v ≠ .error .overflow := by
  cases found : w.record? t with
  | none =>
    unfold World.write World.writeInPlace
    rw [InPlace.result_onPart, World.record, found]
    exact fun same => known (Except.error.inj same)
  | some r =>
    rw [World.write_of_record? found, except_map_ne_error]
    exact r.write_ne_overflow offset v

/-! ## Arrays -/

theorem SymbolTable.array_ne_overflow (t : SymbolTable) (symbol : String) :
    t.array symbol ≠ .error .overflow := by
  unfold SymbolTable.array
  split
  · exact nofun
  · exact nofun

namespace StaticArray

theorem locate_ne_overflow (a : StaticArray) (offset : Int) :
    a.locate offset ≠ .error .overflow := by
  refine except_bind_ne_error ?_ fun e there => ?_
  · unfold element
    split
    · exact nofun
    · exact nofun
  · split
    · exact nofun
    · exact nofun

theorem missing_ne_overflow (a : StaticArray) (offset : Int) : a.missing offset ≠ .overflow :=
  nofun

theorem read_ne_overflow (a : StaticArray) (w : World) (offset : Int) :
    a.read w offset ≠ .error .overflow :=
  except_bind_ne_error (a.locate_ne_overflow offset) fun place _ =>
    w.read_ne_overflow (a.missing_ne_overflow offset) (.static place.1) place.2

theorem write_ne_overflow (a : StaticArray) (w : World) (offset : Int) (v : Int32) :
    a.write w offset v ≠ .error .overflow := by
  rw [write_eq]
  exact except_bind_ne_error (a.locate_ne_overflow offset) fun place _ =>
    w.write_ne_overflow (a.missing_ne_overflow offset) (.static place.1) place.2 v

end StaticArray

/-! ## Handles -/

namespace Registry

variable {r : Registry} {handle : Handle}

theorem ne_overflow_of_live {fault : Fault} (gone : r.live handle = .error fault) :
    fault ≠ .overflow := by
  rintro rfl
  unfold live at gone
  split at gone
  · cases gone
  · split at gone
    · cases gone
    · cases gone

theorem staleHandle_ne_overflow (handle : Handle) : Fault.staleHandle handle ≠ .overflow := nofun

theorem readField_ne_overflow (r : Registry) (w : World) (handle : Handle) (offset : Int) :
    r.readField w handle offset ≠ .error .overflow := by
  refine except_bind_ne_error ?_ fun l _ =>
    w.read_ne_overflow (staleHandle_ne_overflow handle) l.target offset
  exact fun stops => ne_overflow_of_live stops rfl

theorem writeField_ne_overflow (r : Registry) (w : World) (handle : Handle) (offset : Int)
    (v : Int32) : r.writeField w handle offset v ≠ .error .overflow := by
  cases live : r.live handle with
  | error fault =>
    rw [writeField_eq_error live]
    exact fun same => ne_overflow_of_live live (Except.error.inj same)
  | ok l =>
    rw [writeField_of_live live]
    exact w.write_ne_overflow (staleHandle_ne_overflow handle) l.target offset v

theorem release_ne_overflow (r : Registry) (objects : Arena DynamicObject) (handle : Handle) :
    r.release objects handle ≠ .error .overflow := by
  cases live : r.live handle with
  | error fault =>
    rw [release_eq_error objects live]
    exact fun same => ne_overflow_of_live live (Except.error.inj same)
  | ok l =>
    rcases release_cases objects live with ⟨key, -, -, released⟩ | ⟨-, kept⟩
    · rw [released]
      exact nofun
    · rw [kept]
      exact nofun

theorem Bounded.addReference_eq_overflow_iff (bounded : r.Bounded) :
    r.addReference handle = .error .overflow ↔
      ∃ l, r.live handle = .ok l ∧ l.references = maxReferences := by
  cases live : r.live handle with
  | error fault => simp [addReference_eq_error live, ne_overflow_of_live live]
  | ok l =>
    have most := bounded.references_le (live_eq_ok_iff.mp live)
    by_cases full : maxReferences ≤ l.references
    · simpa [addReference_of_full live full] using Nat.le_antisymm most full
    · have room := Nat.not_le.mp full
      simpa [addReference_eq_ok live room] using Nat.ne_of_lt room

end Registry

end Adventure
