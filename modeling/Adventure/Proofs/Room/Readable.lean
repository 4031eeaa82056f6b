import Adventure.Proofs.Room.Area
import Adventure.Proofs.Room.Truncation

/-! # Which of the files that are written can be read

A writer asks that a room has one frame where the revision stores no number of frames, and asks
nothing about frames otherwise. A reader wants at least one.

* `validate_asStored` — a room that can be run can still be run when it has been stored.
* `exists_decode_iff` — a file that has been written is read exactly if its room has a frame.
-/

namespace Adventure.Room

variable {r : Room} {v : Version} {bytes : Bytes}

theorem primaryBackground_asStored (v : Version) (r : Room) :
    (r.asStored v).primaryBackground = r.primaryBackground := by
  unfold primaryBackground
  rw [asStored, Capped.map, List.head?_map]
  cases r.frames.toList.head? with
  | none => rfl
  | some f => rfl

theorem one_le_kept {first v : Version} {resolution : Int32} {inferred : Prop} [Decidable inferred]
    (positive : 1 ≤ resolution) : 1 ≤ kept first v resolution (if inferred then 2 else 1) := by
  unfold kept
  split
  · exact positive
  · split <;> decide

/-- No revision stores a room that can be run as one that cannot. -/
theorem validate_asStored (v : Version) (valid : r.validate = .ok ()) :
    (r.asStored v).validate = .ok () := by
  obtain ⟨positive, few, large, small, fits⟩ := validate_eq_ok_iff.mp valid
  refine validate_eq_ok_iff.mpr ⟨one_le_kept positive, ?_, large, small, ?_⟩
  · rwa [asStored, List.length_map]
  · rwa [primaryBackground_asStored]

/-- Of the rooms that can be run, exactly those with a frame are read from the files that they have
been written to. -/
theorem exists_decode_iff (valid : r.validate = .ok ()) (saved : r.encode v = .ok bytes) :
    (∃ s, decode bytes = .ok s) ↔ r.frames.toList ≠ [] := by
  obtain ⟨body, writable, wrote, rfl⟩ := encode_eq_ok saved
  constructor
  · rintro ⟨s, decoded⟩ unframed
    obtain ⟨supported, -⟩ := checkWritable_eq_ok_iff.mp writable
    obtain ⟨w, found, rest, marked, read, -⟩ := decode_eq_ok_iff.mp decoded
    rw [readVersion_append supported body] at marked
    obtain ⟨rfl, rfl⟩ := Prod.mk.inj (Except.ok.inj marked)
    -- the codec has written what no reader takes
    obtain ⟨fault, -, refused⟩ := roomCodec_refuses writable unframed body wrote []
    rw [List.append_nil] at refused
    cases refused.symm.trans read
  · intro framed
    exact ⟨_, decode_of_write writable framed wrote (validate_asStored v valid)⟩

theorem exists_decode_cellar : cellar.validate = .ok () ∧
    ∃ bytes, cellar.encode ⟨22⟩ = .ok bytes ∧
      ((∃ s, decode bytes = .ok s) ↔ cellar.frames.toList ≠ []) := by
  obtain ⟨bytes, saved⟩ : ∃ bytes, cellar.encode ⟨22⟩ = .ok bytes := ⟨_, rfl⟩
  exact ⟨rfl, bytes, saved, exists_decode_iff rfl saved⟩

def frameless : Room := { frames := ∅ }

/-- A room without frames can be run, is written, and is not read again. -/
theorem decode_encode_frameless : frameless.validate = .ok () ∧
    ∃ bytes, frameless.encode .current = .ok bytes ∧
      decode bytes = .error (.badFrameCount 0 5) :=
  ⟨rfl, _, rfl, rfl⟩

end Adventure.Room
