import Mathlib.Data.List.Nodup
import Mathlib.Data.List.Range
import Adventure.Game.Gui

/-! # Orders of drawing

What is drawn first lies below what is drawn later. The indices of panels and controls are sorted by
the value that each index has, and the sort is stable, so that the law of the order is a strict one:
of two indices exactly one lies below the other.

* `ByDepth` — the law.
* `byDepth_drawOrder` — it holds of the order of drawing for any values.
-/

namespace Adventure.Game

/-- Whether `a` lies below `b`: by their values, or by their indices if the values are the same. -/
def Below (zs : List Int32) (a b : Nat) : Prop :=
  ∃ y z : Int32, zs[a]? = some y ∧ zs[b]? = some z ∧ (y < z ∨ y = z ∧ a < b)

/-- Whether `a` stands before `b` in a list. -/
def Precedes (order : List Nat) (a b : Nat) : Prop :=
  ∃ i j : Nat, i < j ∧ order[i]? = some a ∧ order[j]? = some b

/-- The law of an order of drawing: each index is in it once, and of two indices the one that lies
below the other comes first. -/
structure ByDepth (zs : List Int32) (order : List Nat) : Prop where
  perm : order.Perm (List.range zs.length)
  precedes_iff : ∀ a b, Precedes order a b ↔ Below zs a b

variable {zs : List Int32} {order : List Nat} {a b : Nat}

theorem Below.asymm (below : Below zs a b) : ¬ Below zs b a := by
  obtain ⟨y, z, here, there, first⟩ := below
  rintro ⟨z', y', there', here', second⟩
  obtain rfl : z = z' := Option.some.inj (there.symm.trans there')
  obtain rfl : y = y' := Option.some.inj (here.symm.trans here')
  simp only [Int32.lt_iff_toInt_lt, ← Int32.toInt_inj] at first second
  omega

theorem perm_drawOrder (zs : List Int32) : (drawOrder zs).Perm (List.range zs.length) := by
  have sorted := (List.mergeSort_perm zs.zipIdx fun p q => p.1 ≤ q.1).map (·.2)
  rwa [List.zipIdx_map_snd, ← List.range_eq_range'] at sorted

theorem mem_zipIdx_zipIdx {α : Type} {items : List α} {x : α} {i j : Nat}
    (listed : ((x, i), j) ∈ items.zipIdx.zipIdx) : j = i ∧ items[i]? = some x := by
  rw [List.mk_mem_zipIdx_iff_getElem?, List.getElem?_zipIdx, Option.map_eq_some_iff] at listed
  obtain ⟨y, here, same⟩ := listed
  obtain ⟨rfl, rfl⟩ := Prod.mk.inj same
  rw [Nat.zero_add]
  exact ⟨rfl, here⟩

/-- Sorting by values leaves what has the same value in the order of the indices: it is sorting by
values and places, and the place of an index is the index. -/
theorem pairwise_mergeSort_zipIdx (zs : List Int32) :
    (zs.zipIdx.mergeSort fun p q => p.1 ≤ q.1).Pairwise fun p q =>
      p.2 ≠ q.2 → Below zs p.2 q.2 := by
  have trans (p q r : Int32 × Nat) :
      decide (p.1 ≤ q.1) → decide (q.1 ≤ r.1) → decide (p.1 ≤ r.1) := by
    simp only [decide_eq_true_eq]
    exact Int32.le_trans
  have total (p q : Int32 × Nat) : decide (p.1 ≤ q.1) || decide (q.1 ≤ p.1) := by
    simpa using Int32.le_total p.1 q.1
  have sorted := List.pairwise_mergeSort (List.zipIdxLE_trans trans) (List.zipIdxLE_total total)
    zs.zipIdx.zipIdx
  rw [← List.mergeSort_zipIdx, List.pairwise_map]
  refine sorted.imp_of_mem ?_
  rintro ⟨⟨y, i⟩, a⟩ ⟨⟨z, j⟩, b⟩ here there before apart
  obtain ⟨rfl, here⟩ := mem_zipIdx_zipIdx (List.mem_mergeSort.mp here)
  obtain ⟨rfl, there⟩ := mem_zipIdx_zipIdx (List.mem_mergeSort.mp there)
  refine ⟨y, z, here, there, ?_⟩
  -- the comparison by value and place, written out
  replace before : (if decide (y ≤ z) then if decide (z ≤ y) then decide (a ≤ b) else true
      else false) = true := before
  simp only [decide_eq_true_eq, Int32.le_iff_toInt_le, Bool.if_false_right, Bool.if_true_right,
    Bool.and_eq_true, Bool.or_eq_true, Bool.not_eq_true', decide_eq_false_iff_not] at before
  have apart : a ≠ b := apart
  show y < z ∨ y = z ∧ a < b
  simp only [Int32.lt_iff_toInt_lt, ← Int32.toInt_inj]
  omega

theorem pairwise_drawOrder (zs : List Int32) : (drawOrder zs).Pairwise (Below zs) := by
  have distinct : (drawOrder zs).Nodup := (perm_drawOrder zs).nodup_iff.mpr List.nodup_range
  have sorted : (drawOrder zs).Pairwise fun a b => a ≠ b → Below zs a b :=
    List.pairwise_map.mpr (pairwise_mergeSort_zipIdx zs)
  exact (sorted.and distinct).imp fun both => both.1 both.2

theorem byDepth_of_pairwise (perm : order.Perm (List.range zs.length))
    (sorted : order.Pairwise (Below zs)) : ByDepth zs order := by
  have rises {a b : Nat} (before : Precedes order a b) : Below zs a b := by
    obtain ⟨i, j, less, here, there⟩ := before
    obtain ⟨low, rfl⟩ := List.getElem?_eq_some_iff.mp here
    obtain ⟨high, rfl⟩ := List.getElem?_eq_some_iff.mp there
    exact List.pairwise_iff_getElem.mp sorted i j low high less
  have exists_place {a : Nat} {y : Int32} (here : zs[a]? = some y) :
      ∃ i : Nat, order[i]? = some a := by
    rw [← List.mem_iff_getElem?, perm.mem_iff, List.mem_range]
    exact (List.getElem?_eq_some_iff.mp here).1
  refine ⟨perm, fun a b => ⟨rises, fun below => ?_⟩⟩
  -- both stand somewhere, and the other way round would be below the other way round
  obtain ⟨y, z, low, high, -⟩ := id below
  obtain ⟨i, here⟩ := exists_place low
  obtain ⟨j, there⟩ := exists_place high
  rcases Nat.lt_trichotomy i j with before | rfl | behind
  · exact ⟨i, j, before, here, there⟩
  · obtain rfl := Option.some.inj (here.symm.trans there)
    exact absurd below below.asymm
  · exact absurd below (rises ⟨j, i, behind, there, here⟩).asymm

/-- Panels and controls are drawn from the lowest to the highest. -/
theorem byDepth_drawOrder (zs : List Int32) : ByDepth zs (drawOrder zs) :=
  byDepth_of_pairwise (perm_drawOrder zs) (pairwise_drawOrder zs)

example : drawOrder [3, -1, 3, -1, 0] = [1, 3, 4, 0, 2] := by cbv

end Adventure.Game
