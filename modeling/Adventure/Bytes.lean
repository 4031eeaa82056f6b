import Adventure.Number

/-! # Raw data

Data as it stands in files: lists of bytes, read from the front.
-/

namespace Adventure

/-- Raw data. -/
abbrev Bytes := List UInt8

namespace Bytes

/-- Whether there are `n` bytes. Looks at no more than that. -/
def hasAtLeast : (n : Nat) → Bytes → Bool
  | 0, _ => true
  | _ + 1, [] => false
  | n + 1, _ :: rest => hasAtLeast n rest

theorem hasAtLeast_eq (n : Nat) (bytes : Bytes) :
    hasAtLeast n bytes = decide (n ≤ bytes.length) := by
  fun_induction hasAtLeast n bytes with
  | case1 => simp
  | case2 => simp
  | case3 n _ rest ih => simp [ih]

/-- The next `n` bytes and the rest, if there are so many. -/
def split? (n : Nat) (bytes : Bytes) : Option (Bytes × Bytes) :=
  if hasAtLeast n bytes then some (bytes.take n, bytes.drop n) else none

theorem split?_append (front rest : Bytes) :
    split? front.length (front ++ rest) = some (front, rest) := by
  simp [split?, hasAtLeast_eq]

end Bytes

end Adventure
