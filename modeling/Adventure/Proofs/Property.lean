import Mathlib.Tactic.IntervalCases
import Adventure.Property
import Adventure.Proofs.Except
import Adventure.Proofs.NameTable

/-! # What custom properties read

* `leadingInteger_toString` — a number that is written as a text is read again as the same number.
* `resolve_of_get?` — which accessors a declared property suits.
* `valueOf_congr` — what a declared property of an entity has is found under every spelling.
-/

namespace Adventure.Property

/-! ## Numbers in texts -/

theorem leadingDigits_of_isDigit {text : List Char} (digits : ∀ c ∈ text, c.isDigit) :
    leadingDigits 10 text = text.map fun c => c.toNat - '0'.toNat := by
  induction text with
  | nil => rfl
  | cons c rest hyp =>
    obtain ⟨digit, later⟩ := List.forall_mem_cons.mp digits
    have value : Text.digit? 10 c = some (c.toNat - '0'.toNat) := by
      have range : '0' ≤ c ∧ c ≤ '9' := by
        rwa [Char.isDigit, Bool.and_eq_true, decide_eq_true_eq, decide_eq_true_eq] at digit
      have high : c.toNat ≤ 57 := range.2
      have small : c.toNat - '0'.toNat < 10 := by
        show c.toNat - 48 < 10
        omega
      simp only [Text.digit?, if_pos range, Option.filter_some, small, decide_true, if_true]
    rw [leadingDigits, value, hyp later, List.map_cons]

/-- The limit is applied at every step, and to the whole the same as once in the end. -/
theorem boundedValue_eq_min {radix : Nat} (positive : 0 < radix) (digits : List Nat) :
    boundedValue radix digits =
      min (digits.foldl (fun n d => radix * n + d) 0) magnitudeLimit := by
  have steps (first : Nat) :
      digits.foldl (fun n d => min (min (n * radix) magnitudeLimit + d) magnitudeLimit)
          (min first magnitudeLimit) =
        min (digits.foldl (fun n d => radix * n + d) first) magnitudeLimit := by
    induction digits generalizing first with
    | nil => rfl
    | cons d rest hyp =>
      rw [List.foldl_cons, List.foldl_cons, ← hyp]
      congr 1
      have grown : first ≤ radix * first := Nat.le_mul_of_pos_left first positive
      rcases Nat.le_total first magnitudeLimit with below | beyond
      · rw [Nat.min_eq_left below, Nat.mul_comm]
        omega
      · have full : magnitudeLimit ≤ magnitudeLimit * radix := Nat.le_mul_of_pos_right _ positive
        rw [Nat.min_eq_right beyond]
        omega
  exact steps 0

theorem boundedValue_toDigits {n : Nat} (below : n ≤ magnitudeLimit) :
    boundedValue 10 (leadingDigits 10 (Nat.toDigits 10 n)) = n := by
  have digits : leadingDigits 10 (Nat.toDigits 10 n) = _ := leadingDigits_of_isDigit fun c listed =>
    Nat.isDigit_of_mem_toDigits (by decide) (by decide) listed
  have value : ((Nat.toDigits 10 n).map fun c => c.toNat - '0'.toNat).foldl
      (fun n d => 10 * n + d) 0 = n := by
    rw [List.foldl_map, ← Nat.ofDigitChars_eq_foldl, Nat.ofDigitChars_ten_toDigits]
  rw [digits, boundedValue_eq_min (by decide), value, Nat.min_eq_left below]

/-- A positive number is written without a zero in front. -/
theorem head?_toDigits_ne_zero {n : Nat} (positive : 0 < n) :
    (Nat.toDigits 10 n).head? ≠ some '0' := by
  induction n using Nat.strongRecOn with
  | ind n hyp =>
    rw [Nat.toDigits_eq_if (by decide)]
    split
    · next small => interval_cases n <;> decide
    · next large =>
      have first := hyp (n / 10) (by omega) (by omega)
      cases written : Nat.toDigits 10 (n / 10) with
      | nil => exact absurd written Nat.toDigits_ne_nil
      | cons c rest => rwa [written] at first

theorem radix_of_head? {text : List Char} (other : text.head? ≠ some '0') :
    radix text = (10, text) := by
  unfold radix
  split
  · exact absurd rfl other
  · exact absurd rfl other
  · rfl

theorem magnitude_toDigits {n : Nat} (below : n ≤ magnitudeLimit) :
    let (base, rest) := radix (Nat.toDigits 10 n)
    boundedValue base (leadingDigits base rest) = n := by
  rcases Nat.eq_zero_or_pos n with rfl | positive
  -- zero alone begins with a zero, which announces octal digits
  · rfl
  · rw [radix_of_head? (head?_toDigits_ne_zero positive)]
    exact boundedValue_toDigits below

theorem isBlank_of_isDigit {c : Char} (digit : c.isDigit) : Text.isBlank c = false := by
  have range : 48 ≤ c.toNat ∧ c.toNat ≤ 57 := by
    rwa [Char.isDigit, Bool.and_eq_true, decide_eq_true_eq, decide_eq_true_eq] at digit
  simp [Text.isBlank]
  omega

theorem sign_of_isDigit {c : Char} (digit : c.isDigit) (rest : List Char) :
    sign (c :: rest) = (false, c :: rest) := by
  unfold sign
  split
  · next minus =>
    obtain ⟨rfl, -⟩ := List.cons.inj minus
    cases digit
  · next plus =>
    obtain ⟨rfl, -⟩ := List.cons.inj plus
    cases digit
  · rfl

/-- What is written without a sign is read without one. -/
theorem sign_trimStart_toDigits (n : Nat) :
    sign (Text.trimStart (Nat.toDigits 10 n)) = (false, Nat.toDigits 10 n) := by
  have digits : ∀ c ∈ Nat.toDigits 10 n, c.isDigit := fun c listed =>
    Nat.isDigit_of_mem_toDigits (by decide) (by decide) listed
  cases written : Nat.toDigits 10 n with
  | nil => exact absurd written Nat.toDigits_ne_nil
  | cons c rest =>
    have digit : c.isDigit := digits c (by rw [written]; exact List.mem_cons_self)
    rw [Text.trimStart, List.dropWhile_cons_of_neg (by simp [isBlank_of_isDigit digit]),
      sign_of_isDigit digit]

theorem clampInt32_toInt (v : Int32) : clampInt32 v.toInt = v := by
  have low := v.le_toInt
  have high := v.toInt_lt
  rw [clampInt32, Int.min_eq_left (by omega), Int.max_eq_right (by omega), Int32.ofInt_toInt]

theorem leadingInteger_of_digits {text : List Char} {negative : Bool} {n : Nat}
    (signed : sign (Text.trimStart text) = (negative, Nat.toDigits 10 n))
    (below : n ≤ magnitudeLimit) :
    leadingInteger (String.ofList text) = clampInt32 (if negative then -(n : Int) else n) := by
  have magnitude := magnitude_toDigits below
  simp only [leadingInteger, String.toList_ofList, signed]
  simp only at magnitude
  rw [magnitude]

/-- A number is read from its own text. -/
theorem leadingInteger_toString (v : Int32) : leadingInteger (toString v.toInt) = v := by
  have low := v.le_toInt
  have high := v.toInt_lt
  have limit : magnitudeLimit = 9223372036854775807 := rfl
  rw [Int.toString_eq_repr, Int.repr_eq_if, Nat.repr_eq_ofList_toDigits,
    Nat.repr_eq_ofList_toDigits]
  split
  · next positive =>
    rw [leadingInteger_of_digits (sign_trimStart_toDigits _) (by omega)]
    simp only [Bool.false_eq_true, if_false, Int.toNat_of_nonneg positive, clampInt32_toInt]
  · next negative =>
    have signed : sign (Text.trimStart ('-' :: Nat.toDigits 10 (-v.toInt).toNat)) =
        (true, Nat.toDigits 10 (-v.toInt).toNat) := rfl
    rw [show ("-" : String) = String.ofList ['-'] from rfl, ← String.ofList_append,
      List.singleton_append, leadingInteger_of_digits signed (by omega)]
    simp only [if_true, Int.toNat_of_nonneg (show 0 ≤ -v.toInt by omega), Int.neg_neg,
      clampInt32_toInt]

/-! ## Declarations and layers -/

variable {schema : Schema} {name : String} {d : Declaration} {wanted : Kind}

theorem resolve_of_get? (declared : schema.get? name = some d)
    (suits : d.kind.isText = wanted.isText) : schema.resolve name wanted = .ok d := by
  rw [Schema.resolve, declared]
  exact if_pos suits

theorem resolve_eq_ok (resolved : schema.resolve name wanted = .ok d) :
    schema.get? name = some d ∧ d.kind.isText = wanted.isText := by
  unfold Schema.resolve at resolved
  split at resolved
  · cases resolved
  · next found declared =>
    split at resolved
    · next suits =>
      obtain rfl := Except.ok.inj resolved
      exact ⟨declared, suits⟩
    · cases resolved

theorem resolve_eq_ok_iff : schema.resolve name wanted = .ok d ↔
    (d ∈ schema.toList ∧ Text.fold d.name = Text.fold name) ∧ d.kind.isText = wanted.isText := by
  rw [← NameTable.get?_eq_some_iff]
  exact ⟨resolve_eq_ok, fun ⟨declared, suits⟩ => resolve_of_get? declared suits⟩

theorem resolve_eq_unknown_iff : schema.resolve name wanted = .error (.unknown name) ↔
    ∀ d ∈ schema.toList, Text.fold d.name ≠ Text.fold name := by
  rw [← NameTable.get?_eq_none_iff, Schema.resolve]
  cases schema.get? name with
  | none => simp
  | some d => by_cases suits : d.kind.isText = wanted.isText <;> simp [suits]

theorem resolve_eq_mismatch_iff : schema.resolve name wanted = .error (.mismatch name wanted) ↔
    ∃ d ∈ schema.toList, Text.fold d.name = Text.fold name ∧ d.kind.isText ≠ wanted.isText := by
  simp only [← and_assoc, ← NameTable.get?_eq_some_iff, Schema.resolve]
  cases schema.get? name with
  | none => simp
  | some d => by_cases suits : d.kind.isText = wanted.isText <;> simp [suits]

theorem resolve_ne_noEntity (schema : Schema) (name what : String) (wanted : Kind) :
    schema.resolve name wanted ≠ .error (.noEntity what) := by
  unfold Schema.resolve
  split
  · exact nofun
  · split
    · exact nofun
    · exact nofun

/-- A property has the name that it was asked for, up to the spelling. -/
theorem fold_name_of_get? (declared : schema.get? name = some d) :
    Text.fold d.name = Text.fold name :=
  schema.named _ d declared

/-- The text of a property is that of the layers under any spelling of its name. -/
theorem valueOf_congr {l m : Layers} (authored : l.authored = m.authored)
    (declared : schema.get? name = some d)
    (overrides : l.overrides.text? name = m.overrides.text? name) : l.valueOf d = m.valueOf d := by
  have spelling := fold_name_of_get? declared
  rw [Layers.valueOf, Layers.valueOf, Layers.value, Layers.value, authored,
    l.overrides.text?_congr spelling, m.overrides.text?_congr spelling, overrides]

theorem int_congr {l m : Layers} (schema : Schema) (authored : l.authored = m.authored)
    (overrides : l.overrides.text? name = m.overrides.text? name) :
    l.int schema name = m.int schema name := by
  rw [Layers.int, Layers.int]
  cases resolved : schema.resolve name .integer with
  | error fault => rfl
  | ok d => simp only [Except.map, valueOf_congr authored (resolve_eq_ok resolved).1 overrides]

theorem text_congr {l m : Layers} (schema : Schema) (authored : l.authored = m.authored)
    (overrides : l.overrides.text? name = m.overrides.text? name) :
    l.text schema name = m.text schema name := by
  rw [Layers.text, Layers.text]
  cases resolved : schema.resolve name .string with
  | error fault => rfl
  | ok d => simp only [Except.map, valueOf_congr authored (resolve_eq_ok resolved).1 overrides]

end Adventure.Property
