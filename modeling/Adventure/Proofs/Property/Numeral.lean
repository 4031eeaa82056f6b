import Mathlib.Data.List.TakeWhile
import Mathlib.Data.Nat.Digits.Defs
import Adventure.Proofs.Property

/-! # Numbers that texts denote

The number of a numeric property is said here without reading it: a text is taken apart into white
space, a sign, the mark of a radix, a run of digits and all that follows, and the digits stand for a
number without bounds. Each part of the reader finds the one way to take its part off, and the bound
that it counts up to lies beyond the numbers that a field can hold.

* `Denotes` — the integer that a text starts with.
* `denotes_iff` — there is one for every text.
* `leadingInteger_clamps` — what is read is the nearest number that a field can hold.
-/

namespace Adventure.Property

variable {base d : Nat} {c : Char} {text rest : List Char} {digits : List Nat} {n unit : Int}

/-! ## Digits -/

/-- The digits in the order of their values, the letters small. -/
def smallDigits : List Char :=
  ['0', '1', '2', '3', '4', '5', '6', '7', '8', '9', 'a', 'b', 'c', 'd', 'e', 'f']

/-- The digits in the order of their values, the letters capital. -/
def capitalDigits : List Char :=
  ['0', '1', '2', '3', '4', '5', '6', '7', '8', '9', 'A', 'B', 'C', 'D', 'E', 'F']

/-- Whether `c` is the digit of value `d`, for radices up to 16. -/
def IsDigit (base : Nat) (c : Char) (d : Nat) : Prop :=
  d < base ∧ (smallDigits[d]? = some c ∨ capitalDigits[d]? = some c)

theorem isDigit_of_digit? (small : base ≤ 16) (value : Text.digit? base c = some d) :
    IsDigit base c d := by
  obtain ⟨value, low⟩ := Option.filter_eq_some_iff.mp value
  have low : d < base := of_decide_eq_true low
  refine ⟨low, ?_⟩
  rw [← Char.ofNat_toNat c]
  have high : d < 16 := by omega
  split at value
  · next range =>
    have first : 48 ≤ c.toNat := range.1
    have last : c.toNat ≤ 57 := range.2
    obtain rfl := Option.some.inj value
    generalize c.toNat = code at *
    interval_cases code <;> exact .inl rfl
  · split at value
    · next range =>
      have first : 97 ≤ c.toNat := range.1
      obtain rfl := Option.some.inj value
      have last : c.toNat - 97 + 10 < 16 := high
      generalize c.toNat = code at *
      have last : code ≤ 102 := by omega
      interval_cases code <;> exact .inl rfl
    · split at value
      · next range =>
        have first : 65 ≤ c.toNat := range.1
        obtain rfl := Option.some.inj value
        have last : c.toNat - 65 + 10 < 16 := high
        generalize c.toNat = code at *
        have last : code ≤ 70 := by omega
        interval_cases code <;> exact .inr rfl
      · cases value

theorem digit?_of_isDigit (digit : IsDigit base c d) : Text.digit? base c = some d := by
  obtain ⟨low, digit⟩ := digit
  have value : Text.digit? 16 c = some d := by
    rcases digit with digit | digit
    · obtain ⟨high, rfl⟩ := List.getElem?_eq_some_iff.mp digit
      have high : d < 16 := high
      interval_cases d <;> rfl
    · obtain ⟨high, rfl⟩ := List.getElem?_eq_some_iff.mp digit
      have high : d < 16 := high
      interval_cases d <;> rfl
  have known := (Option.filter_eq_some_iff.mp value).1
  exact Option.filter_eq_some_iff.mpr ⟨known, decide_eq_true low⟩

/-! ## Parts of a text -/

/-- Whether `text` is white space and then `rest`, which starts with none. -/
def Blanked (text rest : List Char) : Prop :=
  ∃ blanks, text = blanks ++ rest ∧ (∀ c ∈ blanks, Text.isBlank c) ∧
    ∀ c ∈ rest.head?, Text.isBlank c = false

/-- Whether `text` has a sign, or none, and then `rest`. -/
inductive Signed : List Char → Int → List Char → Prop where
  | minus (rest : List Char) : Signed ('-' :: rest) (-1) rest
  | plus (rest : List Char) : Signed ('+' :: rest) 1 rest
  | none {text : List Char} (unsigned : ∀ c ∈ text.head?, c ≠ '-' ∧ c ≠ '+') : Signed text 1 text

/-- Whether a text goes on with the mark of radix 16 and one of its digits. -/
def Hexadecimal (text : List Char) : Prop :=
  ∃ x c rest, text = '0' :: x :: c :: rest ∧ (x = 'x' ∨ x = 'X') ∧ ∃ d, IsDigit 16 c d

/-- Whether `text` announces digits to the radix `base`, which then begin with `rest`. -/
inductive Based : List Char → Nat → List Char → Prop where
  | hexadecimal {x : Char} {rest : List Char} (marked : Hexadecimal ('0' :: x :: rest)) :
    Based ('0' :: x :: rest) 16 rest
  | octal {rest : List Char} (unmarked : ¬ Hexadecimal ('0' :: rest)) :
    Based ('0' :: rest) 8 ('0' :: rest)
  | decimal {text : List Char} (other : ∀ c ∈ text.head?, c ≠ '0') : Based text 10 text

/-- Whether the longest run of digits in front of `text` has the values `digits`. -/
def LeadingRun (base : Nat) (text : List Char) (digits : List Nat) : Prop :=
  ∃ run rest, text = run ++ rest ∧ List.Forall₂ (IsDigit base) run digits ∧
    ∀ c ∈ rest.head?, ∀ d, ¬ IsDigit base c d

/-- Whether a text starts with a numeral for `n`. -/
def Denotes (text : List Char) (n : Int) : Prop :=
  ∃ body unit unsigned base marked digits, Blanked text body ∧ Signed body unit unsigned ∧
    Based unsigned base marked ∧ LeadingRun base marked digits ∧
    n = unit * (Nat.ofDigits base digits.reverse : Nat)

theorem blanked_iff : Blanked text rest ↔ Text.trimStart text = rest := by
  constructor
  · rintro ⟨blanks, rfl, blank, other⟩
    rw [Text.trimStart, List.dropWhile_append_of_pos blank]
    cases rest with
    | nil => rfl
    | cons c rest => exact List.dropWhile_cons_of_neg (by simp [other c rfl])
  · rintro rfl
    refine ⟨text.takeWhile Text.isBlank, List.takeWhile_append_dropWhile.symm,
      fun c listed => List.mem_takeWhile_imp listed, fun c first => ?_⟩
    have other := List.head?_dropWhile_not Text.isBlank text
    rwa [show (text.dropWhile Text.isBlank).head? = some c from first] at other

theorem sign_of_signed (signed : Signed text unit rest) :
    unit = (if (sign text).1 then -1 else 1) ∧ (sign text).2 = rest := by
  cases signed with
  | minus rest => exact ⟨rfl, rfl⟩
  | plus rest => exact ⟨rfl, rfl⟩
  | none unsigned =>
    have same : sign text = (false, text) := by
      unfold sign
      split
      · exact absurd rfl (unsigned '-' rfl).1
      · exact absurd rfl (unsigned '+' rfl).2
      · rfl
    rw [same]
    exact ⟨rfl, rfl⟩

theorem exists_signed (text : List Char) : ∃ unit rest, Signed text unit rest := by
  by_cases minus : text.head? = some '-'
  · obtain ⟨rest, rfl⟩ := List.head?_eq_some_iff.mp minus
    exact ⟨_, _, .minus rest⟩
  · by_cases plus : text.head? = some '+'
    · obtain ⟨rest, rfl⟩ := List.head?_eq_some_iff.mp plus
      exact ⟨_, _, .plus rest⟩
    · refine ⟨_, _, .none fun c first => ⟨?_, ?_⟩⟩
      · rintro rfl
        exact minus first
      · rintro rfl
        exact plus first

theorem radix_of_based (based : Based text base rest) : radix text = (base, rest) := by
  cases based with
  | hexadecimal marked =>
    obtain ⟨x, c, rest, same, mark, d, digit⟩ := marked
    obtain ⟨rfl, rfl⟩ := List.cons.inj (List.cons.inj same).2
    rw [radix, if_pos ⟨mark, by rw [digit?_of_isDigit digit]; rfl⟩]
  | @octal rest unmarked =>
    match rest with
    | [] | [_] => rfl
    | x :: c :: rest =>
      rw [radix, if_neg]
      rintro ⟨mark, digit⟩
      obtain ⟨d, value⟩ := Option.isSome_iff_exists.mp digit
      exact unmarked ⟨x, c, rest, rfl, mark, d, isDigit_of_digit? (Nat.le_refl 16) value⟩
  | decimal other => exact radix_of_head? fun first => other '0' first rfl

theorem exists_based (text : List Char) : ∃ base rest, Based text base rest := by
  by_cases zero : text.head? = some '0'
  · obtain ⟨rest, rfl⟩ := List.head?_eq_some_iff.mp zero
    by_cases marked : Hexadecimal ('0' :: rest)
    · obtain ⟨x, c, more, same, -⟩ := id marked
      obtain rfl := (List.cons.inj same).2
      exact ⟨_, _, .hexadecimal marked⟩
    · exact ⟨_, _, .octal marked⟩
  · refine ⟨_, _, .decimal fun c first => ?_⟩
    rintro rfl
    exact zero first

theorem based_small (based : Based text base rest) : 0 < base ∧ base ≤ 16 := by
  cases based <;> decide

theorem leadingRun_iff (small : base ≤ 16) :
    LeadingRun base text digits ↔ leadingDigits base text = digits := by
  constructor
  · rintro ⟨run, rest, rfl, each, other⟩
    -- on the run, behind which the reader stops
    induction each with
    | nil =>
      cases rest with
      | nil => rfl
      | cons c rest =>
        have none : Text.digit? base c = none := by
          rw [Option.eq_none_iff_forall_ne_some]
          exact fun d value => other c rfl d (isDigit_of_digit? small value)
        rw [List.nil_append, leadingDigits, none]
    | cons digit _ hyp => rw [List.cons_append, leadingDigits, digit?_of_isDigit digit, hyp]
  · rintro rfl
    induction text with
    | nil => exact ⟨[], [], rfl, .nil, fun c first => by cases first⟩
    | cons c text hyp =>
      rw [leadingDigits]
      cases value : Text.digit? base c with
      | none =>
        refine ⟨[], c :: text, rfl, .nil, fun c' first d digit => ?_⟩
        obtain rfl := Option.some.inj first
        rw [digit?_of_isDigit digit] at value
        cases value
      | some d =>
        obtain ⟨run, rest, same, each, other⟩ := hyp
        refine ⟨c :: run, rest, by rw [same, List.cons_append], ?_, other⟩
        exact .cons (isDigit_of_digit? small value) each

/-! ## Values -/

theorem foldl_digits (base : Nat) (digits : List Nat) :
    digits.foldl (fun n d => base * n + d) 0 = Nat.ofDigits base digits.reverse := by
  rw [Nat.ofDigits_eq_foldr, List.foldr_reverse]
  simp only [Nat.add_comm, Nat.cast_id]

theorem toInt_clampInt32 (n : Int) : (clampInt32 n).toInt = max (-2 ^ 31) (min n (2 ^ 31 - 1)) := by
  rw [clampInt32, Int32.toInt_ofInt_of_le] <;> omega

/-- The limit of a value lies beyond the numbers that a field can hold, on either side. -/
theorem clampInt32_boundedValue (positive : 0 < base) (negative : Bool) (digits : List Nat) :
    clampInt32 (if negative then -(boundedValue base digits : Int) else boundedValue base digits) =
      clampInt32 (if negative then -(Nat.ofDigits base digits.reverse : Nat)
        else (Nat.ofDigits base digits.reverse : Nat)) := by
  have limit : magnitudeLimit = 9223372036854775807 := rfl
  rw [boundedValue_eq_min positive, foldl_digits, ← Int32.toInt_inj, toInt_clampInt32,
    toInt_clampInt32]
  split <;> omega

/-- The integer that a text starts with, told by the parts that the reader takes off. -/
def startingInteger (text : List Char) : Int :=
  let (negative, rest) := sign (Text.trimStart text)
  let (base, rest) := radix rest
  let value : Nat := Nat.ofDigits base (leadingDigits base rest).reverse
  if negative then -value else value

theorem eq_startingInteger (denotes : Denotes text n) : n = startingInteger text := by
  obtain ⟨body, unit, unsigned, base, marked, digits, blanked, signed, based, run, rfl⟩ := denotes
  obtain ⟨rfl, rest⟩ := sign_of_signed signed
  have values := (leadingRun_iff (based_small based).2).mp run
  simp only [startingInteger, blanked_iff.mp blanked, rest, radix_of_based based, values]
  split <;> simp

theorem denotes_iff : Denotes text n ↔ n = startingInteger text := by
  refine ⟨eq_startingInteger, ?_⟩
  rintro rfl
  -- a text can be taken apart, and then it denotes what its parts say
  obtain ⟨unit, unsigned, signed⟩ := exists_signed (Text.trimStart text)
  obtain ⟨base, marked, based⟩ := exists_based unsigned
  have run := (leadingRun_iff (based_small based).2).mpr (Eq.refl (leadingDigits base marked))
  have denotes : Denotes text _ :=
    ⟨_, unit, unsigned, base, marked, _, blanked_iff.mpr rfl, signed, based, run, rfl⟩
  exact eq_startingInteger denotes ▸ denotes

theorem leadingInteger_eq (text : String) :
    leadingInteger text = clampInt32 (startingInteger text.toList) := by
  obtain ⟨base, marked, based⟩ := exists_based (sign (Text.trimStart text.toList)).2
  simp only [leadingInteger, startingInteger, radix_of_based based]
  exact clampInt32_boundedValue (based_small based).1 _ _

/-- Every text denotes one integer, and the nearest number that a field can hold is read from it.
The limit of the way there does not show, however long the run of digits is. A number is read from
its own text. -/
theorem leadingInteger_clamps :
    (∀ text : String, ∃ n, (∀ m, Denotes text.toList m ↔ m = n) ∧
      (leadingInteger text).toInt = max (-2 ^ 31) (min n (2 ^ 31 - 1))) ∧
    (∀ base digits, boundedValue (base + 1) digits =
      min (Nat.ofDigits (base + 1) digits.reverse) (2 ^ 63 - 1)) ∧
    ∀ v : Int32, leadingInteger (toString v.toInt) = v := by
  refine ⟨fun text => ⟨startingInteger text.toList, fun m => denotes_iff, ?_⟩, ?_,
    leadingInteger_toString⟩
  · rw [leadingInteger_eq, toInt_clampInt32]
  · intro base digits
    rw [boundedValue_eq_min (Nat.succ_pos base), foldl_digits]
    rfl

example : leadingInteger "\t -0x1Fg" = -31 := by cbv

example : leadingInteger "-099999999999999999999" = 0 := by cbv

end Adventure.Property
