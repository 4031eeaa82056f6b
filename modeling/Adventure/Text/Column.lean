/-! # Columns

Texts filled up with spaces to the width of a column. Longer texts are left as they are.
-/

namespace Adventure.Text

/-- At least `width` characters, filled up behind. -/
def padRight (width : Nat) (text : String) : String :=
  text ++ String.ofList (List.replicate (width - text.length) ' ')

/-- At least `width` characters, filled up in front. -/
def padLeft (width : Nat) (text : String) : String :=
  String.ofList (List.replicate (width - text.length) ' ') ++ text

theorem length_padRight (width : Nat) (text : String) :
    (padRight width text).length = max width text.length := by
  simp [padRight]
  omega

theorem length_padLeft (width : Nat) (text : String) :
    (padLeft width text).length = max width text.length := by
  simp [padLeft]
  omega

end Adventure.Text
