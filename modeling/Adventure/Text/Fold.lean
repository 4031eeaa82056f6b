/-! # Letter case

Names are compared without regard to the case of ASCII letters; all other letters count as they
are. `fold` gives the spelling that stands for all others.
-/

namespace Adventure.Text

/-- `s` with its ASCII capitals in lower case. -/
def fold (s : String) : String := s.map Char.toLower

end Adventure.Text
