/-! # Numbers

Mathlib has instances of its own for powers and for zero. A definition must not mean one thing in a
module that imports Mathlib and another in one that does not, and so those of the core library are
the first choice in every module.
-/

attribute [instance (2000)] instPowNat Zero.ofOfNat0
attribute [default_instance 100000] instPowNat
