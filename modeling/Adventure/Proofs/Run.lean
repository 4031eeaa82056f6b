/-! # Runs and their beginnings

A run is a fold over all that is done. What it has come to after `n` steps is the fold over the
first `n`, which grows by one step at a time.
-/

namespace Adventure

variable {σ α : Type} {f : σ → α → σ} {s : σ} {steps : List α} {n m : Nat}

theorem foldl_take_succ {a : α} (here : steps[n]? = some a) :
    (steps.take (n + 1)).foldl f s = f ((steps.take n).foldl f s) a := by
  rw [List.take_add_one, here, Option.toList_some, List.foldl_append, List.foldl_cons,
    List.foldl_nil]

theorem foldl_take_succ_of_none (ended : steps[n]? = none) :
    (steps.take (n + 1)).foldl f s = (steps.take n).foldl f s := by
  rw [List.take_add_one, ended, Option.toList_none, List.append_nil]

/-- What relates every state to the one after a step relates earlier states to later ones. -/
theorem foldl_take_rel {R : σ → σ → Prop} (refl : ∀ s, R s s)
    (trans : ∀ {s t u}, R s t → R t u → R s u)
    (step : ∀ k a, R ((steps.take k).foldl f s) (f ((steps.take k).foldl f s) a))
    (order : n ≤ m) : R ((steps.take n).foldl f s) ((steps.take m).foldl f s) := by
  induction order with
  | refl => exact refl _
  | @step m _ hyp =>
    refine trans hyp ?_
    cases here : steps[m]? with
    | none =>
      rw [foldl_take_succ_of_none here]
      exact refl _
    | some a =>
      rw [foldl_take_succ here]
      exact step m a

/-- What holds after some steps began with one of them, and none has ended it since. -/
theorem holds_iff_last {P Begins Ends : Nat → Prop} (never : ¬ P 0)
    (step : ∀ n, P (n + 1) ↔ Begins n ∨ P n ∧ ¬ Ends n) (n : Nat) :
    P n ↔ ∃ m < n, Begins m ∧ ∀ j, m < j → j < n → ¬ Ends j := by
  induction n with
  | zero =>
    refine ⟨fun now => absurd now never, ?_⟩
    rintro ⟨m, none, -⟩
    cases none
  | succ n hyp =>
    rw [step, hyp]
    constructor
    · rintro (now | ⟨⟨m, before, begins, lasts⟩, still⟩)
      · exact ⟨n, Nat.lt_succ_self n, now, fun j later early => by omega⟩
      · refine ⟨m, Nat.lt_succ_of_lt before, begins, fun j later early => ?_⟩
        rcases Nat.lt_succ_iff_lt_or_eq.mp early with earlier | rfl
        · exact lasts j later earlier
        · exact still
    · rintro ⟨m, before, begins, lasts⟩
      rcases Nat.lt_succ_iff_lt_or_eq.mp before with earlier | rfl
      · refine .inr ⟨⟨m, earlier, begins, fun j later early => lasts j later ?_⟩, ?_⟩
        · exact Nat.lt_succ_of_lt early
        · exact lasts n earlier (Nat.lt_succ_self n)
      · exact .inl begins

end Adventure
