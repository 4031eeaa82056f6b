/-! # Computations that can fail

What is known about the steps of a computation in `Except` once its outcome is `ok`, or is not a
certain fault.
-/

namespace Adventure

variable {ε ε' α β : Type}

theorem except_bind_eq_ok {x : Except ε α} {f : α → Except ε β} {b : β} :
    x >>= f = .ok b ↔ ∃ a, x = .ok a ∧ f a = .ok b := by
  cases x <;> simp [bind, Except.bind]

/-- A fault of a sequence is a fault of one of its parts. -/
theorem except_bind_eq_error {x : Except ε α} {f : α → Except ε β} {fault : ε} :
    x >>= f = .error fault ↔ x = .error fault ∨ ∃ a, x = .ok a ∧ f a = .error fault := by
  cases x <;> simp [bind, Except.bind]

/-- Computations that know one fault only, one after the other. -/
theorem except_bind_cases {x : Except ε α} {f : α → Except ε β} {a : α} {b : β} {fault : ε}
    (first : x = .ok a ∨ x = .error fault) (next : f a = .ok b ∨ f a = .error fault) :
    x >>= f = .ok b ∨ x >>= f = .error fault := by
  rcases first with rfl | rfl
  · exact next
  · exact .inr rfl

theorem except_bind_ne_error {x : Except ε α} {f : α → Except ε β} {fault : ε}
    (first : x ≠ .error fault) (next : ∀ a, x = .ok a → f a ≠ .error fault) :
    x >>= f ≠ .error fault := by
  intro failed
  rcases except_bind_eq_error.mp failed with here | ⟨a, ended, later⟩
  · exact first here
  · exact next a ended later

theorem except_map_ne_error {x : Except ε α} {f : α → β} {fault : ε} :
    x.map f ≠ .error fault ↔ x ≠ .error fault := by
  cases x <;> simp [Except.map]

theorem except_map_eq_ok {x : Except ε α} {f : α → β} {b : β} :
    x.map f = .ok b ↔ ∃ a, x = .ok a ∧ f a = b := by
  cases x <;> simp [Except.map]

@[simp] theorem except_mapError_ok (f : ε → ε') (a : α) :
    Except.mapError f (.ok a : Except ε α) = .ok a := rfl

@[simp] theorem except_mapError_error (f : ε → ε') (fault : ε) :
    Except.mapError f (.error fault : Except ε α) = .error (f fault) := rfl

theorem except_mapError_eq_ok {x : Except ε α} {f : ε → ε'} {a : α} :
    x.mapError f = .ok a ↔ x = .ok a := by
  cases x <;> simp

/-- A demand with a fault for those who fail it, in front of what comes next. -/
theorem demand_eq_ok {c : Prop} [Decidable c] {fault : ε} {a : α} {next : Except ε α} :
    (if c then next else throw fault >>= fun _ : PUnit => next) = .ok a ↔ c ∧ next = .ok a := by
  split
  · next holds => simp [holds]
  · next fails => simp [fails, bind, Except.bind, throw, throwThe, MonadExceptOf.throw]

theorem demand_eq_error {c : Prop} [Decidable c] {fault other : ε} {next : Except ε α}
    (refused : (if c then next else throw fault >>= fun _ : PUnit => next) = .error other) :
    other = fault ∨ next = .error other := by
  split at refused
  · exact .inr refused
  · exact .inl (Except.error.inj refused).symm

/-- A fault for those who are refused, in front of what comes next. -/
theorem refusal_eq_ok {c : Prop} [Decidable c] {fault : ε} {a : α} {next : Except ε α} :
    (if c then throw fault >>= fun _ : PUnit => next else next) = .ok a ↔ ¬ c ∧ next = .ok a := by
  split
  · next refused => simp [refused, bind, Except.bind, throw, throwThe, MonadExceptOf.throw]
  · next passed => simp [passed]

theorem refusal_eq_error {c : Prop} [Decidable c] {fault other : ε} {next : Except ε α}
    (refused : (if c then throw fault >>= fun _ : PUnit => next else next) = .error other) :
    other = fault ∨ next = .error other := by
  split at refused
  · exact .inl (Except.error.inj refused).symm
  · exact .inr refused

theorem lastDemand_eq_ok {c : Prop} [Decidable c] {fault : ε} :
    (if c then pure () else throw fault : Except ε Unit) = .ok () ↔ c := by
  split
  · next holds => simp [holds, pure, Except.pure]
  · next fails => simp [fails, throw, throwThe, MonadExceptOf.throw]

/-- Each result of a row of computations that end well is that of one of them. -/
theorem mem_of_mapM_eq_ok {f : α → Except ε β} {items : List α} {results : List β}
    (ended : items.mapM f = .ok results) {b : β} (listed : b ∈ results) :
    ∃ a ∈ items, f a = .ok b := by
  induction items generalizing results with
  | nil =>
    obtain rfl := Except.ok.inj ended
    cases listed
  | cons a rest hyp =>
    rw [List.mapM_cons] at ended
    obtain ⟨first, here, ended⟩ := except_bind_eq_ok.mp ended
    obtain ⟨others, later, joined⟩ := except_bind_eq_ok.mp ended
    obtain rfl := Except.ok.inj joined
    rcases List.mem_cons.mp listed with rfl | listed
    · exact ⟨a, List.mem_cons_self, here⟩
    · obtain ⟨source, member, found⟩ := hyp later listed
      exact ⟨source, List.mem_cons_of_mem _ member, found⟩

end Adventure
