import Adventure.Capped
import Adventure.Proofs.Except

/-! # Capped lists, changed item by item

What is known of the change of each item is known of that of the list.
-/

namespace Adventure.Capped

variable {α β ε : Type} {n : Nat} {f : α → Except ε β} {g : α → β} {fault : ε}

theorem mapItems_eq_ok (each : ∀ a, f a = .ok (g a)) (items : List α) :
    ∃ same, mapItems f items = .ok ⟨items.map g, same⟩ := by
  induction items with
  | nil => exact ⟨rfl, rfl⟩
  | cons a rest hyp =>
    obtain ⟨same, others⟩ := hyp
    refine ⟨congrArg (· + 1) same, ?_⟩
    rw [mapItems, each a, others]
    rfl

theorem mapM_eq_ok (each : ∀ a, f a = .ok (g a)) (c : Capped n α) :
    c.mapM f = .ok (c.map g) := by
  obtain ⟨same, changed⟩ := mapItems_eq_ok each c.toList
  rw [mapM, changed]
  rfl

theorem mapItems_cases (each : ∀ a, f a = .ok (g a) ∨ f a = .error fault) (items : List α) :
    (∃ same, mapItems f items = .ok ⟨items.map g, same⟩) ∨ mapItems f items = .error fault := by
  induction items with
  | nil => exact .inl ⟨rfl, rfl⟩
  | cons a rest hyp =>
    rw [mapItems]
    rcases each a with first | failed
    · rw [first]
      rcases hyp with ⟨same, others⟩ | failed
      · rw [others]
        exact .inl ⟨congrArg (· + 1) same, rfl⟩
      · rw [failed]
        exact .inr rfl
    · rw [failed]
      exact .inr rfl

theorem mapM_cases (each : ∀ a, f a = .ok (g a) ∨ f a = .error fault) (c : Capped n α) :
    c.mapM f = .ok (c.map g) ∨ c.mapM f = .error fault := by
  unfold mapM
  rcases mapItems_cases each c.toList with ⟨same, changed⟩ | failed
  · rw [changed]
    exact .inl rfl
  · rw [failed]
    exact .inr rfl

theorem toList_mapM {c : Capped n α} {d : Capped n β} (changed : c.mapM f = .ok d) :
    c.toList.mapM f = .ok d.toList := by
  have items (l : List α) {l' : List β} {same : l'.length = l.length}
      (made : mapItems f l = .ok ⟨l', same⟩) : l.mapM f = .ok l' := by
    induction l generalizing l' with
    | nil =>
      obtain rfl := List.eq_nil_of_length_eq_zero same
      rfl
    | cons a rest hyp =>
      rw [mapItems] at made
      obtain ⟨b, first, made⟩ := except_bind_eq_ok.mp made
      obtain ⟨⟨others, length⟩, later, joined⟩ := except_bind_eq_ok.mp made
      obtain rfl := congrArg Subtype.val (Except.ok.inj joined)
      rw [List.mapM_cons, first, hyp later]
      rfl
  obtain ⟨⟨l, same⟩, made, joined⟩ := except_bind_eq_ok.mp changed
  obtain rfl := Except.ok.inj joined
  exact items c.toList made

end Adventure.Capped
