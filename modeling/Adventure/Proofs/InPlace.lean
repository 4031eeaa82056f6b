import Adventure.InPlace

/-! # Computations in place, step by step

What a computation in place comes to, from what its first step comes to, and which computations
leave the state alone when they fail.

* `AllOrNothing` — a fault has changed nothing.
* `on_of_result` — such a computation is told by its result.
-/

namespace Adventure.InPlace

variable {ε ε' σ τ α β : Type} {s t : σ} {x : InPlace ε σ α} {next : α → InPlace ε σ β} {a : α}
  {fault : ε}

/-! ## Steps -/

theorem on_bind_ok (first : x.on s = (.ok a, t)) : (x >>= next).on s = (next a).on t := by
  change ExceptT.bindCont next (x.on s).1 (x.on s).2 = _
  rw [first]
  rfl

theorem on_bind_error (first : x.on s = (.error fault, t)) :
    (x >>= next).on s = (.error fault, t) := by
  change ExceptT.bindCont next (x.on s).1 (x.on s).2 = _
  rw [first]
  rfl

theorem on_get_bind (next : σ → InPlace ε σ β) (s : σ) : (get >>= next).on s = (next s).on s := rfl

theorem on_ask (f : σ → Except ε α) (s : σ) : (ask f).on s = (f s, s) := by
  unfold ask
  rw [on_get_bind]
  cases f s <;> rfl

theorem on_attempt_ok {f : σ → Except ε σ} (made : f s = .ok t) :
    (attempt f).on s = (.ok (), t) := by
  unfold attempt
  rw [on_bind_ok ((on_ask f s).trans (by rw [made]))]
  rfl

theorem on_attempt_error {f : σ → Except ε σ} (refused : f s = .error fault) :
    (attempt f).on s = (.error fault, s) := by
  unfold attempt
  exact on_bind_error ((on_ask f s).trans (by rw [refused]))

theorem on_ask_bind (f : σ → Except ε α) (next : α → InPlace ε σ β) (s : σ) :
    (ask f >>= next).on s =
      match f s with
      | .ok a => (next a).on s
      | .error fault => (.error fault, s) := by
  have told := on_ask f s
  cases answer : f s with
  | ok a => exact on_bind_ok (told.trans (by rw [answer]))
  | error fault => exact on_bind_error (told.trans (by rw [answer]))

theorem result_ask_bind (f : σ → Except ε α) (next : α → InPlace ε σ β) (s : σ) :
    (ask f >>= next).result s = (f s).bind fun a => (next a).result s := by
  unfold result
  rw [on_ask_bind]
  cases f s <;> rfl

theorem on_onPart_of_missing {part : σ → Except ε τ} (missing : part s = .error fault)
    (put : τ → σ → σ) (y : InPlace ε τ α) : (onPart part put y).on s = (.error fault, s) := by
  change onPart part put y s = _
  unfold onPart
  rw [missing]

theorem on_onPart {part : σ → Except ε τ} {p : τ} (there : part s = .ok p) (put : τ → σ → σ)
    (y : InPlace ε τ α) : (onPart part put y).on s = ((y.on p).1, put (y.on p).2 s) := by
  change onPart part put y s = _
  unfold onPart
  rw [there]

theorem on_mapFault (f : ε → ε') (x : InPlace ε σ α) (s : σ) :
    (x.mapFault f).on s = ((x.on s).1.mapError f, (x.on s).2) := rfl

theorem result_of_ok (run : x.on s = (.ok a, t)) : x.result s = .ok (a, t) := by
  unfold result
  rw [run]

theorem result_of_error (run : x.on s = (.error fault, t)) : x.result s = .error fault := by
  unfold result
  rw [run]

theorem result_onPart (part : σ → Except ε τ) (put : τ → σ → σ) (y : InPlace ε τ α) (s : σ) :
    (onPart part put y).result s =
      (part s).bind fun p => (y.result p).map fun left => (left.1, put left.2 s) := by
  cases there : part s with
  | error fault => exact result_of_error (on_onPart_of_missing there put y)
  | ok p =>
    have whole := on_onPart there put y
    cases run : y.on p with
    | mk outcome left =>
      rw [run] at whole
      cases outcome with
      | ok a => rw [result_of_ok whole, Except.bind, result_of_ok run]; rfl
      | error fault => rw [result_of_error whole, Except.bind, result_of_error run]; rfl

theorem result_mapFault (f : ε → ε') (x : InPlace ε σ α) (s : σ) :
    (x.mapFault f).result s = (x.result s).mapError f := by
  have whole := on_mapFault f x s
  cases run : x.on s with
  | mk outcome left =>
    rw [run] at whole
    cases outcome with
    | ok a => rw [result_of_ok whole, result_of_ok run]; rfl
    | error fault => rw [result_of_error whole, result_of_error run]; rfl

/-! ## Faults that change nothing -/

/-- What is put back where it was taken from changes nothing. -/
theorem set_of_getElem? {l : List α} {i : Nat} (here : l[i]? = some a) : l.set i a = l := by
  obtain ⟨low, rfl⟩ := List.getElem?_eq_some_iff.mp here
  exact List.set_getElem_self low

/-- Whether a computation that fails leaves the state as it was. -/
def AllOrNothing (x : InPlace ε σ α) : Prop := ∀ s fault, (x.on s).1 = .error fault → (x.on s).2 = s

theorem allOrNothing_ask (f : σ → Except ε α) : AllOrNothing (ask f) := by
  intro s fault _
  rw [on_ask]

/-- To look at the state first leaves time to fail. -/
theorem AllOrNothing.ask_bind (f : σ → Except ε α) (later : ∀ a, AllOrNothing (next a)) :
    AllOrNothing (ask f >>= next) := by
  intro s fault
  rw [on_ask_bind]
  cases f s with
  | ok a => exact later a s fault
  | error other => exact fun _ => rfl

/-- A part that is put back unchanged changes nothing. -/
theorem AllOrNothing.onPart {y : InPlace ε τ α} (careful : AllOrNothing y)
    {part : σ → Except ε τ} {put : τ → σ → σ}
    (back : ∀ {s p}, part s = .ok p → put p s = s) : AllOrNothing (onPart part put y) := by
  intro s fault failed
  cases there : part s with
  | error other => rw [on_onPart_of_missing there]
  | ok p =>
    rw [on_onPart there] at failed ⊢
    rw [careful p fault failed, back there]

theorem AllOrNothing.mapFault (careful : AllOrNothing x) (f : ε → ε') :
    AllOrNothing (x.mapFault f) := by
  intro s fault failed
  rw [on_mapFault] at failed ⊢
  cases told : (x.on s).1 with
  | ok a => rw [told] at failed; cases failed
  | error own => exact careful s own told

/-- What a computation does is told by its result, if its faults change nothing. -/
theorem on_of_result (careful : AllOrNothing x) (s : σ) : x.on s =
    match x.result s with
    | .ok (a, t) => (.ok a, t)
    | .error fault => (.error fault, s) := by
  have left := careful s
  unfold result
  cases told : x.on s with
  | mk outcome after =>
    rw [told] at left
    cases outcome with
    | ok a => rfl
    | error fault => exact congrArg (Prod.mk _) (left fault rfl)

end Adventure.InPlace
