import Adventure.Proofs.Room.Area
import Adventure.Proofs.Run

/-! # Rooms are doubled once

A room is asked to be doubled, and its masks are fitted to its background, in any order and as often
as anyone likes. One of the requests doubles it at most; what is refused changes nothing, and what
comes behind the one that succeeds changes nothing either.

* `Adjustment`, `adjust`, `stage` — what is asked, and the room between two requests.
* `adjust_cases` — all that a request can do.
* `Settled` — a room that has been doubled; no request changes it.
* `doublesOnce` — what holds for any sequence of requests.
-/

namespace Adventure.Room

variable {r : Room} {hires : Bool}

/-! ## Requests -/

/-- What is done about the size of a room and of its masks. -/
inductive Adjustment where
  | upscale (hires : Bool)
  | fixMasks

/-- Whether the room was doubled, or why not, and the room that is left. A request that ends the
program leaves none; the room before it stands for it. -/
def adjust (r : Room) : Adjustment → Except Fault Bool × Room
  | .upscale hires =>
    match (upscaleInPlace hires).on r with
    | (.ok doubled, s) => (.ok doubled, s)
    | (.error fault, s) => (.error fault, if fault.isOverflow then r else s)
  | .fixMasks =>
    match r.fixMasks with
    | .ok s => (.ok false, s)
    | .error fault => (.error fault, r)

/-- The room after the first `n` of some requests. -/
def stage (r : Room) (steps : List Adjustment) (n : Nat) : Room :=
  (steps.take n).foldl (fun s a => (s.adjust a).2) r

/-- Whether the request at place `n` doubles the room. -/
def Doubles (r : Room) (steps : List Adjustment) (n : Nat) : Prop :=
  ∃ a, steps[n]? = some a ∧ ((r.stage steps n).adjust a).1 = .ok true

/-! ## What a request can do -/

/-- A room that has been doubled, and whose masks fit. -/
structure Settled (r : Room) : Prop where
  upscaled : r.upscaled = true
  fixMasks : r.fixMasks = .ok r

theorem Settled.adjust (settled : r.Settled) (a : Adjustment) : r.adjust a = (.ok false, r) := by
  cases a with
  | upscale hires =>
    rcases upscale_cases r hires with ⟨-, -, kept⟩ | ⟨⟨-, -, fresh⟩, -⟩
    · simp only [Room.adjust, kept]
    · rw [settled.upscaled] at fresh
      cases fresh
  | fixMasks => simp only [Room.adjust, settled.fixMasks]

theorem Holdable.settled_twice (holdable : r.Holdable) : r.twice.Settled where
  upscaled := rfl
  fixMasks := fixMasks_again holdable.masks true

/-- A request leaves the room as it is, or fits its masks, or doubles it. Only a room of a size that
can be doubled is, and then it is settled. -/
theorem adjust_cases (r : Room) (a : Adjustment) :
    (r.adjust a).1 ≠ .ok true ∧ (r.adjust a).2 = r ∨
      a = .fixMasks ∧ r.adjust a = (.ok false, r.fixed) ∨
      r.Doublable ∧ r.Holdable ∧ r.adjust a = (.ok true, r.twice) := by
  cases a with
  | upscale hires =>
    rcases upscale_cases r hires with
      ⟨-, -, kept⟩ | ⟨-, ⟨fault, -, told, -, refused⟩ | ⟨doublable, large | enlarged⟩⟩
    · refine .inl ?_
      simp only [adjust, kept]
      exact ⟨by simp, trivial⟩
    · refine .inl ?_
      simp only [adjust, refused, told]
      exact ⟨by simp, rfl⟩
    · obtain ⟨-, s, -, stopped⟩ := large
      refine .inl ?_
      simp only [adjust, stopped]
      exact ⟨by simp, rfl⟩
    · obtain ⟨holdable, -, doubled⟩ := enlarged
      refine .inr (.inr ⟨doublable, holdable, ?_⟩)
      simp only [adjust, doubled]
  | fixMasks =>
    rcases fixMasks_cases r with fitted | large
    · refine .inr (.inl ⟨rfl, ?_⟩)
      simp only [adjust, fitted]
    · refine .inl ?_
      simp only [adjust, large]
      exact ⟨by simp, trivial⟩

theorem adjust_eq_twice {a : Adjustment} (doubles : (r.adjust a).1 = .ok true) :
    r.Doublable ∧ r.Holdable ∧ (r.adjust a).2 = r.twice := by
  rcases adjust_cases r a with ⟨other, -⟩ | ⟨-, fitted⟩ | ⟨doublable, holdable, doubled⟩
  · exact absurd doubles other
  · rw [fitted] at doubles
    cases doubles
  · exact ⟨doublable, holdable, by rw [doubled]⟩

/-! ## Sizes -/

/-- What fits is kept by the field, and by a side of a bitmap if it is not negative. -/
theorem doubled_side {side : Int32} (positive : 0 < 2 * side.toInt)
    (small : fits (2 * side.toInt)) :
    (Int32.ofInt (2 * side.toInt)).toInt = 2 * side.toInt ∧
      ((doubledSide side).toNat : Int) = 2 * side.toInt := by
  obtain ⟨low, high⟩ := small
  constructor
  · exact Int32.toInt_ofInt_of_le low high
  · have natural : (doubledSide side).toNat = (2 * side.toInt).toNat :=
      UInt32.toNat_ofNat_of_lt' (by change _ < 2 ^ 32; omega)
    rw [natural]
    omega

/-- All pictures have the size of the room. -/
def Filled (r : Room) : Prop :=
  ∀ f ∈ r.frames.toList, ∀ b, f.graphic = some b →
    (b.width.toNat : Int) = r.width.toInt ∧ (b.height.toNat : Int) = r.height.toInt

theorem filled_twice (doublable : r.Doublable) (holdable : r.Holdable) : r.twice.Filled := by
  have wide := doubled_side doublable.width.1 doublable.width.2
  have high := doubled_side doublable.height.1 doublable.height.2
  intro f listed b drawn
  obtain ⟨old, -, fitted⟩ := mem_of_mapM_eq_ok (Capped.toList_mapM holdable.pictures) listed
  obtain ⟨graphic, made, same⟩ := except_bind_eq_ok.mp fitted
  obtain rfl := Except.ok.inj same
  obtain rfl : graphic = some b := drawn
  have sizes : b.width = doubledSide r.width ∧ b.height = doubledSide r.height := by
    cases picture : old.graphic with
    | none =>
      rw [picture] at made
      cases made
    | some a =>
      rw [picture] at made
      obtain ⟨c, sized, same⟩ := except_map_eq_ok.mp (except_mapError_eq_ok.mp made)
      obtain rfl := Option.some.inj same
      exact ⟨(Bitmap.sizes_fitted sized).1, (Bitmap.sizes_fitted sized).2.1⟩
  rw [sizes.1, sizes.2]
  exact ⟨wide.2.trans wide.1.symm, high.2.trans high.1.symm⟩

/-! ## What stays -/

/-- Whether two rooms have the same contents: at most their size, their pictures, their masks and
the mark of a doubled room are different. -/
structure SameContents (r s : Room) : Prop where
  rest : s = { r with
    width := s.width
    height := s.height
    frames := s.frames
    hotspotMask := s.hotspotMask
    regionMask := s.regionMask
    walkAreaMask := s.walkAreaMask
    walkBehindMask := s.walkBehindMask
    upscaled := s.upscaled }
  palettes : s.frames.toList.map (fun f => { f with graphic := none }) =
    r.frames.toList.map fun f => { f with graphic := none }

theorem SameContents.refl (r : Room) : r.SameContents r := ⟨rfl, rfl⟩

theorem SameContents.trans {s t : Room} (first : r.SameContents s) (next : s.SameContents t) :
    r.SameContents t := by
  refine ⟨?_, next.palettes.trans first.palettes⟩
  have later := next.rest
  rw [first.rest] at later
  exact later

theorem sameContents_fixed (r : Room) : r.SameContents r.fixed := ⟨rfl, rfl⟩

theorem sameContents_doubled (r : Room) : r.SameContents r.doubled where
  rest := rfl
  palettes := List.map_map

theorem sameContents_adjust (r : Room) (a : Adjustment) : r.SameContents (r.adjust a).2 := by
  rcases adjust_cases r a with ⟨-, kept⟩ | ⟨-, fitted⟩ | ⟨-, -, doubled⟩
  · rw [kept]
    exact .refl r
  · rw [fitted]
    exact sameContents_fixed r
  · have larger := (sameContents_doubled r).trans (sameContents_fixed r.doubled)
    rw [doubled]
    exact larger.trans ⟨rfl, rfl⟩

/-! ## Sequences of requests -/

variable {steps : List Adjustment} {n m : Nat}

theorem stage_succ {a : Adjustment} (here : steps[n]? = some a) :
    r.stage steps (n + 1) = ((r.stage steps n).adjust a).2 :=
  foldl_take_succ here

theorem sameContents_stage (r : Room) (steps : List Adjustment) (n : Nat) :
    r.SameContents (r.stage steps n) :=
  List.foldlRecOn (motive := r.SameContents) _ _ (.refl r)
    fun s same a _ => same.trans (sameContents_adjust s a)

theorem Doubles.settled (doubles : Doubles r steps n) : (r.stage steps (n + 1)).Settled := by
  obtain ⟨a, here, answered⟩ := doubles
  obtain ⟨-, holdable, doubled⟩ := adjust_eq_twice answered
  rw [stage_succ here, doubled]
  exact holdable.settled_twice

theorem Settled.stage_eq (settled : (r.stage steps n).Settled) (order : n ≤ m) :
    r.stage steps m = r.stage steps n := by
  refine foldl_take_rel (R := fun s t => s.Settled → t = s) (fun _ _ => rfl) ?_ ?_ order settled
  · intro s t u first next settled
    obtain rfl := first settled
    exact next settled
  · intro k a settled
    rw [settled.adjust a]

/-- Behind the request that doubles the room, none doubles it or changes anything. -/
theorem Doubles.later (doubles : Doubles r steps n) (order : n < m) (a : Adjustment) :
    (r.stage steps m).adjust a = (.ok false, r.stage steps m) := by
  have settled := doubles.settled
  rw [settled.stage_eq order]
  exact settled.adjust a

theorem Doubles.not_later (doubles : Doubles r steps n) (order : n < m) :
    ¬ Doubles r steps m := by
  rintro ⟨a, -, answered⟩
  rw [doubles.later order a] at answered
  cases answered

/-- What any sequence of requests does to a room of any size. -/
structure DoublesOnce (r : Room) (steps : List Adjustment) : Prop where
  once : ∀ n m, Doubles r steps n → Doubles r steps m → n = m
  size : ∀ n, Doubles r steps n →
    (r.stage steps (n + 1)).width.toInt = 2 * (r.stage steps n).width.toInt ∧
      (r.stage steps (n + 1)).height.toInt = 2 * (r.stage steps n).height.toInt
  pictures : ∀ n, Doubles r steps n → (r.stage steps (n + 1)).Filled
  /-- A request that is refused, or that finds nothing to do, changes nothing. -/
  unchanged : ∀ n hires, steps[n]? = some (.upscale hires) → ¬ Doubles r steps n →
    r.stage steps (n + 1) = r.stage steps n
  later : ∀ n m, Doubles r steps n → n < m → ∀ a, steps[m]? = some a →
    (r.stage steps m).adjust a = (.ok false, r.stage steps m)
  /-- Hotspots, objects, regions and all that has a place in the room stay as they are. -/
  contents : ∀ n, r.SameContents (r.stage steps n)

theorem doublesOnce (r : Room) (steps : List Adjustment) : DoublesOnce r steps where
  once n m first second := by
    rcases Nat.lt_trichotomy n m with before | same | behind
    · exact absurd second (first.not_later before)
    · exact same
    · exact absurd first (second.not_later behind)
  size n := by
    rintro ⟨a, here, answered⟩
    obtain ⟨doublable, -, doubled⟩ := adjust_eq_twice answered
    rw [stage_succ here, doubled]
    exact ⟨(doubled_side doublable.width.1 doublable.width.2).1,
      (doubled_side doublable.height.1 doublable.height.2).1⟩
  pictures n := by
    rintro ⟨a, here, answered⟩
    obtain ⟨doublable, holdable, doubled⟩ := adjust_eq_twice answered
    rw [stage_succ here, doubled]
    exact filled_twice doublable holdable
  unchanged n hires here kept := by
    rw [stage_succ here]
    rcases adjust_cases (r.stage steps n) (.upscale hires) with
      ⟨-, same⟩ | ⟨other, -⟩ | ⟨-, -, doubled⟩
    · exact same
    · cases other
    · exact absurd ⟨_, here, by rw [doubled]⟩ kept
  later n m doubles order a _ := doubles.later order a
  contents := sameContents_stage r steps

/-- The second request for a game of high resolution finds the room doubled. -/
example : Doubles { width := 160, height := 100, density := .low }
    [.fixMasks, .upscale false, .upscale true, .upscale true] 2 :=
  ⟨_, rfl, rfl⟩

end Adventure.Room
