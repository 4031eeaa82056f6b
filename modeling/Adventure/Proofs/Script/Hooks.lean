import Adventure.Proofs.Script.LinkOrder

/-! # Hooks over many linkings

Which scripts have a hook is found out when the scripts of a game have been linked, and is kept by
place. A call looks up who stands at those places now. A linking that fails part way leaves new
scripts there with the places of the old ones, so what a hook calls depends on two rows of scripts:
the row that hooks were found in last, and the row that stands there.

* `Linkage.foundIn` — the row that hooks were found in last.
* `Linkage.Keeps` — the places that are kept are those of a row; every change keeps it so.
* `Linkage.called_changes` — when all that are called have the function that they are called for.

The script of a room is linked without being stored, so that linking it is no change.
-/

namespace Adventure.Script

/-- Whether `s` is one of the scripts `present` and stands where a script of `row` has
`function`. -/
def StandsFor (row present : List Linked) (function : String) (s : Linked) : Prop :=
  ∃ (n : Nat) (old : Linked), row[n]? = some old ∧ present[n]? = some s ∧ function ∈ old.exports

/-- Whether no script without `function` stands where a script of `row` has it. -/
def Succeeds (row present : List Linked) (function : String) : Prop :=
  ∀ (n : Nat) (old new : Linked), row[n]? = some old → present[n]? = some new →
    function ∈ old.exports → function ∈ new.exports

variable {row present : List Linked} {function : String} {s : Linked}

theorem succeeds_iff : Succeeds row present function ↔
    ∀ s, StandsFor row present function s → function ∈ s.exports := by
  constructor
  · rintro succeeds s ⟨n, old, here, there, has⟩
    exact succeeds n old s here there has
  · intro all n old new here there has
    apply all
    exact ⟨n, old, here, there, has⟩

theorem succeeds_self (row : List Linked) (function : String) : Succeeds row row function := by
  intro n old new here there has
  obtain rfl := Option.some.inj (here.symm.trans there)
  exact has

theorem implements_iff : s.implements function = true ↔ function ∈ s.exports := by
  simp [Linked.implements]

namespace Linkage

variable {l : Linkage}

theorem mem_placesOf_iff {n : Nat} : n ∈ placesOf row function ↔
    ∃ old, row[n]? = some old ∧ function ∈ old.exports := by
  simp [placesOf, List.mem_zipIdx_iff_getElem?, implements_iff]

/-! ## Calls -/

/-- Whether the places that are kept are those of the scripts of `row` that have each hook. -/
structure Keeps (l : Linkage) (row : List Linked) : Prop where
  hooks : ∀ hook, l.hookPlaces hook = placesOf row hook.functionName
  loop : l.loopFlags = row.map (·.implements loopFunction)

theorem Keeps.mem_scriptsWith_iff (keeps : l.Keeps row) (hook : Hook) :
    s ∈ l.scriptsWith hook ↔ StandsFor row l.hookOrder hook.functionName s := by
  rw [scriptsWith, keeps.hooks, List.mem_filterMap]
  constructor
  · rintro ⟨n, listed, there⟩
    obtain ⟨old, here, has⟩ := mem_placesOf_iff.mp listed
    exact ⟨n, old, here, there, has⟩
  · rintro ⟨n, old, here, there, has⟩
    exact ⟨n, mem_placesOf_iff.mpr ⟨old, here, has⟩, there⟩

theorem Keeps.mem_loopScripts_iff (keeps : l.Keeps row) :
    s ∈ l.loopScripts ↔ StandsFor row l.hookOrder loopFunction s := by
  have listed (flag : Bool) : (s, flag) ∈ l.hookOrder.zip l.loopFlags ↔
      ∃ (n : Nat) (old : Linked), row[n]? = some old ∧ l.hookOrder[n]? = some s ∧
        old.implements loopFunction = flag := by
    simp only [keeps.loop, List.mem_iff_getElem?, List.getElem?_zip_eq_some, List.getElem?_map,
      Option.map_eq_some_iff]
    constructor
    · rintro ⟨n, there, old, here, has⟩
      exact ⟨n, old, here, there, has⟩
    · rintro ⟨n, old, here, there, has⟩
      exact ⟨n, there, old, here, has⟩
  simp only [StandsFor, ← implements_iff, ← listed, loopScripts, List.mem_map, List.mem_filter,
    Prod.exists]
  constructor
  · rintro ⟨_, _, ⟨found, rfl⟩, rfl⟩
    exact found
  · intro found
    exact ⟨s, true, ⟨found, rfl⟩, rfl⟩

/-! ## Changes -/

/-- The row that hooks were found in last, where `row` is that of the time before. -/
def foundIn (l : Linkage) (row : List Linked) : List Change → List Linked
  | [] => row
  | .bind symbols global dialog auxiliary :: rest =>
    match l.bind symbols global dialog auxiliary with
    | (.ok _, after) => after.foundIn after.hookOrder rest
    | (.error _, after) => after.foundIn row rest
  | .withRoom room :: rest => (l.withRoom room).foundIn row rest

/-- Whether the last linking of a game failed, where `failed` says so of the time before. -/
def lastFailed (l : Linkage) (failed : Bool) : List Change → Bool
  | [] => failed
  | .bind symbols global dialog auxiliary :: rest =>
    match l.bind symbols global dialog auxiliary with
    | (.ok _, after) => after.lastFailed false rest
    | (.error _, after) => after.lastFailed true rest
  | .withRoom room :: rest => (l.withRoom room).lastFailed failed rest

theorem keeps_withHooks (l : Linkage) : l.withHooks.Keeps l.withHooks.hookOrder :=
  ⟨fun _ => rfl, rfl⟩

theorem keeps_cleared (keeps : l.Keeps row) : l.cleared.Keeps row := ⟨keeps.hooks, keeps.loop⟩

/-- Linking puts scripts into place and finds nothing out. -/
theorem Keeps.linkAll (keeps : l.Keeps row) (symbols : SymbolTable)
    (order : List (Kind × Module)) : (l.linkAll symbols order).2.Keeps row := by
  induction order generalizing l with
  | nil => exact keeps
  | cons link rest hyp =>
    obtain ⟨kind, m⟩ := link
    rw [Linkage.linkAll]
    cases l.link symbols m kind with
    | error fault => exact keeps
    | ok s =>
      apply hyp
      unfold install
      cases s.kind <;> exact ⟨keeps.hooks, keeps.loop⟩

/-- A linking finds hooks out at its end, and not when it fails. -/
theorem Keeps.bind_cases (keeps : l.Keeps row) (symbols : SymbolTable)
    (global dialog : Option Module) (auxiliary : List Module) :
    (∃ after, l.bind symbols global dialog auxiliary = (.ok (), after) ∧
      after.Keeps after.hookOrder) ∨
    ∃ fault after, l.bind symbols global dialog auxiliary = (.error fault, after) ∧
      after.Keeps row := by
  have linked := Keeps.linkAll (keeps_cleared keeps) symbols (linkOrder global dialog auxiliary)
  unfold Linkage.bind
  cases ended : l.cleared.linkAll symbols (linkOrder global dialog auxiliary) with
  | mk outcome after =>
    rw [ended] at linked
    cases outcome with
    | error fault => exact .inr ⟨fault, after, rfl, linked⟩
    | ok _ => exact .inl ⟨after.withHooks, rfl, keeps_withHooks after⟩

theorem Keeps.changes (keeps : l.Keeps row) (cs : List Change) :
    (l.changes cs).Keeps (l.foundIn row cs) := by
  induction cs generalizing l row with
  | nil => exact keeps
  | cons c rest hyp =>
    cases c with
    | withRoom room => exact hyp ⟨keeps.hooks, keeps.loop⟩
    | bind symbols global dialog auxiliary =>
      rw [Linkage.changes, List.foldl_cons, change, foundIn]
      rcases keeps.bind_cases symbols global dialog auxiliary with
        ⟨after, ended, found⟩ | ⟨fault, after, ended, kept⟩
      · rw [ended]
        exact hyp found
      · rw [ended]
        exact hyp kept

theorem foundIn_eq_hookOrder {failed : Bool} (current : failed = false → row = l.hookOrder)
    {cs : List Change} (linked : l.lastFailed failed cs = false) :
    l.foundIn row cs = (l.changes cs).hookOrder := by
  induction cs generalizing l row failed with
  | nil => exact current linked
  | cons c rest hyp =>
    cases c with
    | withRoom room => exact hyp (l := l.withRoom room) current linked
    | bind symbols global dialog auxiliary =>
      rw [lastFailed] at linked
      rw [Linkage.changes, List.foldl_cons, change, foundIn]
      rcases ended : l.bind symbols global dialog auxiliary with ⟨fault | _, after⟩
      · rw [ended] at linked
        exact hyp (by simp) linked
      · rw [ended] at linked
        exact hyp (fun _ => rfl) linked

/-- Whatever games have been linked and whatever rooms have come and gone, all that a hook calls
have it if the last linking did not fail; and if it did, exactly if no script without the hook
stands where one with it stood when hooks were found. -/
theorem called_changes (timeout : UInt32) (cs : List Change) :
    let start : Linkage := { timeout }
    let l := start.changes cs
    let row := start.foundIn [] cs
    (start.lastFailed false cs = false →
      (∀ hook, ∀ s ∈ l.scriptsWith hook, hook.functionName ∈ s.exports) ∧
        ∀ s ∈ l.loopScripts, loopFunction ∈ s.exports) ∧
    (∀ hook, (∀ s ∈ l.scriptsWith hook, hook.functionName ∈ s.exports) ↔
      Succeeds row l.hookOrder hook.functionName) ∧
    ((∀ s ∈ l.loopScripts, loopFunction ∈ s.exports) ↔ Succeeds row l.hookOrder loopFunction) := by
  intro start l row
  have keeps : l.Keeps row := Keeps.changes (l := start) ⟨fun _ => rfl, rfl⟩ cs
  have hooks (hook : Hook) : (∀ s ∈ l.scriptsWith hook, hook.functionName ∈ s.exports) ↔
      Succeeds row l.hookOrder hook.functionName := by
    simp only [keeps.mem_scriptsWith_iff, succeeds_iff]
  have loop : (∀ s ∈ l.loopScripts, loopFunction ∈ s.exports) ↔
      Succeeds row l.hookOrder loopFunction := by
    simp only [keeps.mem_loopScripts_iff, succeeds_iff]
  refine ⟨fun linked => ?_, hooks, loop⟩
  have same : row = l.hookOrder := foundIn_eq_hookOrder (l := start) (fun _ => rfl) linked
  rw [same] at hooks loop
  exact ⟨fun hook => (hooks hook).mpr (succeeds_self _ _), loop.mpr (succeeds_self _ _)⟩

/-- Two linkings: of a script with a hook, and of two without, of which the second misses an
import. -/
def halfLinked : List Change := [
  .bind ∅ none none [{ name := "A", exports := ["repeatedly_execute_always"] }],
  .bind ∅ none none [{ name := "B" }, { name := "C", imports := ["x"] }]]

/-- A script without a hook is called for it, in the place of one that had it. -/
theorem hook_of_predecessor : ∃ s ∈ (({} : Linkage).changes halfLinked).scriptsWith
    .repeatedlyExecuteAlways, Hook.functionName .repeatedlyExecuteAlways ∉ s.exports :=
  ⟨⟨"B", .auxiliary 0, []⟩, by decide, by decide⟩

end Linkage

end Adventure.Script
