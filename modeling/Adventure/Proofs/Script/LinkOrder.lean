import Mathlib.Data.List.Basic
import Mathlib.Data.List.Induction
import Adventure.Script.Linkage

/-! # Scripts are linked in order

Linking goes through a row of scripts: auxiliary modules by index, the global script, the dialog
script. A script may import what is global and what scripts in front of it export, and nothing
else. The first import that is not to be had ends the linking.

The induction is on the row from its end: `linkAll_cases` says how far linking came and what it has
put into place. Whether a script can be linked is said without the table of exports, which holds
the first exporter of each symbol (`exporter?_foldl_accept`). Hooks are kept as places and looked
up again by place; `scriptsWith_withHooks` says that nothing is lost on the way.
-/

namespace Adventure.Script

open Std (ExtTreeMap)

/-! ## Rows of scripts -/

/-- Whether a script behind `front` finds a symbol. -/
def Offered (symbols : SymbolTable) (front : List Module) (symbol : String) : Prop :=
  symbols.contains symbol = true ∨ ∃ m ∈ front, symbol ∈ m.exports

/-- Whether each script of a row finds all that it imports. -/
def Linkable (symbols : SymbolTable) (row : List Module) : Prop :=
  ∀ n m, row[n]? = some m → ∀ i ∈ m.imports, Offered symbols (row.take n) i

/-- Whether the script at place `n` is the first that misses an import, and `fault` names the first
one that it misses. -/
def FirstMissing (symbols : SymbolTable) (row : List Module) (n : Nat) (fault : LinkFault) :
    Prop :=
  ∃ m before after, row[n]? = some m ∧ Linkable symbols (row.take n) ∧
    m.imports = before ++ fault.symbol :: after ∧
    (∀ i ∈ before, Offered symbols (row.take n) i) ∧
    ¬ Offered symbols (row.take n) fault.symbol ∧ fault.script = m.name

/-- The name of the first script of a row that exports a symbol. -/
def firstExporter? (row : List Module) (symbol : String) : Option String :=
  (row.find? (·.exportsSymbol symbol)).map (·.name)

/-- A script as it stands when it has been linked. -/
def linked (link : Kind × Module) : Linked :=
  { name := link.2.name, kind := link.1, exports := link.2.exports }

variable {symbols : SymbolTable} {row : List Module} {m : Module}

theorem linkable_nil : Linkable symbols [] := by
  intro n m here
  simp at here

theorem linkable_concat : Linkable symbols (row ++ [m]) ↔
    Linkable symbols row ∧ ∀ i ∈ m.imports, Offered symbols row i := by
  constructor
  · intro all
    constructor
    · intro n k here
      have low := (List.getElem?_eq_some_iff.mp here).1
      have last := all n k ((List.getElem?_append_left low).trans here)
      rwa [List.take_append_of_le_length (Nat.le_of_lt low)] at last
    · have last := all row.length m List.getElem?_concat_length
      rwa [List.take_left] at last
  · rintro ⟨front, last⟩ n k here
    rcases Nat.lt_trichotomy n row.length with low | rfl | high
    · rw [List.take_append_of_le_length (Nat.le_of_lt low)]
      exact front n k ((List.getElem?_append_left low).symm.trans here)
    · obtain rfl := Option.some.inj (List.getElem?_concat_length.symm.trans here)
      rwa [List.take_left]
    · rw [List.getElem?_eq_none (by simp; omega)] at here
      cases here

theorem firstMissing_concat {n : Nat} {fault : LinkFault}
    (missing : FirstMissing symbols row n fault) : FirstMissing symbols (row ++ [m]) n fault := by
  obtain ⟨k, before, after, here, rest⟩ := missing
  have low := (List.getElem?_eq_some_iff.mp here).1
  refine ⟨k, before, after, (List.getElem?_append_left low).trans here, ?_⟩
  rwa [List.take_append_of_le_length (Nat.le_of_lt low)]

/-- A row that misses something cannot be linked. -/
theorem not_linkable_of_firstMissing {n : Nat} {fault : LinkFault}
    (missing : FirstMissing symbols row n fault) : ¬ Linkable symbols row := by
  obtain ⟨k, before, after, here, -, split, -, absent, -⟩ := missing
  intro all
  exact absent (all n k here fault.symbol (by simp [split]))

theorem FirstMissing.le {n k : Nat} {fault : LinkFault} (missing : FirstMissing symbols row n fault)
    (linkable : Linkable symbols (row.take k)) : k ≤ n := by
  obtain ⟨m, before, after, here, -, split, -, absent, -⟩ := missing
  by_contra front
  have found := linkable n m (by rw [List.getElem?_take_of_lt (by omega), here]) fault.symbol
  rw [List.take_take, Nat.min_eq_left (by omega)] at found
  exact absent (found (by simp [split]))

theorem FirstMissing.linkable {n : Nat} {fault : LinkFault}
    (missing : FirstMissing symbols row n fault) : Linkable symbols (row.take n) := by
  obtain ⟨m, before, after, here, linkable, rest⟩ := missing
  exact linkable

/-- Only one member of a list is the first that fails a test. -/
theorem eq_of_splits {P : String → Prop} {before before' after after' : List String}
    {a b : String} (same : before ++ a :: after = before' ++ b :: after')
    (found : ∀ i ∈ before, P i) (found' : ∀ i ∈ before', P i) (absent : ¬ P a)
    (absent' : ¬ P b) : a = b := by
  induction before generalizing before' with
  | nil =>
    cases before' with
    | nil => exact (List.cons.inj same).1
    | cons first rest =>
      obtain ⟨rfl, -⟩ := List.cons.inj same
      exact absurd (found' a List.mem_cons_self) absent
  | cons first rest hyp =>
    cases before' with
    | nil =>
      obtain ⟨rfl, -⟩ := List.cons.inj same
      exact absurd (found first List.mem_cons_self) absent'
    | cons first' rest' =>
      obtain ⟨-, tails⟩ := List.cons.inj same
      exact hyp tails (fun i listed => found i (List.mem_cons_of_mem _ listed))
        (fun i listed => found' i (List.mem_cons_of_mem _ listed))

theorem FirstMissing.unique {n k : Nat} {fault other : LinkFault}
    (missing : FirstMissing symbols row n fault) (also : FirstMissing symbols row k other) :
    fault = other := by
  obtain rfl : n = k := Nat.le_antisymm (also.le missing.linkable) (missing.le also.linkable)
  obtain ⟨m, before, after, here, -, split, found, absent, name⟩ := missing
  obtain ⟨m', before', after', here', -, split', found', absent', name'⟩ := also
  obtain rfl := Option.some.inj (here.symm.trans here')
  have symbol := eq_of_splits (split.symm.trans split') found found' absent absent'
  cases fault
  cases other
  simp only [LinkFault.mk.injEq]
  exact ⟨symbol, name.trans name'.symm⟩

theorem firstExporter?_isSome (row : List Module) (symbol : String) :
    (firstExporter? row symbol).isSome = true ↔ ∃ m ∈ row, symbol ∈ m.exports := by
  simp [firstExporter?, Module.exportsSymbol]

namespace Linkage

variable {l : Linkage}

/-! ## What is known of exports -/

/-- Links one script without asking for its imports. -/
def accept (l : Linkage) (link : Kind × Module) : Linkage :=
  (l.publish (linked link)).install (linked link)

theorem exporter?_publish (l : Linkage) (s : Linked) (symbol : String) :
    (l.publish s).exporter? symbol =
      (l.exporter? symbol).or (if symbol ∈ s.exports then some s.name else none) := by
  obtain ⟨name, kind, exports⟩ := s
  simp only [publish, exporter?]
  induction exports generalizing l with
  | nil => simp
  | cons first rest hyp =>
    have noted := hyp { l with exported := l.exported.insertIfNew first name }
    simp only [List.foldl_cons, noted, ExtTreeMap.getElem?_insertIfNew,
      Std.LawfulEqCmp.compare_eq_iff_eq, List.mem_cons]
    by_cases same : first = symbol
    · subst same
      cases known : l.exported[first]? with
      | none => simp [ExtTreeMap.mem_iff_isSome_getElem?, known]
      | some owner => simp [ExtTreeMap.mem_iff_isSome_getElem?, known]
    · simp [same, Ne.symm same]

theorem exporter?_install (l : Linkage) (s : Linked) (symbol : String) :
    (l.install s).exporter? symbol = l.exporter? symbol := by
  unfold install
  cases s.kind <;> rfl

theorem exporter?_accept (l : Linkage) (link : Kind × Module) (symbol : String) :
    (l.accept link).exporter? symbol =
      (l.exporter? symbol).or (firstExporter? [link.2] symbol) := by
  rw [accept, exporter?_install, exporter?_publish]
  by_cases exports : symbol ∈ link.2.exports
  · simp [linked, firstExporter?, Module.exportsSymbol, exports]
  · simp [linked, firstExporter?, Module.exportsSymbol, exports]

/-- The first exporter of a symbol keeps it. -/
theorem exporter?_foldl_accept (l : Linkage) (order : List (Kind × Module)) (symbol : String) :
    (order.foldl accept l).exporter? symbol =
      (l.exporter? symbol).or (firstExporter? (order.map (·.2)) symbol) := by
  induction order generalizing l with
  | nil => simp [firstExporter?]
  | cons link rest hyp =>
    have split : firstExporter? (link.2 :: rest.map (·.2)) symbol =
        (firstExporter? [link.2] symbol).or (firstExporter? (rest.map (·.2)) symbol) := by
      simp only [firstExporter?, List.find?_cons, List.find?_nil]
      cases link.2.exportsSymbol symbol <;> rfl
    rw [List.foldl_cons, hyp, exporter?_accept, List.map_cons, split, Option.or_assoc]

/-! ## How far linking comes -/

/-- Whether `l` knows the exports of the scripts of a row, the first exporter of each. -/
def Knows (l : Linkage) (row : List Module) : Prop :=
  ∀ symbol, l.exporter? symbol = firstExporter? row symbol

theorem Knows.provides_iff (knows : l.Knows row) (symbol : String) :
    (!symbols.contains symbol && !l.exported.contains symbol) = true ↔
      ¬ Offered symbols row symbol := by
  have provided : l.exported.contains symbol = true ↔ ∃ m ∈ row, symbol ∈ m.exports := by
    rw [ExtTreeMap.contains_eq_isSome_getElem?, ← firstExporter?_isSome, ← knows symbol]
    rfl
  rw [Offered, ← provided]
  simp only [Bool.and_eq_true, Bool.not_eq_true', not_or, Bool.not_eq_true]

theorem Knows.link_cases (knows : l.Knows row) (symbols : SymbolTable) (m : Module)
    (kind : Kind) :
    ((∀ i ∈ m.imports, Offered symbols row i) ∧
      l.link symbols m kind = .ok (linked (kind, m))) ∨
    ∃ before symbol after, m.imports = before ++ symbol :: after ∧
      (∀ i ∈ before, Offered symbols row i) ∧ ¬ Offered symbols row symbol ∧
      l.link symbols m kind = .error ⟨symbol, m.name⟩ := by
  simp only [link, missingImport?]
  cases search : m.imports.find? fun s => !symbols.contains s && !l.exported.contains s with
  | none =>
    left
    refine ⟨?_, rfl⟩
    intro i listed
    have found := List.find?_eq_none.mp search i listed
    rwa [knows.provides_iff, not_not] at found
  | some symbol =>
    right
    obtain ⟨missed, before, after, split, found⟩ := List.find?_eq_some_iff_append.mp search
    refine ⟨before, symbol, after, split, ?_, (knows.provides_iff symbol).mp missed, rfl⟩
    intro i listed
    have here := found i listed
    rwa [Bool.not_eq_true', ← Bool.not_eq_true, knows.provides_iff, not_not] at here

theorem linkAll_concat (l : Linkage) (symbols : SymbolTable) (order : List (Kind × Module))
    (kind : Kind) (m : Module) : l.linkAll symbols (order ++ [(kind, m)]) =
      match l.linkAll symbols order with
      | (.error fault, l) => (.error fault, l)
      | (.ok _, l) =>
        match l.link symbols m kind with
        | .error fault => (.error fault, l)
        | .ok s => (.ok (), (l.publish s).install s) := by
  induction order generalizing l with
  | nil =>
    rw [List.nil_append]
    cases here : l.link symbols m kind with
    | error fault => simp only [linkAll, here]
    | ok s => simp only [linkAll, here]
  | cons first rest hyp =>
    obtain ⟨firstKind, firstModule⟩ := first
    simp only [List.cons_append, linkAll]
    cases l.link symbols firstModule firstKind with
    | error fault => rfl
    | ok s => exact hyp _

/-- Linking goes to the end of a row that can be linked, and to the first missing import of any
other. -/
theorem linkAll_cases (nothing : ∀ symbol, l.exporter? symbol = none) (symbols : SymbolTable)
    (order : List (Kind × Module)) :
    (Linkable symbols (order.map (·.2)) ∧
      l.linkAll symbols order = (.ok (), order.foldl accept l)) ∨
    ∃ n fault, FirstMissing symbols (order.map (·.2)) n fault ∧
      l.linkAll symbols order = (.error fault, (order.take n).foldl accept l) := by
  induction order using List.reverseRecOn with
  | nil => exact .inl ⟨linkable_nil, rfl⟩
  | append_singleton order link hyp =>
    obtain ⟨kind, m⟩ := link
    rw [linkAll_concat, List.map_append, List.map_singleton]
    rcases hyp with ⟨front, done⟩ | ⟨n, fault, missing, failed⟩
    · have knows : (order.foldl accept l).Knows (order.map (·.2)) := by
        intro symbol
        rw [exporter?_foldl_accept, nothing, Option.none_or]
      rcases knows.link_cases symbols m kind with
        ⟨offered, joined⟩ | ⟨before, symbol, after, split, found, absent, refused⟩
      · left
        simp only [done, joined, List.foldl_append]
        exact ⟨linkable_concat.mpr ⟨front, offered⟩, rfl⟩
      · -- the new script is the first that misses anything
        right
        refine ⟨order.length, ⟨symbol, m.name⟩, ⟨m, before, after, ?_⟩, ?_⟩
        · rw [← List.length_map (f := (·.2)), List.take_left]
          exact ⟨List.getElem?_concat_length, front, split, found, absent, rfl⟩
        · simp only [done, refused, List.take_left]
    · right
      refine ⟨n, fault, firstMissing_concat missing, ?_⟩
      obtain ⟨k, before, after, here, -⟩ := missing
      have low := (List.getElem?_eq_some_iff.mp here).1
      rw [List.length_map] at low
      simp only [failed, List.take_append_of_le_length (Nat.le_of_lt low)]

/-! ## What stands where -/

/-- The scripts of the game, in the order of linking. -/
def gameScripts (l : Linkage) : List Linked := l.auxiliary ++ l.global.toList ++ l.dialog.toList

theorem modules_linkOrder (global dialog : Option Module) (auxiliary : List Module) :
    (linkOrder global dialog auxiliary).map (·.2) =
      auxiliary ++ global.toList ++ dialog.toList := by
  simp only [linkOrder, List.map_append, List.map_map, List.mapIdx_eq_zipIdx_map]
  congr 1
  · congr 1
    · exact List.zipIdx_map_fst 0 auxiliary
    · exact List.map_id _
  · exact List.map_id _

/-- Linking came as far as a row of its own when it stopped part way. -/
theorem take_linkOrder (global dialog : Option Module) (auxiliary : List Module) (n : Nat) :
    ∃ global' dialog' auxiliary',
      (linkOrder global dialog auxiliary).take n = linkOrder global' dialog' auxiliary' := by
  have cut (script : Option Module) (kind : Kind) (k : Nat) : ∃ script' : Option Module,
      (script.toList.map (kind, ·)).take k = script'.toList.map (kind, ·) := by
    cases k with
    | zero => exact ⟨none, rfl⟩
    | succ k => exact ⟨script, by cases script <;> simp⟩
  simp only [linkOrder, List.take_append]
  obtain ⟨global', globalCut⟩ := cut global .global (n - (auxiliary.mapIdx fun i m =>
    (Kind.auxiliary i, m)).length)
  obtain ⟨dialog', dialogCut⟩ := cut dialog .dialog (n - ((auxiliary.mapIdx fun i m =>
    (Kind.auxiliary i, m)) ++ global.toList.map (Kind.global, ·)).length)
  refine ⟨global', dialog', auxiliary.take n, ?_⟩
  rw [globalCut, dialogCut]
  congr 2
  apply List.ext_getElem?
  intro place
  simp only [List.getElem?_take, List.getElem?_mapIdx]
  split <;> rfl

/-- Auxiliary modules stand in the row that they were linked in, and nothing else is touched. -/
theorem foldl_accept_auxiliary (l : Linkage) (auxiliary : List Module) (kind : Nat → Nat) :
    let links := auxiliary.mapIdx fun i m => (Kind.auxiliary (kind i), m)
    let after := links.foldl accept l
    after.auxiliary = l.auxiliary ++ links.map linked ∧ after.global = l.global ∧
      after.dialog = l.dialog ∧ after.room = l.room := by
  induction auxiliary generalizing l kind with
  | nil => simp
  | cons m rest hyp =>
    obtain ⟨row, global, dialog, room⟩ :=
      hyp (l.accept (.auxiliary (kind 0), m)) fun i => kind (i + 1)
    simp only [List.mapIdx_cons, List.foldl_cons, List.map_cons]
    refine ⟨?_, global, dialog, room⟩
    rw [row]
    simp [accept, install, publish, linked]

theorem places_foldl_accept (l : Linkage) (global dialog : Option Module)
    (auxiliary : List Module) :
    let after := (linkOrder global dialog auxiliary).foldl accept l.cleared
    after.gameScripts = (linkOrder global dialog auxiliary).map linked ∧
      after.hookOrder = (linkOrder global none auxiliary).map linked ∧ after.room = none := by
  obtain ⟨row, noGlobal, noDialog, noRoom⟩ := foldl_accept_auxiliary l.cleared auxiliary id
  simp only [id, cleared, List.nil_append] at row noGlobal noDialog noRoom
  simp only [linkOrder, List.foldl_append, gameScripts, hookOrder, cleared]
  cases global <;> cases dialog <;>
    simp [accept, install, publish, linked, row, noGlobal, noDialog, noRoom]

/-! ## Hooks -/

theorem filterMap_placesOf (scripts : List Linked) (function : String) :
    (placesOf scripts function).filterMap (scripts[·]?) =
      scripts.filter (·.implements function) := by
  have found (places : List (Linked × Nat)) (within : ∀ place ∈ places, place ∈ scripts.zipIdx) :
      (places.map (·.2)).filterMap (scripts[·]?) = places.map (·.1) := by
    rw [List.filterMap_map, List.filterMap_eq_map_iff_forall_eq_some]
    intro place listed
    exact List.mem_zipIdx_iff_getElem?.mp (within place listed)
  rw [placesOf, found _ fun place listed => List.mem_of_mem_filter listed]
  conv => rhs; rw [← List.zipIdx_map_fst 0 scripts, List.filter_map]
  rfl

/-- A hook that is looked up by places finds the scripts that have it, in their order. -/
theorem scriptsWith_withHooks (l : Linkage) (hook : Hook) :
    l.withHooks.scriptsWith hook = l.hookOrder.filter (·.implements hook.functionName) :=
  filterMap_placesOf l.hookOrder hook.functionName

theorem filter_zip_map {α : Type} (items : List α) (p : α → Bool) :
    ((items.zip (items.map p)).filter (·.2)).map (·.1) = items.filter p := by
  induction items with
  | nil => rfl
  | cons first rest hyp =>
    rw [List.map_cons, List.zip_cons_cons]
    cases here : p first with
    | true => simp [here, hyp]
    | false => simp [here, hyp]

theorem loopScripts_withHooks (l : Linkage) :
    l.withHooks.loopScripts = l.hookOrder.filter (·.implements loopFunction) :=
  filter_zip_map l.hookOrder _

theorem names_withHooks (l : Linkage) :
    l.withHooks.names = (l.gameScripts ++ l.room.toList).map (·.name) := rfl

/-! ## Linking the scripts of rooms -/

/-- What is done to linked scripts. -/
inductive Change where
  | bind (symbols : SymbolTable) (global dialog : Option Module) (auxiliary : List Module)
  | withRoom (room : Option Linked)

/-- Carries out one change. A linking that fails leaves what it has linked. -/
def change (l : Linkage) : Change → Linkage
  | .bind symbols global dialog auxiliary => (l.bind symbols global dialog auxiliary).2
  | .withRoom room => l.withRoom room

def changes (l : Linkage) (cs : List Change) : Linkage := cs.foldl change l

/-- Whether the symbols that are known are those that the scripts of the game export. -/
def Consistent (l : Linkage) : Prop :=
  ∀ symbol, l.exported.contains symbol = true ↔ ∃ s ∈ l.gameScripts, symbol ∈ s.exports

theorem bind_cases (l : Linkage) (symbols : SymbolTable) (global dialog : Option Module)
    (auxiliary : List Module) :
    let row := auxiliary ++ global.toList ++ dialog.toList
    let order := linkOrder global dialog auxiliary
    (Linkable symbols row ∧ l.bind symbols global dialog auxiliary =
      (.ok (), (order.foldl accept l.cleared).withHooks)) ∨
    ∃ n fault, FirstMissing symbols row n fault ∧ l.bind symbols global dialog auxiliary =
      (.error fault, (order.take n).foldl accept l.cleared) := by
  have nothing (symbol : String) : l.cleared.exporter? symbol = none := by
    simp [cleared, exporter?]
  simp only [bind, ← modules_linkOrder]
  rcases linkAll_cases nothing symbols (linkOrder global dialog auxiliary) with
    ⟨linkable, done⟩ | ⟨n, fault, missing, failed⟩
  · exact .inl ⟨linkable, by rw [done]⟩
  · exact .inr ⟨n, fault, missing, by rw [failed]⟩

theorem bind_ok_iff (l : Linkage) (symbols : SymbolTable) (global dialog : Option Module)
    (auxiliary : List Module) : (l.bind symbols global dialog auxiliary).1 = .ok () ↔
      Linkable symbols (auxiliary ++ global.toList ++ dialog.toList) := by
  rcases bind_cases l symbols global dialog auxiliary with
    ⟨linkable, done⟩ | ⟨n, fault, missing, failed⟩
  · rw [done]
    exact iff_of_true rfl linkable
  · rw [failed]
    exact iff_of_false (by simp) (not_linkable_of_firstMissing missing)

theorem knows_foldl_accept (l : Linkage) (order : List (Kind × Module)) :
    (order.foldl accept l.cleared).Knows (order.map (·.2)) := by
  intro symbol
  rw [exporter?_foldl_accept]
  simp [cleared, exporter?]

theorem consistent_foldl_accept (l : Linkage) (global dialog : Option Module)
    (auxiliary : List Module) :
    ((linkOrder global dialog auxiliary).foldl accept l.cleared).Consistent := by
  intro symbol
  have knows := knows_foldl_accept l (linkOrder global dialog auxiliary) symbol
  obtain ⟨scripts, -, -⟩ := places_foldl_accept l global dialog auxiliary
  rw [scripts, ExtTreeMap.contains_eq_isSome_getElem?]
  show (exporter? _ symbol).isSome = true ↔ _
  rw [knows, firstExporter?_isSome]
  simp only [List.mem_map, exists_exists_and_eq_and, linked]

theorem consistent_bind (l : Linkage) (symbols : SymbolTable) (global dialog : Option Module)
    (auxiliary : List Module) : (l.bind symbols global dialog auxiliary).2.Consistent := by
  rcases bind_cases l symbols global dialog auxiliary with ⟨-, done⟩ | ⟨n, fault, -, failed⟩
  · rw [done]
    exact consistent_foldl_accept l global dialog auxiliary
  · -- what was linked before a failure stays, with its exports
    obtain ⟨global', dialog', auxiliary', cut⟩ := take_linkOrder global dialog auxiliary n
    rw [failed, cut]
    exact consistent_foldl_accept l global' dialog' auxiliary'

theorem Consistent.changes (consistent : l.Consistent) (cs : List Change) :
    (l.changes cs).Consistent := by
  induction cs generalizing l with
  | nil => exact consistent
  | cons c rest hyp =>
    apply hyp
    cases c with
    | bind symbols global dialog auxiliary =>
      exact consistent_bind l symbols global dialog auxiliary
    | withRoom room => exact consistent

/-- Whether the script of a room can be linked exactly if all that it imports is global or exported
by a script of the game. -/
def LinksRooms (l : Linkage) : Prop :=
  ∀ symbols m number, (∃ s, l.linkRoom symbols m number = .ok s) ↔ ∀ i ∈ m.imports,
    symbols.contains i = true ∨ ∃ s ∈ l.gameScripts, i ∈ s.exports

theorem Consistent.linksRooms (consistent : l.Consistent) : l.LinksRooms := by
  intro symbols m number
  simp only [← consistent _, linkRoom, link, missingImport?]
  cases search : m.imports.find? fun s => !symbols.contains s && !l.exported.contains s with
  | none =>
    have found := List.find?_eq_none.mp search
    simp only [Bool.and_eq_true, Bool.not_eq_true', not_and, Bool.not_eq_false] at found
    simp only [Except.ok.injEq, exists_eq', true_iff]
    intro i listed
    exact (Bool.eq_false_or_eq_true _).imp id (found i listed)
  | some symbol =>
    have listed := List.mem_of_find?_eq_some search
    have missed := List.find?_some search
    simp only [Bool.and_eq_true, Bool.not_eq_true'] at missed
    simp only [reduceCtorEq, exists_false, false_iff, not_forall]
    exact ⟨symbol, listed, by simp [missed]⟩

/-! ## Linking a game -/

/-- What linking the scripts of a game answers and leaves behind. -/
structure InOrder (symbols : SymbolTable) (global dialog : Option Module)
    (auxiliary : List Module) (outcome : Except LinkFault Unit × Linkage) : Prop where
  ok_iff : outcome.1 = .ok () ↔ Linkable symbols (auxiliary ++ global.toList ++ dialog.toList)
  error_iff : ∀ fault, outcome.1 = .error fault ↔
    ∃ n, FirstMissing symbols (auxiliary ++ global.toList ++ dialog.toList) n fault
  message : ∀ fault, outcome.1 = .error fault → fault.message =
    s!"unresolved import '{fault.symbol}' in script '{fault.script}'"
  exporter : outcome.1 = .ok () → ∀ symbol, outcome.2.exporter? symbol =
    firstExporter? (auxiliary ++ global.toList ++ dialog.toList) symbol
  names : outcome.1 = .ok () →
    outcome.2.names = (auxiliary ++ global.toList ++ dialog.toList).map (·.name)
  noRoom : outcome.1 = .ok () → outcome.2.room = none
  /-- Hooks reach auxiliary modules, then the global script. -/
  hooks : outcome.1 = .ok () → ∀ hook, outcome.2.scriptsWith hook =
    ((linkOrder global none auxiliary).map linked).filter (·.implements hook.functionName)
  loop : outcome.1 = .ok () → outcome.2.loopScripts =
    ((linkOrder global none auxiliary).map linked).filter (·.implements loopFunction)
  /-- Room scripts see every script that is linked, now and after whatever comes next. -/
  rooms : ∀ later, (outcome.2.changes later).LinksRooms

theorem bind_inOrder (l : Linkage) (symbols : SymbolTable) (global dialog : Option Module)
    (auxiliary : List Module) :
    InOrder symbols global dialog auxiliary (l.bind symbols global dialog auxiliary) := by
  have okIff := bind_ok_iff l symbols global dialog auxiliary
  have rooms := (consistent_bind l symbols global dialog auxiliary).changes
  rcases bind_cases l symbols global dialog auxiliary with
    ⟨linkable, done⟩ | ⟨n, fault, missing, failed⟩
  · obtain ⟨scripts, hooked, noRoom⟩ := places_foldl_accept l global dialog auxiliary
    have knows := knows_foldl_accept l (linkOrder global dialog auxiliary)
    rw [modules_linkOrder] at knows
    rw [done] at okIff rooms ⊢
    exact {
      ok_iff := okIff
      error_iff := by
        intro fault
        simp only [reduceCtorEq, false_iff, not_exists]
        intro n missing
        exact not_linkable_of_firstMissing missing linkable
      message := fun fault _ => rfl
      exporter := fun _ => knows
      names := by
        intro _
        rw [names_withHooks, scripts, noRoom, ← modules_linkOrder]
        simp only [Option.toList_none, List.append_nil, List.map_map]
        rfl
      noRoom := fun _ => noRoom
      hooks := by
        intro _ hook
        rw [scriptsWith_withHooks, hooked]
      loop := by
        intro _
        rw [loopScripts_withHooks, hooked]
      rooms := fun later => (rooms later).linksRooms }
  · rw [failed] at okIff rooms ⊢
    exact {
      ok_iff := okIff
      error_iff := by
        intro other
        simp only [Except.error.injEq]
        constructor
        · rintro rfl
          exact ⟨n, missing⟩
        · rintro ⟨k, also⟩
          exact missing.unique also
      message := fun fault _ => rfl
      exporter := by simp
      names := by simp
      noRoom := by simp
      hooks := by simp
      loop := by simp
      rooms := fun later => (rooms later).linksRooms }

theorem consistent_start (timeout : UInt32) : ({ timeout } : Linkage).Consistent := by
  intro symbol
  simp [gameScripts]

/-- Linking a game is exact, from whatever was linked before, and linking the script of a room is
exact at all times. -/
theorem exact_linking (symbols : SymbolTable) (global dialog : Option Module)
    (auxiliary : List Module) :
    (∀ l : Linkage, InOrder symbols global dialog auxiliary
      (l.bind symbols global dialog auxiliary)) ∧
    ∀ timeout cs, (({ timeout } : Linkage).changes cs).LinksRooms := by
  constructor
  · intro l
    exact bind_inOrder l symbols global dialog auxiliary
  · intro timeout cs
    exact ((consistent_start timeout).changes cs).linksRooms

end Linkage

end Adventure.Script
