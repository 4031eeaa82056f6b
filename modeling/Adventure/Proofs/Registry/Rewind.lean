import Adventure.Proofs.Registry.Image
import Adventure.Proofs.Registry.Issued
import Adventure.Proofs.Registry.Restored

/-! # A restore turns the counter back

A save holds the counter of handles, and a restore brings it back to where it was. Handles that were
issued after the save are then issued once more, for whatever is registered next, and a name that
was bound to one of them stands for that.

* `Turn`, `Course` — requests, saves, and restores of what has been saved before.
* `Course.table_cases` — what a turn makes of the table.
* `Course.Issues.keeps` — what becomes of a handle if no restore goes back behind its issue.
-/

namespace Adventure.Registry

open Std (ExtTreeMap)

/-! ## Turns -/

inductive Turn where
  | ask (request : Request)
  /-- With the objects that are there at the time. -/
  | save (objects : Arena DynamicObject)
  /-- Restores what has been saved at the turn with this number. -/
  | restore (objects : Arena DynamicObject) (saved : Nat)

/-- A registry with what each turn so far has saved. -/
structure Course where
  registry : Registry := {}
  images : List (Option Bytes) := []

namespace Course

/-- What a turn saves. -/
def image? (c : Course) : Turn → Option Bytes
  | .save objects => some (c.registry.snapshot objects).toImage
  | _ => none

/-- What a turn makes of the registry. What cannot be read restores nothing, nor does what would end
the program. -/
def next (c : Course) : Turn → Registry
  | .ask request => (c.registry.serve request).2
  | .save _ => c.registry
  | .restore objects saved =>
    match c.images[saved]?.join.bind Snapshot.ofImage? with
    | some s => ((c.registry.restore objects s).toOption.map (·.1)).getD c.registry
    | none => c.registry

def play (c : Course) (turn : Turn) : Course where
  registry := c.next turn
  images := c.images ++ [c.image? turn]

/-- What the first `n` turns lead to. -/
def upTo (turns : List Turn) (n : Nat) : Course := (turns.take n).foldl play {}

/-- The registry after the first `n` turns. -/
def table (turns : List Turn) (n : Nat) : Registry := (upTo turns n).registry

variable {turns : List Turn} {n m k : Nat}

theorem upTo_succ {turn : Turn} (here : turns[n]? = some turn) :
    upTo turns (n + 1) = (upTo turns n).play turn :=
  foldl_take_succ here

theorem upTo_succ_of_none (past : turns[n]? = none) : upTo turns (n + 1) = upTo turns n :=
  foldl_take_succ_of_none past

theorem images_upTo (turns : List Turn) (n : Nat) :
    (upTo turns n).images = (turns.take n).mapIdx fun j turn => (upTo turns j).image? turn := by
  induction n with
  | zero => rfl
  | succ n hyp =>
    cases here : turns[n]? with
    | none => simp [upTo_succ_of_none here, hyp, List.take_add_one, here]
    | some turn =>
      have low := (List.getElem?_eq_some_iff.mp here).1
      rw [upTo_succ here, List.take_add_one, here, Option.toList_some, List.mapIdx_append, play,
        hyp, List.length_take, Nat.min_eq_left (Nat.le_of_lt low)]
      simp

/-- Whether the fields of images hold all that is saved. -/
def Storable (turns : List Turn) : Prop :=
  ∀ n objects, turns[n]? = some (.save objects) → ((table turns n).snapshot objects).Fits

/-- What has been saved at one turn can be restored at any later one, and nothing else can. -/
theorem restorable_iff (storable : Storable turns) (n j : Nat) (s : Snapshot) :
    (upTo turns n).images[j]?.join.bind Snapshot.ofImage? = some s ↔ j < n ∧
      ∃ objects, turns[j]? = some (.save objects) ∧ s = (table turns j).snapshot objects := by
  rw [images_upTo, List.getElem?_mapIdx, List.getElem?_take]
  by_cases past : j < n
  · simp only [past, if_true, true_and]
    cases here : turns[j]? with
    | none => simp
    | some turn =>
      cases turn with
      | save objects =>
        have read := ofImage?_toImage (storable j objects here)
        simp only [table] at read ⊢
        simp [image?, read, eq_comm]
      | ask request => simp [image?]
      | restore objects saved => simp [image?]
  · simp [past]

theorem table_restore (storable : Storable turns) {objects objects' : Arena DynamicObject}
    (here : turns[n]? = some (.restore objects k)) (past : k < n)
    (saved : turns[k]? = some (.save objects')) (numbered : (table turns k).Numbered) :
    table turns (n + 1) =
      ((table turns n).restored objects ((table turns k).snapshot objects')).1 := by
  have found := (restorable_iff storable n k _).mpr ⟨past, objects', saved, rfl⟩
  have possible := numbered.restore_snapshot numbered.one_le_nextHandle numbered.nextHandle_le
    (table turns n) objects objects'
  rw [table, upTo_succ here]
  simp only [play, next, found]
  rw [table] at possible
  rw [possible]
  rfl

/-- What a turn makes of the table. -/
theorem table_cases (storable : Storable turns) (n : Nat)
    (numbered : ∀ j < n, (table turns j).Numbered) :
    (∃ request, turns[n]? = some (.ask request) ∧
      table turns (n + 1) = ((table turns n).serve request).2) ∨
    ((∀ request, turns[n]? ≠ some (.ask request)) ∧ table turns (n + 1) = table turns n) ∨
    ∃ objects objects' j, turns[n]? = some (.restore objects j) ∧ j < n ∧
      turns[j]? = some (.save objects') ∧ table turns (n + 1) =
        ((table turns n).restored objects ((table turns j).snapshot objects')).1 := by
  cases here : turns[n]? with
  | none => exact .inr (.inl ⟨by simp, by rw [table, table, upTo_succ_of_none here]⟩)
  | some turn =>
    cases turn with
    | ask request => exact .inl ⟨request, rfl, by rw [table, upTo_succ here]; rfl⟩
    | save objects => exact .inr (.inl ⟨by simp, by rw [table, upTo_succ here]; rfl⟩)
    | restore objects j =>
      cases found : (upTo turns n).images[j]?.join.bind Snapshot.ofImage? with
      | some s =>
        obtain ⟨past, objects', saved, -⟩ := (restorable_iff storable n j s).mp found
        exact .inr (.inr ⟨objects, objects', j, rfl, past, saved,
          table_restore storable here past saved (numbered j past)⟩)
      | none =>
        refine .inr (.inl ⟨by simp, ?_⟩)
        rw [table, upTo_succ here]
        simp only [play, next, found]
        rfl

end Course

/-! ## Restored tables -/

variable {r : Registry}

theorem Numbered.restore (numbered : r.Numbered) (old : Registry)
    (oldObjects objects : Arena DynamicObject) :
    (old.restored oldObjects (r.snapshot objects)).1.Numbered := by
  have counter := numbered.nextHandle_restore numbered.one_le_nextHandle old oldObjects objects
  refine ⟨coherent_restore _ _ (numbered.snapshot_unambiguous objects), ?_, ?_, ?_⟩
  · rw [counter]
    exact numbered.one_le_nextHandle
  · rw [counter]
    exact numbered.nextHandle_le
  · intro handle
    rw [counter, ← numbered.isSome_iff]
    cases there : r.entries[handle]? with
    | none => rw [entries_restore_of_none _ _ _ there]
    | some e =>
      obtain ⟨revived, entry⟩ := entries_restore_of_some old oldObjects objects there
      rw [entry]
      rfl

/-- Whether a handle stands for what it has been issued for, or for nothing any more. An object that
has been restored has a key of its own. -/
def Keeps (r : Registry) (pair : Target × ScriptType) (handle : Handle) : Prop :=
  ∃ e, r.entries[handle]? = some e ∧ e.type = pair.2 ∧
    (e.target = some pair.1 ∨ e.target = none ∨
      ∃ old new, pair.1 = .dynamic old ∧ e.target = some (.dynamic new))

variable {pair : Target × ScriptType} {handle : Handle}

theorem Keeps.continues {later : Registry} (keeps : r.Keeps pair handle)
    (continues : r.Continues later) : later.Keeps pair handle := by
  obtain ⟨e, there, type, stands⟩ := keeps
  obtain ⟨e', there', type', target⟩ := continues handle e there
  refine ⟨e', there', type'.trans type, ?_⟩
  rcases target with kept | gone
  · rwa [kept]
  · exact .inr (.inl gone)

theorem Keeps.restore (keeps : r.Keeps pair handle) (old : Registry)
    (oldObjects objects : Arena DynamicObject) :
    (old.restored oldObjects (r.snapshot objects)).1.Keeps pair handle := by
  obtain ⟨⟨type, target, references⟩, there, sameType, stands⟩ := keeps
  obtain ⟨revived, entry⟩ := entries_restore_of_some old oldObjects objects there
  refine ⟨_, entry, sameType, ?_⟩
  cases target with
  | none => exact .inr (.inl rfl)
  | some target =>
    cases target with
    | static e =>
      have same : pair.1 = .static e := by simpa [eq_comm] using stands
      exact .inl (by rw [same]; rfl)
    | dynamic key =>
      -- the object has gone from the world or comes back under another key
      obtain ⟨first, same⟩ : ∃ first, pair.1 = .dynamic first := by
        rcases stands with same | gone | ⟨first, -, same, -⟩
        · exact ⟨key, (Option.some.inj same).symm⟩
        · cases gone
        · exact ⟨first, same⟩
      simp only [savedTarget]
      cases objects.get? key with
      | none => exact .inr (.inl rfl)
      | some o => exact .inr (.inr ⟨first, _, same, rfl⟩)

namespace Course

variable {turns : List Turn} {n m k : Nat}

theorem numbered_table (storable : Storable turns) (n : Nat) : (table turns n).Numbered := by
  induction n using Nat.strong_induction_on with
  | h n hyp =>
    cases n with
    | zero => exact numbered_empty
    | succ n =>
      have before := hyp n (Nat.lt_succ_self n)
      rcases table_cases storable n fun j past => hyp j (Nat.lt_succ_of_lt past) with
        ⟨request, -, after⟩ | ⟨-, after⟩ | ⟨objects, objects', j, -, past, -, after⟩
      · rw [after]
        exact before.effect (effect_serve _ request)
      · rwa [after]
      · rw [after]
        exact (hyp j (Nat.lt_succ_of_lt past)).restore _ objects objects'

/-! ## Issues -/

/-- Whether turn `n` registers `pair` and is answered with `handle`. -/
def Issues (turns : List Turn) (n : Nat) (pair : Target × ScriptType) (handle : Handle) : Prop :=
  ∃ request, turns[n]? = some (.ask request) ∧ (table turns n).Grants request pair handle

/-- Whether turn `n` gives a handle to a pair that has none. -/
def IssuesFresh (turns : List Turn) (n : Nat) (pair : Target × ScriptType) (handle : Handle) :
    Prop :=
  Issues turns n pair handle ∧ (table turns n).handleFor pair.1 pair.2 = none

/-- Exactly the handles that the counter has ever been ahead of have been issued. -/
theorem exists_issues_lt_iff (storable : Storable turns) (n : Nat) (handle : Handle) :
    (∃ k < n, ∃ pair, Issues turns k pair handle) ↔
      1 ≤ handle ∧ ∃ k ≤ n, handle < (table turns k).nextHandle := by
  induction n with
  | zero =>
    simp only [Nat.not_lt_zero, false_and, exists_false, Nat.le_zero_eq, exists_eq_left,
      false_iff]
    rintro ⟨positive, within⟩
    exact absurd within (Int.not_lt.mpr positive)
  | succ n hyp =>
    simp only [Nat.lt_succ_iff_lt_or_eq, Nat.le_succ_iff, or_and_right, exists_or, exists_eq_left,
      hyp]
    rcases table_cases storable n fun j _ => numbered_table storable j with
      ⟨request, here, after⟩ | ⟨noRequest, after⟩ | ⟨objects, objects', j, here, past, -, after⟩
    · -- a request moves the counter past what it issues
      have issued : (∃ pair, Issues turns n pair handle) ↔
          ∃ pair, (table turns n).Grants request pair handle := by simp [Issues, here]
      rw [issued, after, and_or_left, (numbered_table storable n).lt_nextHandle_serve, ← or_assoc]
      refine or_congr_left (or_iff_left_of_imp ?_).symm
      rintro ⟨positive, within⟩
      exact ⟨positive, n, Nat.le_refl n, within⟩
    · have nothing : ¬ ∃ pair, Issues turns n pair handle := by
        rintro ⟨pair, request, here, -⟩
        exact noRequest request here
      rw [or_iff_left nothing, after]
      refine and_congr_right' (or_iff_left_of_imp ?_).symm
      intro within
      exact ⟨n, Nat.le_refl n, within⟩
    · -- a restore turns the counter back to where it has been
      have nothing : ¬ ∃ pair, Issues turns n pair handle := by simp [Issues, here]
      have numbered := numbered_table storable j
      rw [or_iff_left nothing, after, numbered.nextHandle_restore numbered.one_le_nextHandle]
      refine and_congr_right' (or_iff_left_of_imp ?_).symm
      intro within
      exact ⟨j, Nat.le_of_lt past, within⟩

/-- Whether the restores between two turns bring back only what has been saved since the first. -/
def SavedSince (turns : List Turn) (n m : Nat) : Prop :=
  ∀ k objects j objects', n < k → k < m → turns[k]? = some (.restore objects j) →
    turns[j]? = some (.save objects') → n < j

theorem Issues.keeps {pair : Target × ScriptType} {handle : Handle} (storable : Storable turns)
    (issues : Issues turns n pair handle) (since : SavedSince turns n m) :
    ∀ k, n < k → k ≤ m → (table turns k).Keeps pair handle := by
  intro k
  induction k using Nat.strong_induction_on with
  | h k hyp =>
    intro above below
    cases k with
    | zero => omega
    | succ k =>
      rcases table_cases storable k fun j _ => numbered_table storable j with
        ⟨request, here, after⟩ | ⟨noRequest, after⟩ |
          ⟨objects, objects', j, here, past, saved, after⟩
      · rw [after]
        rcases Nat.lt_succ_iff_lt_or_eq.mp above with later | rfl
        · exact (hyp k (Nat.lt_succ_self k) later (Nat.le_of_succ_le below)).continues
            ((numbered_table storable k).continues_effect (effect_serve _ request))
        · obtain ⟨issuing, here', grants⟩ := issues
          obtain rfl := Turn.ask.inj (Option.some.inj (here.symm.trans here'))
          obtain ⟨references, entry⟩ := (numbered_table storable n).entries_granted grants
          exact ⟨_, entry, rfl, .inl rfl⟩
      · rw [after]
        rcases Nat.lt_succ_iff_lt_or_eq.mp above with later | rfl
        · exact hyp k (Nat.lt_succ_self k) later (Nat.le_of_succ_le below)
        · obtain ⟨issuing, here', -⟩ := issues
          exact absurd here' (noRequest issuing)
      · rw [after]
        rcases Nat.lt_succ_iff_lt_or_eq.mp above with later | rfl
        · -- what is brought back has been saved with the handle in it
          have newer := since k objects j objects' later below here saved
          exact (hyp j (Nat.lt_succ_of_lt past) newer (by omega)).restore _ objects objects'
        · obtain ⟨issuing, here', -⟩ := issues
          rw [here] at here'
          cases here'

/-! ## When handles come back -/

/-- What handles mean when what has been saved is restored. -/
structure Rewinds (turns : List Turn) : Prop where
  /-- A restore turns the counter back, and names stay bound. -/
  restored : ∀ n objects j objects', turns[n]? = some (.restore objects j) → j < n →
    turns[j]? = some (.save objects') →
      (table turns (n + 1)).nextHandle = (table turns j).nextHandle ∧
      (table turns (n + 1)).symbols = (table turns n).symbols
  issued_iff : ∀ n handle, (∃ k < n, ∃ pair, Issues turns k pair handle) ↔
    1 ≤ handle ∧ ∃ k ≤ n, handle < (table turns k).nextHandle
  /-- A handle is issued anew exactly if the counter has been ahead of it. -/
  again_iff : ∀ n pair handle, IssuesFresh turns n pair handle →
    handle = (table turns n).nextHandle ∧ ((∃ k < n, ∃ pair', Issues turns k pair' handle) ↔
      ∃ k < n, handle < (table turns k).nextHandle)
  /-- A handle serves for one thing as long as nothing is restored from before its issue. -/
  resolves : ∀ n m pair handle, n < m → Issues turns n pair handle → SavedSince turns n m →
    (table turns m).resolve handle = .error (.staleHandle handle) ∨
    (table turns m).resolve handle = .ok pair ∨
    ∃ old new, pair.1 = .dynamic old ∧
      (table turns m).resolve handle = .ok (.dynamic new, pair.2)
  distinct : ∀ n m pair pair' handle handle', n < m → Issues turns n pair handle →
    IssuesFresh turns m pair' handle' → SavedSince turns n m → handle < handle'
  /-- What is bound to a handle stands for whatever that is issued for next. -/
  renamed : ∀ n name pair handle type, turns[n]? = some (.ask (.register pair.1 pair.2)) →
    Issues turns n pair handle →
    (table turns n).symbols.get? name = some (.object handle type) →
      (table turns (n + 1)).symbols.get? name = some (.object handle type) ∧
      (table turns (n + 1)).resolve handle = .ok pair

theorem rewinds_of_storable (turns : List Turn) (storable : Storable turns) : Rewinds turns where
  restored n objects j objects' here past saved := by
    have numbered := numbered_table storable j
    rw [table_restore storable here past saved numbered]
    exact ⟨numbered.nextHandle_restore numbered.one_le_nextHandle _ _ _, symbols_restore ..⟩
  issued_iff := exists_issues_lt_iff storable
  again_iff n pair handle fresh := by
    obtain ⟨request, here, grants⟩ := fresh.1
    have counter := grants.eq_nextHandle fresh.2
    have positive := (numbered_table storable n).one_le_nextHandle
    refine ⟨counter, (exists_issues_lt_iff storable n handle).trans ?_⟩
    constructor
    · rintro ⟨-, k, within, ahead⟩
      refine ⟨k, Nat.lt_of_le_of_ne within ?_, ahead⟩
      rintro rfl
      exact absurd ahead (counter ▸ Int.lt_irrefl _)
    · rintro ⟨k, before, ahead⟩
      exact ⟨counter ▸ positive, k, Nat.le_of_lt before, ahead⟩
  resolves n m pair handle order issues since := by
    obtain ⟨e, there, type, stands⟩ := issues.keeps storable since m order (Nat.le_refl m)
    rw [resolve_of_entry there, type]
    rcases stands with same | gone | ⟨old, new, was, is⟩
    · simp [same]
    · simp [gone]
    · simp [is, was]
  distinct n m pair pair' handle handle' order issues fresh since := by
    obtain ⟨e, there, -⟩ := issues.keeps storable since m order (Nat.le_refl m)
    obtain ⟨request, here, grants⟩ := fresh.1
    rw [grants.eq_nextHandle fresh.2]
    exact (numbered_table storable m).lt_nextHandle there
  renamed n name pair handle type here issues bound := by
    obtain ⟨request, here', grants⟩ := issues
    obtain rfl := Turn.ask.inj (Option.some.inj (here.symm.trans here'))
    obtain ⟨references, entry⟩ := (numbered_table storable n).entries_granted grants
    have after : table turns (n + 1) = ((table turns n).serve (.register pair.1 pair.2)).2 := by
      rw [table, upTo_succ here]
      rfl
    rw [after, resolve_of_entry entry]
    exact ⟨(congrArg (·.get? name) (symbols_serve_register ..)).trans bound, rfl⟩

/-! ## A handle that comes back -/

def hotspot (index : Nat) : Target × ScriptType := (.static ⟨.hotspot, index⟩, .hotspot)

/-- A hotspot is registered after a save, and another one after that has been restored. -/
def rewoundTurns : List Turn :=
  [.ask (.register (hotspot 0).1 .hotspot), .save ∅, .ask (.register (hotspot 1).1 .hotspot),
    .restore ∅ 1, .ask (.register (hotspot 2).1 .hotspot)]

theorem storable_rewoundTurns : Storable rewoundTurns := by
  have saved : (table rewoundTurns 1).snapshot ∅ =
      ⟨2, [⟨1, "Hotspot", .hotspot, .static ⟨.hotspot, 0⟩, 0⟩]⟩ := by decide +kernel
  intro n objects here
  match n with
  | 1 =>
    obtain rfl : ∅ = objects := by simpa [rewoundTurns] using here
    rw [saved]
    have small : HandleFits 1 ∧ HandleFits 2 := by simp [HandleFits]
    have index : (SavedTarget.static ⟨.hotspot, 0⟩).Fits := by simp [SavedTarget.Fits]
    refine ⟨small.2, by decide, ?_⟩
    simp only [List.mem_singleton, forall_eq]
    exact ⟨small.1, by decide, index, by decide⟩
  | 0 | 2 | 3 | 4 => simp [rewoundTurns] at here
  | n + 5 => simp [rewoundTurns] at here

theorem rewinds_rewoundTurns : Storable rewoundTurns ∧ Rewinds rewoundTurns :=
  ⟨storable_rewoundTurns, rewinds_of_storable rewoundTurns storable_rewoundTurns⟩

/-- The handle of one hotspot is issued to another. -/
theorem rewoundTurns_reissue : hotspot 1 ≠ hotspot 2 ∧ Issues rewoundTurns 2 (hotspot 1) 2 ∧
    IssuesFresh rewoundTurns 4 (hotspot 2) 2 := by
  have numbered := numbered_table storable_rewoundTurns 1
  have restored := table_restore (n := 3) storable_rewoundTurns rfl (by decide) rfl numbered
  have unknown : (table rewoundTurns 4).handleFor (hotspot 2).1 (hotspot 2).2 = none := by
    rw [restored]
    decide +kernel
  have counter : (table rewoundTurns 4).nextHandle = 2 := by
    have saved : (table rewoundTurns 1).nextHandle = 2 := by decide +kernel
    rw [restored, numbered.nextHandle_restore numbered.one_le_nextHandle, saved]
  have room : (table rewoundTurns 4).nextHandle < maxHandle := by
    rw [counter]
    decide
  have again : ((table rewoundTurns 4).serve (.register (hotspot 2).1 (hotspot 2).2)).1 =
      some 2 := by
    simp only [serve, register_of_room room, registered_of_none unknown, counter]
  exact ⟨by decide, ⟨_, rfl, rfl, by decide +kernel⟩, ⟨_, rfl, rfl, again⟩, unknown⟩

end Course

end Adventure.Registry
