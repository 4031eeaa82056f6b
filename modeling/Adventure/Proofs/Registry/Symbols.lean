import Adventure.Proofs.Except
import Adventure.Registry.Symbols

/-! # Binding names and freeing them again

A table of symbols is told by what its names stand for. Names that have been bound one after the
other were free before, and freeing them gives the table back.
-/

namespace Adventure.SymbolTable

open Std (ExtTreeMap)
open Registry (Fault)

variable {t u : SymbolTable}

@[ext] theorem ext (same : ∀ name, t.get? name = u.get? name) : t = u := by
  obtain ⟨symbols⟩ := t
  obtain ⟨others⟩ := u
  congr 1
  exact ExtTreeMap.ext_getElem? same

theorem get?_unbind (t : SymbolTable) (gone name : String) :
    (t.unbind gone).get? name = if gone = name then none else t.get? name := by
  simp only [unbind, get?, ExtTreeMap.getElem?_erase, Std.LawfulEqCmp.compare_eq_iff_eq]

theorem bind_eq_ok_iff {name : String} {symbol : Symbol} : t.bind name symbol = .ok u ↔
    t.get? name = none ∧ u = ⟨t.symbols.insert name symbol⟩ := by
  unfold bind contains
  cases t.get? name with
  | none => simp [eq_comm]
  | some other => simp

theorem get?_bind {name : String} {symbol : Symbol} (bound : t.bind name symbol = .ok u)
    (other : String) : u.get? other = if name = other then some symbol else t.get? other := by
  obtain ⟨-, rfl⟩ := bind_eq_ok_iff.mp bound
  simp only [get?, ExtTreeMap.getElem?_insert, Std.LawfulEqCmp.compare_eq_iff_eq]

theorem bind_eq_error_iff {name : String} {symbol : Symbol} {fault : Fault} :
    t.bind name symbol = .error fault ↔
      t.contains name = true ∧ fault = .duplicateSymbol name := by
  unfold bind
  cases t.contains name with
  | true => simp [eq_comm]
  | false => simp

theorem contains_eq_false_iff {name : String} : t.contains name = false ↔ t.get? name = none := by
  simp [contains]

theorem contains_bind {name : String} {symbol : Symbol} (bound : t.bind name symbol = .ok u)
    (other : String) :
    u.contains other = true ↔ t.contains other = true ∨ some name = some other := by
  simp only [contains, get?_bind bound other, Option.some.injEq]
  by_cases same : name = other
  · simp [same]
  · simp [same]

/-! ## Many names -/

theorem get?_foldl_unbind (names : List String) (t : SymbolTable) (name : String) :
    (names.foldl unbind t).get? name = if name ∈ names then none else t.get? name := by
  induction names generalizing t with
  | nil => simp
  | cons gone rest hyp =>
    rw [List.foldl_cons, hyp, get?_unbind]
    by_cases later : name ∈ rest
    · simp [later]
    · by_cases same : gone = name
      · simp [same]
      · simp [later, same, Ne.symm same]

section BindAll

variable {α : Type} {name : α → String} {symbol : α → Symbol} {items : List α}

/-- Names that could be bound were free, and all other names stand for what they stood for. -/
theorem get?_foldlM_bind (bound : items.foldlM (fun t a => t.bind (name a) (symbol a)) t = .ok u)
    (other : String) :
    (other ∈ items.map name → t.get? other = none) ∧
      (other ∉ items.map name → u.get? other = t.get? other) := by
  induction items generalizing t with
  | nil =>
    obtain rfl := Except.ok.inj bound
    simp
  | cons a rest hyp =>
    rw [List.foldlM_cons] at bound
    cases first : t.bind (name a) (symbol a) with
    | error fault => rw [first] at bound; cases bound
    | ok next =>
      rw [first] at bound
      obtain ⟨free, kept⟩ := hyp bound
      rw [get?_bind first] at free kept
      -- the first name was free itself, and the others were free next to it
      by_cases same : name a = other
      · simp [← same, (bind_eq_ok_iff.mp first).1]
      · simp only [if_neg same] at free kept
        simp only [List.map_cons, List.mem_cons, Ne.symm same, false_or]
        exact ⟨free, kept⟩

/-- Names can be bound one after the other if they differ and are free. -/
theorem exists_foldlM_bind_iff :
    (∃ u, items.foldlM (fun t a => t.bind (name a) (symbol a)) t = .ok u) ↔
      (items.map name).Nodup ∧ ∀ n ∈ items.map name, t.get? n = none := by
  induction items generalizing t with
  | nil => simpa using ⟨t, rfl⟩
  | cons a rest hyp =>
    simp only [List.foldlM_cons, List.map_cons, List.nodup_cons, List.forall_mem_cons]
    constructor
    · rintro ⟨u, bound⟩
      obtain ⟨next, first, later⟩ := except_bind_eq_ok.mp bound
      obtain ⟨distinct, free⟩ := hyp.mp ⟨u, later⟩
      -- the first name is taken when the others are bound
      simp only [get?_bind first] at free
      have differs : ∀ n ∈ rest.map name, name a ≠ n := by
        rintro n listed rfl
        have taken := free _ listed
        rw [if_pos rfl] at taken
        cases taken
      refine ⟨⟨fun listed => differs _ listed rfl, distinct⟩, (bind_eq_ok_iff.mp first).1, ?_⟩
      intro n listed
      rw [← free n listed, if_neg (differs n listed)]
    · rintro ⟨⟨fresh, distinct⟩, here, free⟩
      obtain ⟨next, first⟩ : ∃ next, t.bind (name a) (symbol a) = .ok next :=
        ⟨_, bind_eq_ok_iff.mpr ⟨here, rfl⟩⟩
      have still : ∀ n ∈ rest.map name, next.get? n = none := by
        intro n listed
        have differs : name a ≠ n := by
          rintro rfl
          exact fresh listed
        rw [get?_bind first, if_neg differs]
        exact free n listed
      obtain ⟨u, later⟩ := hyp.mpr ⟨distinct, still⟩
      exact ⟨u, except_bind_eq_ok.mpr ⟨next, first, later⟩⟩

/-- Names that have been bound stand for what they were bound to. -/
theorem get?_foldlM_bind_of_mem
    (bound : items.foldlM (fun t a => t.bind (name a) (symbol a)) t = .ok u) :
    ∀ a ∈ items, u.get? (name a) = some (symbol a) := by
  induction items generalizing t with
  | nil => simp
  | cons a rest hyp =>
    rw [List.foldlM_cons] at bound
    obtain ⟨next, first, later⟩ := except_bind_eq_ok.mp bound
    refine List.forall_mem_cons.mpr ⟨?_, hyp later⟩
    obtain ⟨free, kept⟩ := get?_foldlM_bind later (name a)
    have here : next.get? (name a) = some (symbol a) := by rw [get?_bind first, if_pos rfl]
    rw [kept, here]
    intro again
    rw [free again] at here
    cases here

theorem contains_foldlM_bind
    (bound : items.foldlM (fun t a => t.bind (name a) (symbol a)) t = .ok u) (other : String) :
    u.contains other = true ↔ t.contains other = true ∨ other ∈ items.map name := by
  by_cases listed : other ∈ items.map name
  · obtain ⟨a, member, rfl⟩ := List.mem_map.mp listed
    simp [contains, get?_foldlM_bind_of_mem bound a member, listed]
  · simp [contains, (get?_foldlM_bind bound other).2 listed, listed]

theorem foldl_unbind_of_foldlM_bind
    (bound : items.foldlM (fun t a => t.bind (name a) (symbol a)) t = .ok u) :
    (items.map name).foldl unbind u = t := by
  ext1 other
  obtain ⟨free, kept⟩ := get?_foldlM_bind bound other
  rw [get?_foldl_unbind]
  by_cases listed : other ∈ items.map name
  · rw [if_pos listed, free listed]
  · rw [if_neg listed, kept listed]

end BindAll

end Adventure.SymbolTable
