import Mosp.Data.Table
import Mathlib.Data.List.Induction
import Mathlib.Data.List.Perm.Subperm

/-!
# Several rows at once

What is in a table after several rows were written or erased, one after the
other, and when rows are found for several identifiers.
-/

namespace Mosp.Data.Table

variable {R : Type} [Row R] {table : Table R} {rows : List R} {row other : R}

/-- Write several rows. -/
def putAll (table : Table R) (rows : List R) : Table R :=
  rows.foldl put table

/-- Erase the rows with the identifiers of these. -/
def eraseAll (table : Table R) (rows : List R) : Table R :=
  rows.foldl (fun table row => table.erase (Row.id row)) table

theorem putAll_append : putAll table (rows ++ [row]) = (putAll table rows).put row := by
  simp [putAll]

theorem mem_putAll (ids : (rows.map Row.id).Nodup) :
    other ∈ putAll table rows ↔
      other ∈ rows ∨ other ∈ table ∧ Row.id other ∉ rows.map Row.id := by
  induction rows using List.reverseRecOn with
  | nil => simp [putAll]
  | append_singleton rows row ih =>
      rw [List.map_append, List.map_singleton, List.nodup_append] at ids
      have apart : ∀ first ∈ rows, Row.id first ≠ Row.id row := fun first member =>
        ids.2.2 (Row.id first) (List.mem_map_of_mem member) (Row.id row) (by simp)
      rw [putAll_append, Table.mem_put, ih ids.1]
      simp only [List.map_append, List.map_singleton, List.mem_append, List.mem_singleton]
      constructor
      · rintro (rfl | ⟨inRows | ⟨inTable, absent⟩, distinct⟩)
        · exact .inl (.inr rfl)
        · exact .inl (.inl inRows)
        · exact .inr ⟨inTable, fun either => either.elim absent distinct⟩
      · rintro ((inRows | rfl) | ⟨inTable, absent⟩)
        · exact .inr ⟨.inl inRows, apart other inRows⟩
        · exact .inl rfl
        · exact .inr ⟨.inr ⟨inTable, fun member => absent (.inl member)⟩,
            fun same => absent (.inr same)⟩

/-- Writing rows under keys that no row has. -/
theorem mem_putAll_new (ids : (rows.map Row.id).Nodup)
    (fresh : ∀ row ∈ rows, ∀ old ∈ table, Row.id old ≠ Row.id row) :
    other ∈ putAll table rows ↔ other ∈ rows ∨ other ∈ table := by
  rw [mem_putAll ids]
  constructor
  · exact Or.imp_right And.left
  · apply Or.imp_right
    intro member
    refine ⟨member, fun listed => ?_⟩
    obtain ⟨row, inRows, sameId⟩ := List.mem_map.mp listed
    exact fresh row inRows other member sameId.symm

theorem mem_eraseAll :
    other ∈ eraseAll table rows ↔ other ∈ table ∧ Row.id other ∉ rows.map Row.id := by
  induction rows generalizing table with
  | nil => simp [eraseAll]
  | cons first rest ih =>
      have step : eraseAll table (first :: rest) = eraseAll (table.erase (Row.id first)) rest := rfl
      rw [step, ih, mem_erase, List.map_cons, List.mem_cons, not_or, and_assoc]

/-- Erasing the rows that satisfy a condition leaves the others. -/
theorem mem_eraseAll_filter {condition : R → Bool} :
    other ∈ eraseAll table (table.filter condition) ↔ other ∈ table ∧ condition other = false := by
  rw [mem_eraseAll]
  constructor
  · rintro ⟨member, absent⟩
    refine ⟨member, ?_⟩
    by_contra holds
    exact absent (List.mem_map_of_mem (mem_filter.mpr ⟨member, by simpa using holds⟩))
  · rintro ⟨member, fails⟩
    refine ⟨member, fun listed => ?_⟩
    obtain ⟨row, selected, sameId⟩ := List.mem_map.mp listed
    obtain ⟨rowMem, holds⟩ := mem_filter.mp selected
    rw [eq_of_id_eq rowMem member sameId, fails] at holds
    contradiction

/-- As many rows are found as there are identifiers when each of them is found. -/
theorem length_filter_ids {condition : R → Bool} {ids : List Nat} (nodup : ids.Nodup) :
    (table.filter fun row => condition row && ids.contains (Row.id row)).length = ids.length ↔
      ∀ id ∈ ids, ∃ row ∈ table, Row.id row = id ∧ condition row = true := by
  have foundNodup : ((table.filter fun row =>
      condition row && ids.contains (Row.id row)).map Row.id).Nodup :=
    List.Nodup.sublist (List.Sublist.map _ List.filter_sublist) table.nodup
  have mem_found (id : Nat) : id ∈ (table.filter fun row =>
      condition row && ids.contains (Row.id row)).map Row.id ↔
      id ∈ ids ∧ ∃ row ∈ table, Row.id row = id ∧ condition row = true := by
    simp only [List.mem_map, mem_filter, Bool.and_eq_true, List.contains_iff_mem]
    constructor
    · rintro ⟨row, ⟨member, holds, listed⟩, rfl⟩
      exact ⟨listed, row, member, rfl, holds⟩
    · rintro ⟨listed, row, member, rfl, holds⟩
      exact ⟨row, ⟨member, holds, listed⟩, rfl⟩
  have subset : (table.filter fun row =>
      condition row && ids.contains (Row.id row)).map Row.id ⊆ ids := fun id found =>
    ((mem_found id).mp found).1
  rw [← @List.length_map _ _ _ Row.id]
  constructor
  · intro lengths id listed
    have perm := (foundNodup.subperm subset).perm_of_length_le (Nat.le_of_eq lengths.symm)
    exact ((mem_found id).mp (perm.mem_iff.mpr listed)).2
  · intro found
    apply Nat.le_antisymm (foundNodup.subperm subset).length_le
    exact (nodup.subperm fun id listed => (mem_found id).mpr ⟨listed, found id listed⟩).length_le

end Mosp.Data.Table
