import Mosp.Data.Table

/-!
# Constraints on tables

Unique indexes, foreign keys and checks, as decidable conditions on tables, and
what each of them asks of a row that is written.
-/

namespace Mosp.Sql

open Mosp.Data

variable {R S K : Type} [Row R] [Row S]

/-- No two rows share a value of the key; rows without a value do not count. -/
def Unique (table : Table R) (key : R → Option K) : Prop :=
  ∀ first ∈ table.rows, ∀ second ∈ table.rows,
    key first ≠ none → key first = key second → Row.id first = Row.id second

instance [DecidableEq K] (table : Table R) (key : R → Option K) : Decidable (Unique table key) :=
  inferInstanceAs (Decidable (∀ first ∈ table.rows, ∀ second ∈ table.rows,
    key first ≠ none → key first = key second → Row.id first = Row.id second))

/-- Every value of the referring columns is found in the referenced table. -/
def References (table : Table R) (columns : R → Option K) (referenced : Table S) (key : S → K) :
    Prop :=
  ∀ row ∈ table.rows, ∀ value ∈ columns row, ∃ other ∈ referenced.rows, key other = value

instance [DecidableEq K] (table : Table R) (columns : R → Option K) (referenced : Table S)
    (key : S → K) : Decidable (References table columns referenced key) :=
  inferInstanceAs (Decidable (∀ row ∈ table.rows, ∀ value ∈ columns row,
    ∃ other ∈ referenced.rows, key other = value))

/-- Every row passes a check. -/
def Checked (table : Table R) (check : R → Bool) : Prop :=
  ∀ row ∈ table.rows, check row = true

instance (table : Table R) (check : R → Bool) : Decidable (Checked table check) :=
  inferInstanceAs (Decidable (∀ row ∈ table.rows, check row = true))

theorem Unique.put {table : Table R} {key : R → Option K} (unique : Unique table key) {row : R}
    (own : ∀ other ∈ table, key row ≠ none → key other = key row → Row.id other = Row.id row) :
    Unique (table.put row) key := by
  intro first firstMem second secondMem some_ same
  rcases Table.mem_put.mp firstMem with rfl | ⟨firstOld, _⟩ <;>
    rcases Table.mem_put.mp secondMem with rfl | ⟨secondOld, _⟩
  · rfl
  · exact (own second secondOld some_ same.symm).symm
  · exact own first firstOld (same ▸ some_) same
  · exact unique first firstOld second secondOld some_ same

/-- Writing over a row without changing its key. -/
theorem Unique.put_same {table : Table R} {key : R → Option K} (unique : Unique table key)
    {row old : R} (oldMem : old ∈ table) (sameId : Row.id old = Row.id row)
    (sameKey : key old = key row) : Unique (table.put row) key :=
  unique.put fun other otherMem some_ same =>
    (unique other otherMem old oldMem (same ▸ some_) (same.trans sameKey.symm)).trans sameId

theorem References.put {table : Table R} {columns : R → Option K} {referenced : Table S}
    {key : S → K} (references : References table columns referenced key) {row : R}
    (found : ∀ value ∈ columns row, ∃ other ∈ referenced, key other = value) :
    References (table.put row) columns referenced key := by
  intro first firstMem
  rcases Table.mem_put.mp firstMem with rfl | ⟨firstOld, _⟩
  · exact found
  · exact references first firstOld

/-- Writing over a row without changing what it refers to. -/
theorem References.put_same {table : Table R} {columns : R → Option K} {referenced : Table S}
    {key : S → K} (references : References table columns referenced key) {row old : R}
    (oldMem : old ∈ table) (sameColumns : columns old = columns row) :
    References (table.put row) columns referenced key :=
  references.put (sameColumns ▸ references old oldMem)

theorem References.put_referenced {table : Table R} {columns : R → Option K}
    {referenced : Table S} {key : S → K} (references : References table columns referenced key)
    {row : S} (kept : ∀ old ∈ referenced, Row.id old = Row.id row → key old = key row) :
    References table columns (referenced.put row) key := by
  intro first firstMem value valueMem
  obtain ⟨other, otherMem, rfl⟩ := references first firstMem value valueMem
  by_cases sameId : Row.id other = Row.id row
  · exact ⟨row, Table.mem_put_self _ _, (kept other otherMem sameId).symm⟩
  · exact ⟨other, Table.mem_put.mpr (.inr ⟨otherMem, sameId⟩), rfl⟩

theorem Checked.put {table : Table R} {check : R → Bool} (checked : Checked table check) {row : R}
    (passes : check row = true) : Checked (table.put row) check := by
  intro first firstMem
  rcases Table.mem_put.mp firstMem with rfl | ⟨firstOld, _⟩
  · exact passes
  · exact checked first firstOld

/-- No constraint of a complete list is found to be broken if every one of them holds. -/
theorem violated_eq_none {C ε : Type} {constraints : List C}
    (complete : ∀ constraint, constraint ∈ constraints) {holds : C → Prop} [DecidablePred holds]
    {failure : C → ε} :
    (constraints.find? fun constraint => !decide (holds constraint)).map failure = none ↔
      ∀ constraint, holds constraint := by
  rw [Option.map_eq_none_iff, List.find?_eq_none]
  constructor
  · intro unbroken constraint
    simpa using unbroken constraint (complete constraint)
  · intro valid constraint _
    simpa using valid constraint

end Mosp.Sql
