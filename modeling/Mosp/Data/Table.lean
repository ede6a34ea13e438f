import Mathlib.Algebra.BigOperators.Group.List.Basic
import Mathlib.Data.List.Nodup
import Mathlib.Algebra.Order.BigOperators.Group.List
import Mathlib.Tactic.Ring

/-!
# Tables of rows with a primary key

A table is a list of rows in which no primary key occurs twice; the condition
is a field, so a table that breaks its primary key cannot be built.  Writing a
row replaces the row with the same key or appends a new one.

Sums over a table are the bookkeeping that counters are compared with:
`total_put` says how a sum moves when one row is written.
-/

namespace Mosp.Data

/-- Rows carry their primary key. -/
class Row (R : Type) where
  id : R → Nat

/-- Replace the row with the key of `row`, or append `row`. -/
def putRow {R : Type} [Row R] (row : R) : List R → List R
  | [] => [row]
  | first :: rest => if Row.id first = Row.id row then row :: rest else first :: putRow row rest

theorem mem_of_mem_putRow {R : Type} [Row R] {row other : R} {rows : List R}
    (member : other ∈ putRow row rows) : other = row ∨ other ∈ rows := by
  induction rows with
  | nil => simpa [putRow] using member
  | cons first rest ih =>
      unfold putRow at member
      split at member
      · rcases List.mem_cons.mp member with rfl | inRest
        · exact .inl rfl
        · exact .inr (List.mem_cons_of_mem _ inRest)
      · rcases List.mem_cons.mp member with rfl | inRest
        · exact .inr List.mem_cons_self
        · exact (ih inRest).imp_right (List.mem_cons_of_mem _)

theorem nodup_putRow {R : Type} [Row R] (row : R) {rows : List R}
    (nodup : (rows.map Row.id).Nodup) : ((putRow row rows).map Row.id).Nodup := by
  induction rows with
  | nil => simp [putRow]
  | cons first rest ih =>
      simp only [List.map_cons, List.nodup_cons, List.mem_map] at nodup
      unfold putRow
      split
      · rename_i sameId
        simpa only [List.map_cons, List.nodup_cons, List.mem_map, ← sameId] using nodup
      · rename_i otherId
        simp only [List.map_cons, List.nodup_cons, List.mem_map]
        refine ⟨?_, ih nodup.2⟩
        rintro ⟨other, member, idEq⟩
        rcases mem_of_mem_putRow member with rfl | inRest
        · exact otherId idEq.symm
        · exact nodup.1 ⟨other, inRest, idEq⟩

/-- A table: rows without a repeated primary key. -/
@[ext]
structure Table (R : Type) [Row R] where
  rows : List R
  nodup : (rows.map Row.id).Nodup

namespace Table

variable {R : Type} [Row R]

instance : Membership R (Table R) where
  mem table row := row ∈ table.rows

theorem mem_rows {table : Table R} {row : R} : row ∈ table.rows ↔ row ∈ table :=
  Iff.rfl

/-- The table without rows. -/
def empty : Table R :=
  ⟨[], List.nodup_nil⟩

instance : Inhabited (Table R) :=
  ⟨empty⟩

@[simp]
theorem not_mem_empty (row : R) : row ∉ (empty : Table R) :=
  List.not_mem_nil

/-- A table from explicit rows. -/
def ofRows (rows : List R) (nodup : (rows.map Row.id).Nodup := by decide) : Table R :=
  ⟨rows, nodup⟩

/-- The first row that satisfies a condition. -/
def find? (table : Table R) (condition : R → Bool) : Option R :=
  table.rows.find? condition

/-- The row with a given key. -/
def get? (table : Table R) (id : Nat) : Option R :=
  table.find? fun row => Row.id row == id

/-- The rows that satisfy a condition. -/
def filter (table : Table R) (condition : R → Bool) : List R :=
  table.rows.filter condition

/-- Write a row under its key. -/
def put (table : Table R) (row : R) : Table R :=
  ⟨putRow row table.rows, nodup_putRow row table.nodup⟩

/-- Remove the rows that satisfy a condition. -/
def eraseWhere (table : Table R) (condition : R → Bool) : Table R :=
  ⟨table.rows.filter fun row => !condition row,
    List.Nodup.sublist (List.Sublist.map _ List.filter_sublist) table.nodup⟩

/-- Remove the row with a given key. -/
def erase (table : Table R) (id : Nat) : Table R :=
  table.eraseWhere fun row => Row.id row == id

/-- Two rows of one table with the same key are the same row. -/
theorem eq_of_id_eq {table : Table R} {first second : R} (firstMem : first ∈ table)
    (secondMem : second ∈ table) (idEq : Row.id first = Row.id second) : first = second :=
  List.inj_on_of_nodup_map table.nodup firstMem secondMem idEq

theorem mem_filter {table : Table R} {condition : R → Bool} {row : R} :
    row ∈ table.filter condition ↔ row ∈ table ∧ condition row = true :=
  List.mem_filter

theorem find?_some {table : Table R} {condition : R → Bool} {row : R}
    (found : table.find? condition = some row) : row ∈ table ∧ condition row = true :=
  ⟨List.mem_of_find?_eq_some found, List.find?_some found⟩

theorem find?_none {table : Table R} {condition : R → Bool} :
    table.find? condition = none ↔ ∀ row ∈ table, condition row = false := by
  simp only [find?, List.find?_eq_none, Bool.not_eq_true]
  exact Iff.rfl

theorem get?_some {table : Table R} {id : Nat} {row : R} :
    table.get? id = some row ↔ row ∈ table ∧ Row.id row = id := by
  constructor
  · intro found
    obtain ⟨member, idEq⟩ := find?_some found
    exact ⟨member, by simpa using idEq⟩
  · rintro ⟨member, idEq⟩
    cases found : table.get? id with
    | none =>
        have absent := find?_none.mp found row member
        simp [idEq] at absent
    | some other =>
        obtain ⟨otherMem, otherId⟩ := find?_some found
        rw [eq_of_id_eq otherMem member (by simpa [idEq] using otherId)]

theorem get?_none {table : Table R} {id : Nat} :
    table.get? id = none ↔ ∀ row ∈ table, Row.id row ≠ id := by
  simp [get?, find?_none]

/-- A search by a condition that fixes the key finds the row with that key. -/
theorem find?_eq_some_of_id {table : Table R} {condition : R → Bool} {row : R}
    (member : row ∈ table) (holds : condition row = true)
    (fixesId : ∀ other ∈ table, condition other = true → Row.id other = Row.id row) :
    table.find? condition = some row := by
  cases found : table.find? condition with
  | none => simp [find?_none.mp found row member] at holds
  | some other =>
      obtain ⟨otherMem, otherHolds⟩ := find?_some found
      rw [eq_of_id_eq otherMem member (fixesId other otherMem otherHolds)]

theorem isSome_find? {table : Table R} {condition : R → Bool} :
    (table.find? condition).isSome = true ↔ ∃ row ∈ table, condition row = true :=
  List.find?_isSome

/-- What a search by a condition that fixes the key finds is the row that there is. -/
theorem any_find?_byId {table : Table R} {condition wanted : R → Bool} {id : Nat}
    (byId : ∀ row ∈ table, condition row = true → Row.id row = id) :
    (table.find? condition).any wanted = true ↔
      ∃ row ∈ table, condition row = true ∧ wanted row = true := by
  constructor
  · intro found
    obtain ⟨row, foundRow, wants⟩ := (Option.any_eq_true _ _).mp found
    obtain ⟨member, holds⟩ := find?_some foundRow
    exact ⟨row, member, holds, wants⟩
  · rintro ⟨row, member, holds, wants⟩
    rw [find?_eq_some_of_id member holds fun other otherMem otherHolds =>
      (byId other otherMem otherHolds).trans (byId row member holds).symm]
    exact wants

/-- A condition that fixes the key selects one row or none. -/
theorem filter_byId {table : Table R} {condition : R → Bool} {id : Nat}
    (byId : ∀ row ∈ table, condition row = true → Row.id row = id) :
    table.filter condition = [] ∨
      ∃ row ∈ table, condition row = true ∧ table.filter condition = [row] := by
  cases listEq : table.filter condition with
  | nil => exact .inl rfl
  | cons first rest =>
      have selected : ∀ row ∈ first :: rest, row ∈ table ∧ condition row = true := fun row member =>
        mem_filter.mp (listEq ▸ member)
      have idOf : ∀ row ∈ first :: rest, Row.id row = id := fun row member =>
        byId row (selected row member).1 (selected row member).2
      have nodup : ((first :: rest).map Row.id).Nodup := by
        rw [← listEq]
        exact List.Nodup.sublist (List.Sublist.map _ List.filter_sublist) table.nodup
      have restEq : rest = [] := by
        refine List.eq_nil_iff_forall_not_mem.mpr fun row member => ?_
        rw [List.map_cons, List.nodup_cons] at nodup
        apply nodup.1
        rw [idOf first List.mem_cons_self, ← idOf row (List.mem_cons_of_mem _ member)]
        exact List.mem_map_of_mem member
      subst restEq
      obtain ⟨member, holds⟩ := selected first List.mem_cons_self
      exact .inr ⟨first, member, holds, rfl⟩

theorem mem_put {table : Table R} {row other : R} :
    other ∈ table.put row ↔ other = row ∨ (other ∈ table ∧ Row.id other ≠ Row.id row) := by
  have nodup := table.nodup
  suffices lists : ∀ rows : List R, (rows.map Row.id).Nodup →
      (other ∈ putRow row rows ↔ other = row ∨ (other ∈ rows ∧ Row.id other ≠ Row.id row)) from
    lists table.rows nodup
  clear nodup
  intro rows nodup
  induction rows with
  | nil => simp [putRow]
  | cons first rest ih =>
      simp only [List.map_cons, List.nodup_cons, List.mem_map, not_exists, not_and] at nodup
      unfold putRow
      split
      · rename_i sameId
        have restNe : other ∈ rest → Row.id other ≠ Row.id row := by
          intro member idEq
          exact nodup.1 other member (idEq.trans sameId.symm)
        constructor
        · intro member
          rcases List.mem_cons.mp member with rfl | inRest
          · exact .inl rfl
          · exact .inr ⟨List.mem_cons_of_mem _ inRest, restNe inRest⟩
        · rintro (rfl | ⟨member, idNe⟩)
          · exact List.mem_cons_self
          · rcases List.mem_cons.mp member with rfl | inRest
            · exact absurd sameId idNe
            · exact List.mem_cons_of_mem _ inRest
      · rename_i otherId
        rw [List.mem_cons, ih nodup.2, List.mem_cons]
        constructor
        · rintro (rfl | rfl | ⟨member, idNe⟩)
          · exact .inr ⟨.inl rfl, otherId⟩
          · exact .inl rfl
          · exact .inr ⟨.inr member, idNe⟩
        · rintro (rfl | ⟨rfl | member, idNe⟩)
          · exact .inr (.inl rfl)
          · exact .inl rfl
          · exact .inr (.inr ⟨member, idNe⟩)

/-- Writing a row that is there changes nothing. -/
theorem put_eq_self {table : Table R} {row : R} (member : row ∈ table) : table.put row = table := by
  have lists : ∀ rows : List R, (rows.map Row.id).Nodup → row ∈ rows → putRow row rows = rows := by
    intro rows nodup inRows
    induction rows with
    | nil => simp at inRows
    | cons first rest ih =>
        simp only [List.map_cons, List.nodup_cons, List.mem_map, not_exists, not_and] at nodup
        unfold putRow
        rcases List.mem_cons.mp inRows with rfl | inRest
        · rw [if_pos rfl]
        · rw [if_neg fun sameId => nodup.1 row inRest sameId.symm, ih nodup.2 inRest]
  exact Table.ext (lists table.rows table.nodup member)

theorem mem_put_self (table : Table R) (row : R) : row ∈ table.put row :=
  mem_put.mpr (.inl rfl)

theorem mem_eraseWhere {table : Table R} {condition : R → Bool} {row : R} :
    row ∈ table.eraseWhere condition ↔ row ∈ table ∧ condition row = false := by
  simp [eraseWhere, ← mem_rows]

theorem mem_erase {table : Table R} {id : Nat} {row : R} :
    row ∈ table.erase id ↔ row ∈ table ∧ Row.id row ≠ id := by
  simp [erase, mem_eraseWhere]

@[simp]
theorem get?_put_self (table : Table R) (row : R) : (table.put row).get? (Row.id row) = some row :=
  get?_some.mpr ⟨mem_put_self table row, rfl⟩

theorem get?_put_ne (table : Table R) {row : R} {id : Nat} (distinct : id ≠ Row.id row) :
    (table.put row).get? id = table.get? id := by
  cases found : table.get? id with
  | none =>
      refine get?_none.mpr fun other member idEq => ?_
      rcases mem_put.mp member with rfl | ⟨inTable, _⟩
      · exact distinct idEq.symm
      · exact get?_none.mp found other inTable idEq
  | some other =>
      obtain ⟨member, rfl⟩ := get?_some.mp found
      exact get?_some.mpr ⟨mem_put.mpr (.inr ⟨member, distinct⟩), rfl⟩

/-- Writing over the row that a search finds, the search finds the new row. -/
theorem find?_put_found {table : Table R} {condition : R → Bool} {row old : R}
    (found : table.find? condition = some old) (sameId : Row.id old = Row.id row)
    (holds : condition row = true) : (table.put row).find? condition = some row := by
  have nodup := table.nodup
  change (putRow row table.rows).find? condition = some row
  change table.rows.find? condition = some old at found
  generalize table.rows = rows at found nodup ⊢
  induction rows with
  | nil => simp at found
  | cons first rest ih =>
      simp only [List.map_cons, List.nodup_cons, List.mem_map] at nodup
      by_cases same : Row.id first = Row.id row
      · rw [putRow, if_pos same, List.find?_cons_of_pos holds]
      · rw [putRow, if_neg same]
        by_cases firstHolds : condition first = true
        · rw [List.find?_cons_of_pos firstHolds, Option.some.injEq] at found
          subst found
          exact absurd sameId same
        · rw [List.find?_cons_of_neg firstHolds] at found
          rw [List.find?_cons_of_neg firstHolds]
          exact ih found nodup.2

/-- Writing a row that a search does not look for, over one it does not look for or
under a new key, leaves the search as it is. -/
theorem find?_put_other {table : Table R} {condition : R → Bool} {row : R}
    (fails : condition row = false)
    (others : ∀ old ∈ table, Row.id old = Row.id row → condition old = false) :
    (table.put row).find? condition = table.find? condition := by
  change (putRow row table.rows).find? condition = table.rows.find? condition
  change ∀ old ∈ table.rows, _ at others
  generalize table.rows = rows at others ⊢
  induction rows with
  | nil => simp [putRow, fails]
  | cons first rest ih =>
      have restOthers : ∀ old ∈ rest, Row.id old = Row.id row → condition old = false :=
        fun old member => others old (List.mem_cons_of_mem _ member)
      unfold putRow
      split
      · rename_i sameId
        have firstFails := others first List.mem_cons_self sameId
        rw [List.find?_cons_of_neg (by simp [fails]), List.find?_cons_of_neg (by simp [firstFails])]
      · rw [List.find?_cons, List.find?_cons, ih restOthers]

/-- A new row is found by a search that found nothing. -/
theorem find?_put_new {table : Table R} {condition : R → Bool} {row : R}
    (fresh : ∀ other ∈ table, Row.id other ≠ Row.id row) (absent : table.find? condition = none)
    (holds : condition row = true) : (table.put row).find? condition = some row := by
  change (putRow row table.rows).find? condition = some row
  change ∀ other ∈ table.rows, _ at fresh
  change table.rows.find? condition = none at absent
  generalize table.rows = rows at fresh absent ⊢
  induction rows with
  | nil => simp [putRow, holds]
  | cons first rest ih =>
      have firstNe := fresh first List.mem_cons_self
      have restFresh : ∀ other ∈ rest, Row.id other ≠ Row.id row := fun other member =>
        fresh other (List.mem_cons_of_mem _ member)
      by_cases firstHolds : condition first = true
      · rw [List.find?_cons_of_pos firstHolds] at absent
        contradiction
      · rw [List.find?_cons_of_neg firstHolds] at absent
        rw [putRow, if_neg firstNe, List.find?_cons_of_neg firstHolds]
        exact ih restFresh absent

/-- Of two rows written under one key the second one stays. -/
theorem put_put {table : Table R} {first second : R} (sameId : Row.id first = Row.id second) :
    (table.put first).put second = table.put second := by
  apply Table.ext
  change putRow second (putRow first table.rows) = putRow second table.rows
  generalize table.rows = rows
  induction rows with
  | nil => simp [putRow, sameId]
  | cons row rest ih =>
      by_cases same : Row.id row = Row.id second
      · simp only [putRow, sameId, if_pos same, if_true]
      · simp only [putRow, sameId, if_neg same, ih]

/-! ## Sums over a table -/

/-- The sum of a measure over all rows. -/
def total (table : Table R) (measure : R → Int) : Int :=
  (table.rows.map measure).sum

/-- The number of rows that satisfy a condition. -/
def count (table : Table R) (condition : R → Bool) : Int :=
  table.total fun row => if condition row then 1 else 0

@[simp]
theorem total_empty (measure : R → Int) : (empty : Table R).total measure = 0 :=
  rfl

theorem total_congr {table : Table R} {first second : R → Int}
    (agree : ∀ row ∈ table, first row = second row) : table.total first = table.total second := by
  unfold total
  rw [List.map_congr_left agree]

theorem total_zero {table : Table R} {measure : R → Int} (zero : ∀ row ∈ table, measure row = 0) :
    table.total measure = 0 := by
  refine List.sum_eq_zero fun value member => ?_
  obtain ⟨row, rowMem, rfl⟩ := List.mem_map.mp member
  exact zero row rowMem

/-- Writing a new row adds its measure. -/
theorem total_put_new {table : Table R} {row : R} (measure : R → Int)
    (fresh : ∀ other ∈ table, Row.id other ≠ Row.id row) :
    (table.put row).total measure = table.total measure + measure row := by
  change ((putRow row table.rows).map measure).sum = (table.rows.map measure).sum + measure row
  change ∀ other ∈ table.rows, _ at fresh
  generalize table.rows = rows at fresh ⊢
  induction rows with
  | nil => simp [putRow]
  | cons first rest ih =>
      have firstNe := fresh first List.mem_cons_self
      have restFresh : ∀ other ∈ rest, Row.id other ≠ Row.id row := fun other member =>
        fresh other (List.mem_cons_of_mem _ member)
      simp only [putRow, if_neg firstNe, List.map_cons, List.sum_cons, ih restFresh]
      ring

/-- Writing over an old row moves the sum by the difference. -/
theorem total_put {table : Table R} {row old : R} (measure : R → Int) (oldMem : old ∈ table)
    (sameId : Row.id old = Row.id row) :
    (table.put row).total measure = table.total measure - measure old + measure row := by
  change ((putRow row table.rows).map measure).sum =
    (table.rows.map measure).sum - measure old + measure row
  change old ∈ table.rows at oldMem
  have nodup := table.nodup
  generalize table.rows = rows at oldMem nodup ⊢
  induction rows with
  | nil => simp at oldMem
  | cons first rest ih =>
      simp only [List.map_cons, List.nodup_cons, List.mem_map, not_exists, not_and] at nodup
      unfold putRow
      split
      · rename_i firstId
        have firstEq : first = old := by
          rcases List.mem_cons.mp oldMem with rfl | inRest
          · rfl
          · exact absurd (sameId.trans firstId.symm) (nodup.1 old inRest)
        subst firstEq
        simp only [List.map_cons, List.sum_cons]
        ring
      · rename_i firstId
        have inRest : old ∈ rest := by
          rcases List.mem_cons.mp oldMem with rfl | inRest
          · exact absurd sameId firstId
          · exact inRest
        simp only [List.map_cons, List.sum_cons, ih inRest nodup.2]
        ring

/-- A measure that the new row shares with the old one keeps its sum. -/
theorem total_put_eq {table : Table R} {row old : R} {measure : R → Int} (oldMem : old ∈ table)
    (sameId : Row.id old = Row.id row) (sameMeasure : measure row = measure old) :
    (table.put row).total measure = table.total measure := by
  rw [total_put measure oldMem sameId, sameMeasure]
  ring

/-- Removing rows of measure zero keeps the sum. -/
theorem total_erase {table : Table R} {id : Nat} {measure : R → Int}
    (zero : ∀ row ∈ table, Row.id row = id → measure row = 0) :
    (table.erase id).total measure = table.total measure := by
  change ((table.rows.filter fun row => !(Row.id row == id)).map measure).sum =
    (table.rows.map measure).sum
  change ∀ row ∈ table.rows, _ at zero
  generalize table.rows = rows at zero ⊢
  induction rows with
  | nil => rfl
  | cons first rest ih =>
      have restZero : ∀ row ∈ rest, Row.id row = id → measure row = 0 := fun row member =>
        zero row (List.mem_cons_of_mem _ member)
      by_cases firstId : Row.id first = id
      · simp [firstId, ih restZero, zero first List.mem_cons_self firstId]
      · simp [firstId, ih restZero]

/-- One row contributes at most the whole sum. -/
theorem le_total {table : Table R} {row : R} (measure : R → Int)
    (nonneg : ∀ other ∈ table, 0 ≤ measure other) (member : row ∈ table) :
    measure row ≤ table.total measure := by
  refine List.single_le_sum ?_ _ (List.mem_map_of_mem member)
  intro value valueMem
  obtain ⟨other, otherMem, rfl⟩ := List.mem_map.mp valueMem
  exact nonneg other otherMem

theorem count_eq_length (table : Table R) (condition : R → Bool) :
    table.count condition = ((table.filter condition).length : Int) := by
  change (table.rows.map fun row => if condition row then (1 : Int) else 0).sum =
    ((table.rows.filter condition).length : Int)
  induction table.rows with
  | nil => rfl
  | cons first rest ih =>
      rw [List.map_cons, List.sum_cons, ih, List.filter_cons]
      split
      · rw [List.length_cons]
        push_cast
        ring
      · ring

theorem one_le_count {table : Table R} {condition : R → Bool} {row : R} (member : row ∈ table)
    (holds : condition row = true) : 1 ≤ table.count condition := by
  have one : (if condition row then 1 else 0 : Int) = 1 := if_pos holds
  rw [← one]
  refine le_total (fun row => if condition row then 1 else 0) (fun other _ => ?_) member
  split <;> decide

end Table

end Mosp.Data
