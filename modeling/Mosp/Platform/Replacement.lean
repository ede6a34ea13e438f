import Mosp.Data.Batch
import Mosp.Platform.Schema

/-!
# Replacing rows of the settings

What a transaction that has written some rows does to the table of settings
when it commits.  Each row replaces one of the same key whose version is one
lower, or is the first of its key.
-/

namespace Mosp.Platform

open Mosp.Data Mosp.Database Mosp.Sql

/-- No two settings have the same key. -/
def UniqueKeys (table : Table PlatformSetting) : Prop :=
  Unique table fun row => some row.key

/-- The version of a setting; a setting that is not stored has version 0. -/
def versionIn (table : Table PlatformSetting) (key : PlatformSettingKey) : Nat :=
  ((table.find? fun row => row.key == key).map PlatformSetting.version).getD 0

/-- The row may be written over the table: it raises the version of its key by one. -/
def Replaces (table : Table PlatformSetting) (row : PlatformSetting) : Prop :=
  (∃ old, table.get? row.id = some old ∧ old.key = row.key ∧ row.version = old.version + 1) ∨
    table.get? row.id = none ∧ (∀ other ∈ table, other.key ≠ row.key) ∧ row.version = 1

/-- Write several rows. -/
def putAll (table : Table PlatformSetting) (rows : List PlatformSetting) : Table PlatformSetting :=
  rows.foldl Table.put table

/-- The rows have distinct identifiers and keys. -/
structure Distinct (rows : List PlatformSetting) : Prop where
  ids : (rows.map PlatformSetting.id).Nodup
  keys : (rows.map PlatformSetting.key).Nodup

variable {table : Table PlatformSetting} {rows : List PlatformSetting} {row other : PlatformSetting}
  {key : PlatformSettingKey}

theorem putAll_append : putAll table (rows ++ [row]) = (putAll table rows).put row := by
  simp [putAll]

theorem mem_putAll (ids : (rows.map PlatformSetting.id).Nodup) :
    other ∈ putAll table rows ↔
      other ∈ rows ∨ other ∈ table ∧ other.id ∉ rows.map PlatformSetting.id :=
  Table.mem_putAll ids

/-- What is written takes the place of the rows with the same key. -/
theorem id_of_key_eq (unique : UniqueKeys table) (replaces : Replaces table row)
    (member : other ∈ table) (same : other.key = row.key) : other.id = row.id := by
  rcases replaces with ⟨old, found, keyEq, -⟩ | ⟨-, absent, -⟩
  · obtain ⟨oldMem, oldId⟩ := Table.get?_some.mp found
    exact (unique other member old oldMem nofun (by simp [same, keyEq])).trans oldId
  · exact absurd same (absent other member)

theorem key_of_id_eq (replaces : Replaces table row) (member : other ∈ table)
    (same : other.id = row.id) : other.key = row.key := by
  have found : table.get? row.id = some other := Table.get?_some.mpr ⟨member, same⟩
  rcases replaces with ⟨old, foundOld, keyEq, -⟩ | ⟨absent, -⟩
  · rw [found] at foundOld
    exact Option.some.inj foundOld ▸ keyEq
  · rw [found] at absent
    contradiction

theorem uniqueKeys_putAll (unique : UniqueKeys table) (distinct : Distinct rows)
    (replaces : ∀ row ∈ rows, Replaces table row) : UniqueKeys (putAll table rows) := by
  intro first firstMem second secondMem _ same
  have sameKey : first.key = second.key := Option.some.inj same
  rcases (mem_putAll distinct.ids).mp firstMem with firstIn | ⟨firstOld, firstApart⟩ <;>
    rcases (mem_putAll distinct.ids).mp secondMem with secondIn | ⟨secondOld, secondApart⟩
  · rw [List.inj_on_of_nodup_map distinct.keys firstIn secondIn sameKey]
  · have id := id_of_key_eq unique (replaces first firstIn) secondOld sameKey.symm
    exact absurd (List.mem_map.mpr ⟨first, firstIn, id.symm⟩) secondApart
  · have id := id_of_key_eq unique (replaces second secondIn) firstOld sameKey
    exact absurd (List.mem_map.mpr ⟨second, secondIn, id.symm⟩) firstApart
  · exact unique first firstOld second secondOld nofun same

/-! ## Versions -/

theorem versionIn_of_mem (unique : UniqueKeys table) (member : row ∈ table) :
    versionIn table row.key = row.version := by
  have found : (table.find? fun other => other.key == row.key) = some row := by
    apply Table.find?_eq_some_of_id member
    · exact beq_self_eq_true _
    · intro other otherMem same
      exact unique other otherMem row member nofun (by simpa using same)
  rw [versionIn, found]
  rfl

theorem versionIn_of_absent (absent : ∀ other ∈ table, other.key ≠ key) :
    versionIn table key = 0 := by
  have missing : (table.find? fun row => row.key == key) = none := by
    rw [Table.find?_none]
    intro other member
    simpa using absent other member
  rw [versionIn, missing]
  rfl

theorem version_of_replaces (unique : UniqueKeys table) (replaces : Replaces table row) :
    row.version = versionIn table row.key + 1 := by
  rcases replaces with ⟨old, found, keyEq, version⟩ | ⟨-, absent, version⟩
  · rw [version, ← keyEq, versionIn_of_mem unique (Table.get?_some.mp found).1]
  · rw [version, versionIn_of_absent absent]

/-- Rows of other keys are left alone. -/
theorem mem_putAll_other (distinct : Distinct rows) (replaces : ∀ row ∈ rows, Replaces table row)
    (apart : ∀ row ∈ rows, row.key ≠ other.key) : other ∈ putAll table rows ↔ other ∈ table := by
  rw [mem_putAll distinct.ids]
  constructor
  · rintro (inRows | ⟨inTable, -⟩)
    · exact absurd rfl (apart other inRows)
    · exact inTable
  · intro inTable
    refine .inr ⟨inTable, fun member => ?_⟩
    obtain ⟨row, inRows, id⟩ := List.mem_map.mp member
    exact apart row inRows (key_of_id_eq (replaces row inRows) inTable id.symm).symm

theorem versionIn_putAll_of_mem (unique : UniqueKeys table) (distinct : Distinct rows)
    (replaces : ∀ row ∈ rows, Replaces table row) (member : row ∈ rows) :
    versionIn (putAll table rows) row.key = row.version :=
  versionIn_of_mem (uniqueKeys_putAll unique distinct replaces)
    ((mem_putAll distinct.ids).mpr (.inl member))

theorem versionIn_putAll_other (unique : UniqueKeys table) (distinct : Distinct rows)
    (replaces : ∀ row ∈ rows, Replaces table row) (apart : ∀ row ∈ rows, row.key ≠ key) :
    versionIn (putAll table rows) key = versionIn table key := by
  have uniqueAfter := uniqueKeys_putAll unique distinct replaces
  by_cases stored : ∃ other ∈ table, other.key = key
  · obtain ⟨other, member, rfl⟩ := stored
    rw [versionIn_of_mem unique member,
      versionIn_of_mem uniqueAfter ((mem_putAll_other distinct replaces apart).mpr member)]
  · have absent : ∀ other ∈ table, other.key ≠ key := fun other member same =>
      stored ⟨other, member, same⟩
    rw [versionIn_of_absent absent, versionIn_of_absent]
    intro other member same
    exact absent other
      ((mem_putAll_other distinct replaces fun row inRows => same ▸ apart row inRows).mp member) same

end Mosp.Platform
