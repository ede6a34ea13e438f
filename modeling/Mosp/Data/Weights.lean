import Mathlib.Algebra.BigOperators.Group.List.Basic
import Mathlib.Algebra.Order.BigOperators.Group.List
import Mathlib.Algebra.Order.Ring.Int
import Mathlib.Data.List.Range

/-!
# Choosing by weight

A number below the sum of the weights of a list picks the item whose share it falls into.
Every item is picked by as many numbers as its weight says.
-/

namespace Mosp.Data

variable {α : Type*} (weight : α → Int)

/-- The item in whose share a number falls. -/
def itemAt (pick : Int) : List α → Option α
  | [] => none
  | item :: rest => if pick < weight item then some item else itemAt (pick - weight item) rest

def totalWeight (items : List α) : Int :=
  (items.map weight).sum

variable {weight}

theorem itemAt_mem {pick : Int} {items : List α} {item : α}
    (found : itemAt weight pick items = some item) : item ∈ items := by
  induction items generalizing pick with
  | nil => cases found
  | cons first rest ih =>
      unfold itemAt at found
      split at found
      · obtain rfl := Option.some.inj found
        exact List.mem_cons_self
      · exact List.mem_cons_of_mem _ (ih found)

/-- A number below the total falls into a share. -/
theorem itemAt_isSome {pick : Int} {items : List α} (below : pick < totalWeight weight items)
    (least : 0 ≤ pick) : (itemAt weight pick items).isSome = true := by
  induction items generalizing pick with
  | nil => exact absurd below (by simpa [totalWeight] using least)
  | cons first rest ih =>
      unfold itemAt
      split
      · rfl
      · rename_i past
        apply ih
        · rw [totalWeight, List.map_cons, List.sum_cons] at below
          rw [totalWeight]
          omega
        · omega

theorem totalWeight_nonneg {items : List α} (nonneg : ∀ item ∈ items, 0 ≤ weight item) :
    0 ≤ totalWeight weight items := by
  apply List.sum_nonneg
  intro number member
  obtain ⟨item, inside, rfl⟩ := List.mem_map.mp member
  exact nonneg item inside

/-- A weight is part of the total. -/
theorem le_totalWeight {items : List α} (nonneg : ∀ item ∈ items, 0 ≤ weight item) {item : α}
    (member : item ∈ items) : weight item ≤ totalWeight weight items := by
  apply List.single_le_sum
  · intro number inside
    obtain ⟨other, otherMem, rfl⟩ := List.mem_map.mp inside
    exact nonneg other otherMem
  · exact List.mem_map_of_mem member

/-- How many numbers pick an item that is wanted: the weight of those that are. -/
theorem countP_itemAt {items : List α} (nonneg : ∀ item ∈ items, 0 ≤ weight item)
    (wanted : α → Bool) :
    ((List.range (totalWeight weight items).toNat).countP fun (pick : Nat) =>
        (itemAt weight pick items).any wanted : Int) =
      totalWeight weight (items.filter wanted) := by
  induction items with
  | nil => simp [totalWeight]
  | cons first rest ih =>
      have firstNonneg := nonneg first List.mem_cons_self
      have restNonneg : ∀ item ∈ rest, 0 ≤ weight item :=
        fun item member => nonneg item (List.mem_cons_of_mem _ member)
      have restTotal := totalWeight_nonneg restNonneg
      have split : (totalWeight weight (first :: rest)).toNat =
          (weight first).toNat + (totalWeight weight rest).toNat := by
        rw [totalWeight, List.map_cons, List.sum_cons, ← totalWeight,
          Int.toNat_add firstNonneg restTotal]
      have own : (List.range (weight first).toNat).countP (fun (pick : Nat) =>
          (itemAt weight pick (first :: rest)).any wanted) =
            if wanted first then (weight first).toNat else 0 := by
        have here : ∀ pick ∈ List.range (weight first).toNat,
            (itemAt weight (pick : Int) (first :: rest)).any wanted = wanted first := by
          intro pick member
          have small := List.mem_range.mp member
          rw [itemAt, if_pos (by omega), Option.any_some]
        rw [List.countP_congr fun pick member => by rw [here pick member]]
        cases wanted first <;> simp
      have others : ((List.range (totalWeight weight rest).toNat).map
          ((weight first).toNat + ·)).countP (fun (pick : Nat) =>
            (itemAt weight pick (first :: rest)).any wanted) =
          (List.range (totalWeight weight rest).toNat).countP fun (pick : Nat) =>
            (itemAt weight pick rest).any wanted := by
        rw [List.countP_map]
        apply List.countP_congr
        intro pick _
        have past : ¬ (((weight first).toNat + pick : Nat) : Int) < weight first := by omega
        have rest : (((weight first).toNat + pick : Nat) : Int) - weight first = pick := by omega
        rw [Function.comp_apply, itemAt, if_neg past, rest]
      rw [split, List.range_add, List.countP_append, own, others, Int.natCast_add, ih restNonneg,
        List.filter_cons]
      split
      · rw [totalWeight, totalWeight, List.map_cons, List.sum_cons]
        omega
      · simp

end Mosp.Data
