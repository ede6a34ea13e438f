import Mathlib

/-!
# The first page of a list

A bound may be applied to a list before or after a filter.  The two differ
exactly when something is filtered out within the bound and something is left
beyond it.  A sort comes before or after a filter without a difference.
-/

namespace Mosp.Data

variable {α β : Type}

/-- What bounding before filtering misses. -/
theorem take_filter_eq (items : List α) (keep : α → Bool) (limit : Nat) :
    (items.filter keep).take limit = (items.take limit).filter keep ++
      ((items.drop limit).filter keep).take (limit - ((items.take limit).filter keep).length) := by
  have bound : ((items.take limit).filter keep).length ≤ limit :=
    Nat.le_trans (List.length_filter_le _ _) (List.length_take_le _ _)
  conv_lhs => rw [← List.take_append_drop limit items, List.filter_append]
  rw [List.take_append, List.take_of_length_le bound]

/-- Bounding before filtering finds the first page, if nothing is filtered out within the
bound or nothing is left beyond it. -/
theorem map_filter_take_eq_iff (items : List α) (keep : α → Bool) (limit : Nat) (summary : α → β) :
    ((items.take limit).filter keep).map summary = ((items.filter keep).take limit).map summary ↔
      (∀ item ∈ items.take limit, keep item = true) ∨
        ∀ item ∈ items.drop limit, keep item = false := by
  have lengths : ((items.take limit).filter keep).length ≤ (items.take limit).length :=
    List.length_filter_le _ _
  have atMost : (items.take limit).length ≤ limit := List.length_take_le _ _
  rw [take_filter_eq, List.map_append, List.self_eq_append_right, List.map_eq_nil_iff,
    List.take_eq_nil_iff, List.filter_eq_nil_iff]
  simp only [Bool.not_eq_true]
  constructor
  · rintro (full | beyond)
    · refine .inl (List.length_filter_eq_length_iff.mp ?_)
      omega
    · exact .inr beyond
  · rintro (within | beyond)
    · have all := List.length_filter_eq_length_iff.mpr within
      by_cases more : limit ≤ items.length
      · rw [List.length_take_of_le more] at all
        exact .inl (by omega)
      · rw [List.drop_eq_nil_of_le (Nat.le_of_not_le more)]
        exact .inr (by simp)
    · exact .inr beyond

/-- The same of a page that shows more than what is wanted, where a summary tells whether the
item is wanted. -/
theorem map_filter_take_eq_wanted_iff (items : List α) (keep : α → Bool) (limit : Nat)
    (summary : α → β) (wanted : β → Bool) :
    ((items.take limit).filter keep).map summary =
        ((items.filter fun item => keep item && wanted (summary item)).take limit).map summary ↔
      (∀ item ∈ items.take limit, keep item = true → wanted (summary item) = true) ∧
        ((∀ item ∈ items.take limit, keep item = true ∧ wanted (summary item) = true) ∨
          ∀ item ∈ items.drop limit, ¬(keep item = true ∧ wanted (summary item) = true)) := by
  have whole := map_filter_take_eq_iff items (fun item => keep item && wanted (summary item)) limit
    summary
  simp only [Bool.and_eq_true, ← Bool.not_eq_true] at whole
  have alike (only : ∀ item ∈ items.take limit, keep item = true → wanted (summary item) = true) :
      (items.take limit).filter keep =
        (items.take limit).filter fun item => keep item && wanted (summary item) := by
    refine List.filter_congr fun item member => ?_
    cases kept : keep item with
    | true => rw [only item member kept, Bool.true_and]
    | false => rfl
  constructor
  · intro same
    have only : ∀ item ∈ items.take limit, keep item = true → wanted (summary item) = true := by
      intro item member kept
      have shown : summary item ∈ ((items.take limit).filter keep).map summary :=
        List.mem_map_of_mem (List.mem_filter.mpr ⟨member, kept⟩)
      rw [same] at shown
      obtain ⟨other, taken, equal⟩ := List.mem_map.mp shown
      have passes := (List.mem_filter.mp (List.mem_of_mem_take taken)).2
      rw [Bool.and_eq_true] at passes
      exact equal ▸ passes.2
    rw [alike only] at same
    exact ⟨only, whole.mp same⟩
  · rintro ⟨only, page⟩
    rw [alike only]
    exact whole.mpr page

/-- An item of a sorted list is within the bound if few enough items come before it. -/
theorem mem_take_iff_of_sorted {κ : Type} [LinearOrder κ] {key : α → κ} {items : List α}
    (sorted : items.Pairwise fun first second => key first ≤ key second) {item : α}
    (distinct : ∀ other ∈ items, key other = key item → other = item) (limit : Nat) :
    item ∈ items.take limit ↔
      item ∈ items ∧ items.countP (fun other => decide (key other < key item)) < limit := by
  induction items generalizing limit with
  | nil => simp
  | cons first rest ih =>
      have inner := ih sorted.of_cons fun other member same =>
        distinct other (List.mem_cons_of_mem _ member) same
      cases limit with
      | zero => simp
      | succ limit =>
          rw [List.take_succ_cons, List.mem_cons, inner, List.mem_cons, List.countP_cons]
          by_cases same : item = first
          · subst same
            have none_before : rest.countP (fun other => decide (key other < key item)) = 0 := by
              rw [List.countP_eq_zero]
              intro other member
              have later := (List.pairwise_cons.mp sorted).1 other member
              simpa using later
            simp [none_before]
          · by_cases member : item ∈ rest
            · have before : key first < key item := by
                apply lt_of_le_of_ne ((List.pairwise_cons.mp sorted).1 item member)
                intro equal
                exact same (distinct first List.mem_cons_self equal).symm
              simp [same, member, before]
            · simp [same, member]

/-- Inserting in order an item that is kept, before or after the filter. -/
theorem filter_orderedInsert {r : α → α → Prop} [DecidableRel r] [IsTrans α r] {keep : α → Bool}
    {item : α} (kept : keep item = true) {items : List α} (sorted : items.Pairwise r) :
    (items.orderedInsert r item).filter keep = (items.filter keep).orderedInsert r item := by
  induction items with
  | nil => simp [kept]
  | cons first rest ih =>
      have inner := ih sorted.of_cons
      by_cases before : r item first
      · have least : ∀ other ∈ (first :: rest).filter keep, r item other := by
          intro other member
          rcases List.mem_cons.mp (List.mem_of_mem_filter member) with rfl | later
          · exact before
          · exact trans_of r before ((List.pairwise_cons.mp sorted).1 other later)
        rw [List.orderedInsert_cons_of_le r rest before, List.filter_cons_of_pos kept]
        cases filtered : (first :: rest).filter keep with
        | nil => rfl
        | cons head others =>
            rw [filtered] at least
            rw [List.orderedInsert_cons_of_le r others (least head List.mem_cons_self)]
      · rw [List.orderedInsert_of_not_le r rest before]
        by_cases keeps : keep first = true
        · rw [List.filter_cons_of_pos keeps, List.filter_cons_of_pos keeps, inner,
            List.orderedInsert_of_not_le r _ before]
        · rw [List.filter_cons_of_neg keeps, List.filter_cons_of_neg keeps, inner]

/-- Sorting keeps the order of equal items, so that it does not matter whether a filter comes
before or after. -/
theorem insertionSort_filter {r : α → α → Prop} [DecidableRel r] [IsTrans α r] [Std.Total r]
    (keep : α → Bool) (items : List α) :
    (items.filter keep).insertionSort r = (items.insertionSort r).filter keep := by
  induction items with
  | nil => rfl
  | cons first rest ih =>
      have sorted : (rest.insertionSort r).Pairwise r := List.pairwise_insertionSort r rest
      rw [List.insertionSort_cons]
      by_cases keeps : keep first = true
      · rw [List.filter_cons_of_pos keeps, List.insertionSort_cons, ih,
          filter_orderedInsert keeps sorted]
      · rw [List.filter_cons_of_neg keeps, ih, List.orderedInsert_eq_take_drop, List.filter_append,
          List.filter_cons_of_neg keeps, ← List.filter_append, List.takeWhile_append_dropWhile]

end Mosp.Data
