import Mathlib.Data.List.Forall2
import Mathlib.Data.List.Pairwise
import Mathlib.Data.List.Sort

/-!
# Following cursors

A list is read page by page: each page names where the next one starts.
-/

namespace Mosp.Data

variable {α β γ κ P : Type}

/-- Ask for one page after the other until one names no next cursor.  `call` gets the number of
the call with the cursor; a run that takes more than `fuel` calls has no result. -/
def follow (call : Nat → Option γ → P) (nextCursor : P → Option γ) :
    Nat → Nat → Option γ → Option (List P)
  | 0, _, _ => none
  | fuel + 1, number, cursor =>
      let page := call number cursor
      match nextCursor page with
      | none => some [page]
      | some next => (follow call nextCursor fuel (number + 1) (some next)).map (page :: ·)

/-- A page shows the first of the remaining keys and names the last one it shows if there are
more. -/
structure PageOf (shows : β → κ → Prop) (text : κ → γ) (limit : Nat) (remaining : List κ)
    (items : List β) (nextCursor : Option γ) : Prop where
  items : List.Forall₂ shows items (remaining.take limit)
  nextCursor : nextCursor =
    if limit < remaining.length then (remaining.take limit).getLast?.map text else none

/-- If every call answers with the keys after its cursor, all keys are shown once and in order,
after at most one call for each of them and one more. -/
theorem follow_pages {call : Nat → Option γ → P} {nextCursor : P → Option γ} {items : P → List β}
    {shows : Nat → β → κ → Prop} {text : κ → γ} {limit : Nat} (positive : 1 ≤ limit)
    {keys : List κ}
    (answers : ∀ number before last rest, keys = before ++ last :: rest →
      PageOf (shows (number + 1)) text limit rest (items (call (number + 1) (some (text last))))
        (nextCursor (call (number + 1) (some (text last)))))
    {number : Nat} {cursor : Option γ} {remaining : List κ} (ending : remaining <:+ keys)
    (page : PageOf (shows number) text limit remaining (items (call number cursor))
      (nextCursor (call number cursor))) :
    ∃ pages, (∀ fuel, remaining.length < fuel →
        follow call nextCursor fuel number cursor = some pages) ∧
      List.Forall₂ (fun item key => ∃ number, shows number item key) (pages.flatMap items)
        remaining ∧
      ∀ page ∈ pages, ∀ cursor ∈ nextCursor page, ∃ key ∈ remaining, cursor = text key := by
  induction size : remaining.length using Nat.strong_induction_on
    generalizing number cursor remaining with
  | _ length ih =>
      have shown := page.items.imp (S := fun item key => ∃ number, shows number item key)
        fun _ _ shows => ⟨number, shows⟩
      by_cases more : limit < remaining.length
      · obtain ⟨before, last, taken⟩ : ∃ before last, remaining.take limit = before ++ [last] := by
          have some_ : remaining.take limit ≠ [] := by
            rw [← List.length_pos_iff, List.length_take]
            omega
          exact ⟨_, _, (List.dropLast_append_getLast some_).symm⟩
        have whole : remaining = before ++ last :: remaining.drop limit := by
          conv_lhs => rw [← List.take_append_drop limit remaining, taken, List.append_assoc]
          rfl
        have next : nextCursor (call number cursor) = some (text last) := by
          rw [page.nextCursor, if_pos more, taken, List.getLast?_concat]
          rfl
        obtain ⟨front, split⟩ := ending
        have later := answers number (front ++ before) last (remaining.drop limit)
          (by rw [← split, List.append_assoc, ← whole])
        obtain ⟨pages, ends, rest, cursors⟩ := ih (remaining.drop limit).length
          (by rw [List.length_drop]; omega)
          ((List.drop_suffix limit remaining).trans ⟨front, split⟩) later rfl
        use call number cursor :: pages
        constructor
        · intro fuel enough
          cases fuel with
          | zero => omega
          | succ fuel =>
              have answered := ends fuel (by rw [List.length_drop]; omega)
              rw [follow, next]
              dsimp only
              rw [answered]
              rfl
        constructor
        · rw [List.flatMap_cons, ← List.take_append_drop limit remaining]
          exact List.rel_append shown rest
        · intro page member cursor named
          cases member with
          | head =>
              rw [next] at named
              cases named
              exact ⟨last, by rw [whole]; simp, rfl⟩
          | tail _ member =>
              obtain ⟨key, inside, same⟩ := cursors page member cursor named
              exact ⟨key, List.mem_of_mem_drop inside, same⟩
      · have next : nextCursor (call number cursor) = none := by
          rw [page.nextCursor, if_neg more]
        use [call number cursor]
        constructor
        · intro fuel enough
          cases fuel with
          | zero => omega
          | succ fuel =>
              rw [follow, next]
        constructor
        · rw [List.take_of_length_le (Nat.le_of_not_lt more)] at shown
          simpa using shown
        · intro page member cursor named
          rw [List.mem_singleton.mp member, next] at named
          cases named

/-- A page cut from one row more than it may have. -/
theorem pageOf_probe {shows : β → κ → Prop} {text : κ → γ} {limit : Nat} {remaining : List κ}
    {rows : List α} {key : α → κ} {item : α → β}
    (read : rows.map key = remaining.take (limit + 1))
    (shown : ∀ row ∈ rows, shows (item row) (key row)) :
    PageOf shows text limit remaining
      ((if rows.length > limit then rows.take limit else rows).map item)
      (if rows.length > limit then
        (if rows.length > limit then rows.take limit else rows).getLast?.map fun row =>
          text (key row)
      else none) := by
  have size := congrArg List.length read
  rw [List.length_map, List.length_take] at size
  have page : (if rows.length > limit then rows.take limit else rows) = rows.take limit := by
    split
    · rfl
    · rename_i few
      rw [List.take_of_length_le (Nat.le_of_not_gt few)]
  have keys : (rows.take limit).map key = remaining.take limit := by
    rw [List.map_take, read, List.take_take, Nat.min_eq_left (Nat.le_succ limit)]
  rw [page]
  constructor
  · rw [← keys, List.forall₂_map_left_iff, List.forall₂_map_right_iff, List.forall₂_same]
    exact fun row member => shown row (List.mem_of_mem_take member)
  · by_cases more : limit < remaining.length
    · rw [if_pos more, if_pos (by omega), ← keys, List.getLast?_map, Option.map_map]
      rfl
    · rw [if_neg more, if_neg (by omega)]

/-! ## Sorted rows -/

section Sorted

variable {r : α → α → Prop} [DecidableRel r] {rows : List α}

/-- Rows of which no two are level are strictly sorted. -/
theorem strict_insertionSort [Std.Total r] [IsTrans α r]
    (distinct : rows.Pairwise fun first second => ¬(r first second ∧ r second first)) :
    (rows.insertionSort r).Pairwise fun first second =>
      r first second ∧ ¬r second first := by
  have still : (rows.insertionSort r).Pairwise fun first second =>
      ¬(r first second ∧ r second first) :=
    ((List.perm_insertionSort r rows).pairwise_iff fun apart => by
      rwa [and_comm] at apart).mpr distinct
  exact (List.pairwise_insertionSort r rows).imp₂ (fun _ _ before apart =>
    ⟨before, fun back => apart ⟨before, back⟩⟩) still

/-- There is only one strictly sorted list of the rows. -/
theorem insertionSort_eq [Std.Total r] [IsTrans α r] {sorted : List α} (same : sorted.Perm rows)
    (strict : sorted.Pairwise fun first second => r first second ∧ ¬r second first) :
    rows.insertionSort r = sorted := by
  have apart : sorted.Pairwise fun first second => ¬(r first second ∧ r second first) :=
    strict.imp fun before both => before.2 both.2
  apply ((List.perm_insertionSort r rows).trans same.symm).eq_of_pairwise _
    (List.pairwise_insertionSort r rows) (strict.imp And.left)
  intro first second inRows inSorted before back
  by_contra differ
  have inSorted' : first ∈ sorted :=
    same.mem_iff.mpr ((List.mem_insertionSort r).mp inRows)
  have symmetric : Std.Symm fun first second => ¬(r first second ∧ r second first) :=
    ⟨fun _ _ apart => by rwa [and_comm] at apart⟩
  exact apart.forall inSorted' inSorted differ ⟨before, back⟩

/-- What follows a row of a sorted list. -/
theorem filter_after {before : α → α → Prop} [DecidableRel before]
    (asymm : ∀ first second, before first second → ¬before second first)
    {front rest : List α} {last : α} (sorted : (front ++ last :: rest).Pairwise before) :
    (front ++ last :: rest).filter (fun row => before last row) = rest := by
  have later := List.pairwise_append.mp sorted
  have none_before : front.filter (fun row => decide (before last row)) = [] := by
    rw [List.filter_eq_nil_iff]
    intro row member
    simpa using asymm _ _ (later.2.2 row member last List.mem_cons_self)
  have all_after : rest.filter (fun row => decide (before last row)) = rest := by
    rw [List.filter_eq_self]
    intro row member
    simpa using (List.pairwise_cons.mp later.2.1).1 row member
  have itself : ¬before last last := fun before => asymm _ _ before before
  rw [List.filter_append, none_before, List.nil_append, List.filter_cons_of_neg (by simpa using itself),
    all_after]

end Sorted

end Mosp.Data
