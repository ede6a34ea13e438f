import Mathlib.Data.List.Basic

/-!
# Splitting at a separator written twice

Lists that are cut at every place where the separator occurs twice in a row, and what
this does to words that were joined by single separators.
-/

namespace Mosp.Data

variable {α : Type*}

/-- Words that can stand between single separators. -/
def Words (separator : α) (words : List (List α)) : Prop :=
  ∀ word ∈ words, word ≠ [] ∧ separator ∉ word

theorem Words.head {separator : α} {word : List α} {words : List (List α)}
    (all : Words separator (word :: words)) : word ≠ [] ∧ separator ∉ word :=
  all word List.mem_cons_self

theorem Words.tail {separator : α} {word : List α} {words : List (List α)}
    (all : Words separator (word :: words)) : Words separator words :=
  fun other member => all other (List.mem_cons_of_mem _ member)

theorem Words.append {separator : α} {words others : List (List α)}
    (left : Words separator words) (right : Words separator others) :
    Words separator (words ++ others) := by
  intro word member
  rcases List.mem_append.mp member with member | member
  · exact left word member
  · exact right word member

/-- Joined words begin like the first of them. -/
theorem Words.intercalate_cons {separator : α} {word : List α} {words : List (List α)}
    (all : Words separator (word :: words)) :
    ∃ first rest, first ≠ separator ∧ [separator].intercalate (word :: words) = first :: rest := by
  obtain ⟨nonempty, plain⟩ := all.head
  cases word with
  | nil => exact absurd rfl nonempty
  | cons first word =>
      have other : first ≠ separator := fun same => plain (same ▸ List.mem_cons_self)
      cases words with
      | nil => exact ⟨first, word, other, by simp⟩
      | cons next words =>
          exact ⟨first, word ++ [separator] ++ [separator].intercalate (next :: words), other,
            by simp [List.intercalate_cons_cons]⟩

/-- Where an item of joined words comes from. -/
theorem mem_intercalate {separator item : α} {words : List (List α)}
    (member : item ∈ [separator].intercalate words) :
    item = separator ∨ ∃ word ∈ words, item ∈ word := by
  induction words with
  | nil => simp at member
  | cons word words ih =>
      cases words with
      | nil => exact .inr ⟨word, List.mem_cons_self, by simpa using member⟩
      | cons next words =>
          rw [List.intercalate_cons_cons, List.mem_append, List.mem_append,
            List.mem_singleton] at member
          rcases member with (member | same) | member
          · exact .inr ⟨word, List.mem_cons_self, member⟩
          · exact .inl same
          · rcases ih member with same | ⟨other, inside, found⟩
            · exact .inl same
            · exact .inr ⟨other, List.mem_cons_of_mem _ inside, found⟩

theorem intercalate_append {separator : α} {left right : List (List α)} (first : left ≠ [])
    (second : right ≠ []) :
    [separator].intercalate (left ++ right) =
      [separator].intercalate left ++ separator :: [separator].intercalate right := by
  induction left with
  | nil => exact absurd rfl first
  | cons word words ih =>
      cases words with
      | nil =>
          cases right with
          | nil => exact absurd rfl second
          | cons other right => simp [List.intercalate_cons_cons]
      | cons next words =>
          have inner := ih (by simp)
          simp only [List.cons_append] at inner ⊢
          rw [List.intercalate_cons_cons, List.intercalate_cons_cons, inner]
          simp

/-- A beginning without separators lies in the first word. -/
theorem isPrefix_word_iff {separator : α} {start word rest : List α} (plain : separator ∉ start) :
    start <+: word ++ separator :: rest ↔ start <+: word := by
  induction word generalizing start with
  | nil =>
      cases start with
      | nil => simp
      | cons first start =>
          have other : first ≠ separator := fun same => plain (same ▸ List.mem_cons_self)
          simp [other]
  | cons item word ih =>
      cases start with
      | nil => simp
      | cons first start =>
          rw [List.cons_append, List.cons_prefix_cons, List.cons_prefix_cons,
            ih fun member => plain (List.mem_cons_of_mem _ member)]

/-- A beginning with a separator has the first word before it. -/
theorem isPrefix_words_iff {separator : α} {first start word rest : List α}
    (plain : separator ∉ first) (wordPlain : separator ∉ word) :
    first ++ separator :: start <+: word ++ separator :: rest ↔ first = word ∧ start <+: rest := by
  induction word generalizing first with
  | nil =>
      cases first with
      | nil => simp
      | cons item first =>
          have other : item ≠ separator := fun same => plain (same ▸ List.mem_cons_self)
          simp [other]
  | cons item word ih =>
      have other : separator ≠ item := fun same => wordPlain (same ▸ List.mem_cons_self)
      cases first with
      | nil => simp [other]
      | cons head first =>
          rw [List.cons_append, List.cons_append, List.cons_prefix_cons,
            ih (fun member => plain (List.mem_cons_of_mem _ member))
              (fun member => wordPlain (List.mem_cons_of_mem _ member)), List.cons.injEq, and_assoc]

variable [DecidableEq α]

/-- The stretches of a list between doubled separators, taken from the left. -/
def splitOnPair (separator : α) : List α → List (List α)
  | [] => [[]]
  | [item] => [[item]]
  | first :: second :: rest =>
      if first = separator ∧ second = separator then
        [] :: splitOnPair separator rest
      else
        (splitOnPair separator (second :: rest)).modifyHead (first :: ·)

@[simp]
theorem splitOnPair_nil (separator : α) : splitOnPair separator [] = [[]] :=
  rfl

@[simp]
theorem splitOnPair_pair (separator : α) (rest : List α) :
    splitOnPair separator (separator :: separator :: rest) = [] :: splitOnPair separator rest := by
  simp [splitOnPair]

theorem splitOnPair_cons {separator first : α} (other : first ≠ separator) (rest : List α) :
    splitOnPair separator (first :: rest) =
      (splitOnPair separator rest).modifyHead (first :: ·) := by
  cases rest with
  | nil => rfl
  | cons second rest => simp [splitOnPair, other]

/-- One separator alone does not split. -/
theorem splitOnPair_single {separator second : α} (other : second ≠ separator)
    (rest : List α) :
    splitOnPair separator (separator :: second :: rest) =
      (splitOnPair separator (second :: rest)).modifyHead (separator :: ·) := by
  simp [splitOnPair, other]

theorem splitOnPair_word {separator : α} {word : List α} (plain : separator ∉ word)
    (rest : List α) :
    splitOnPair separator (word ++ rest) =
      (splitOnPair separator rest).modifyHead (word ++ ·) := by
  induction word with
  | nil =>
      rw [List.nil_append, show (([] : List α) ++ ·) = id from rfl, List.modifyHead_id, id]
  | cons first word ih =>
      have other : first ≠ separator := fun same => plain (same ▸ List.mem_cons_self)
      rw [List.cons_append, splitOnPair_cons other,
        ih (fun member => plain (List.mem_cons_of_mem _ member)), List.modifyHead_modifyHead]
      rfl

/-- Words joined by single separators are not split. -/
theorem splitOnPair_intercalate {separator : α} {words : List (List α)}
    (all : Words separator words) (rest : List α) :
    splitOnPair separator ([separator].intercalate words ++ rest) =
      (splitOnPair separator rest).modifyHead ([separator].intercalate words ++ ·) := by
  induction words with
  | nil =>
      rw [List.intercalate_nil, List.nil_append, show (([] : List α) ++ ·) = id from rfl,
        List.modifyHead_id, id]
  | cons word words ih =>
      cases words with
      | nil =>
          rw [List.intercalate_singleton]
          exact splitOnPair_word all.head.2 rest
      | cons next words =>
          obtain ⟨first, others, plain, joined⟩ := all.tail.intercalate_cons
          have inner := ih all.tail
          rw [List.intercalate_cons_cons, List.append_assoc, List.append_assoc,
            splitOnPair_word all.head.2, List.singleton_append, joined, List.cons_append,
            splitOnPair_single plain, ← List.cons_append, ← joined, inner,
            List.modifyHead_modifyHead, List.modifyHead_modifyHead]
          congr 1
          funext stretch
          simp

/-- Two lists of words with a doubled separator between them. -/
theorem splitOnPair_intercalate_pair {separator : α} {left right : List (List α)}
    (leftWords : Words separator left) (rightWords : Words separator right) :
    splitOnPair separator
        ([separator].intercalate left ++ separator :: separator ::
          [separator].intercalate right) =
      [[separator].intercalate left, [separator].intercalate right] := by
  have last := splitOnPair_intercalate rightWords []
  rw [splitOnPair_intercalate leftWords, splitOnPair_pair]
  rw [List.append_nil, splitOnPair_nil] at last
  simp [last]

end Mosp.Data
