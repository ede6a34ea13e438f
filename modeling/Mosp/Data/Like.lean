import Mathlib.Data.List.Infix

/-!
# Patterns of LIKE

The patterns of SQL's `LIKE`.  A pattern is a word of places: a letter, a place for
one letter whichever, and a place for any number of letters.
-/

namespace Mosp.Data

/-- What a place of a pattern stands for. -/
inductive Place (α : Type*) where
  | letter (value : α)
  | one
  | many

namespace Place

variable {α : Type*} [DecidableEq α]

/-- Whether a text can be spread over the places of a pattern. -/
def fits : List (Place α) → List α → Bool
  | [], text => text.isEmpty
  | many :: pattern, text => text.tails.any (fits pattern)
  | one :: pattern, _ :: text => fits pattern text
  | letter value :: pattern, first :: text => value == first && fits pattern text
  | _ :: _, [] => false

theorem fits_many_cons_iff {pattern : List (Place α)} {text : List α} :
    fits (many :: pattern) text = true ↔ ∃ start rest, start ++ rest = text ∧
      fits pattern rest = true := by
  rw [fits, List.any_eq_true]
  constructor
  · rintro ⟨rest, tail, fit⟩
    obtain ⟨start, whole⟩ := (List.mem_tails _ _).mp tail
    exact ⟨start, rest, whole, fit⟩
  · rintro ⟨start, rest, whole, fit⟩
    exact ⟨rest, (List.mem_tails _ _).mpr ⟨start, whole⟩, fit⟩

/-- A last place for any number of letters takes whatever is left. -/
theorem fits_many (text : List α) : fits [many] text = true :=
  fits_many_cons_iff.mpr ⟨text, [], List.append_nil text, rfl⟩

/-- Patterns that are written one after the other fit texts that are. -/
theorem fits_append {pattern others : List (Place α)} {start rest : List α}
    (begins : fits pattern start = true) (goes : fits others rest = true) :
    fits (pattern ++ others) (start ++ rest) = true := by
  induction pattern generalizing start with
  | nil =>
      obtain rfl : start = [] := List.isEmpty_iff.mp begins
      exact goes
  | cons place pattern ih =>
      cases place with
      | many =>
          obtain ⟨skipped, taken, rfl, fit⟩ := fits_many_cons_iff.mp begins
          rw [List.cons_append, fits_many_cons_iff]
          exact ⟨skipped, taken ++ rest, by rw [List.append_assoc], ih fit⟩
      | one =>
          cases start with
          | nil => simp [fits] at begins
          | cons first start =>
              simp only [fits] at begins
              simpa [fits] using ih begins
      | letter value =>
          cases start with
          | nil => simp [fits] at begins
          | cons first start =>
              simp only [fits, Bool.and_eq_true] at begins
              simpa [fits, begins.1] using ih begins.2

end Place

/-! ## How a pattern is written -/

/-- The place that an unescaped character stands for. -/
def place : Char → Place Char
  | '%' => .many
  | '_' => .one
  | char => .letter char

/-- The places of a written pattern; a backslash escapes the next character. -/
def places : List Char → List (Place Char)
  | [] => []
  | '\\' :: char :: rest => .letter char :: places rest
  | char :: rest => place char :: places rest

/-- `text LIKE pattern` -/
def like (text pattern : String) : Bool :=
  Place.fits (places pattern.toList) text.toList

example : like "b/1" "b_%" = true ∧ like "b/1" "b\\_%" = false ∧ like "b_1" "b\\_%" = true ∧
    like "abc" "%c" = true ∧ like "abc" "_c" = false := by
  decide +kernel

/-- Without a backslash every character is a place. -/
theorem places_eq_map {pattern : List Char} (plain : '\\' ∉ pattern) :
    places pattern = pattern.map place := by
  induction pattern with
  | nil => rfl
  | cons char rest ih =>
      have other : char ≠ '\\' := fun escape => plain (escape ▸ List.mem_cons_self)
      have inner := ih fun member => plain (List.mem_cons_of_mem _ member)
      cases rest with
      | nil => simp [places]
      | cons next rest => simp [places, other, inner]

/-- A text without a backslash fits itself as a pattern. -/
theorem fits_own (text : List Char) : Place.fits (text.map place) text = true := by
  induction text with
  | nil => rfl
  | cons char rest ih =>
      rw [List.map_cons]
      cases own : place char with
      | many => exact Place.fits_many_cons_iff.mpr ⟨[char], rest, rfl, ih⟩
      | one => simpa [Place.fits] using ih
      | letter value =>
          have same : value = char := by
            unfold place at own
            split at own
            · cases own
            · cases own
            · exact (Place.letter.inj own).symm
          simpa [Place.fits, same] using ih

/-- A text that begins with a word without a backslash is like the word followed by `%`. -/
theorem like_of_prefix {text start : String} (plain : '\\' ∉ start.toList)
    (begins : start.toList <+: text.toList) : like text (start ++ "%") = true := by
  obtain ⟨rest, whole⟩ := begins
  have unescaped : '\\' ∉ start.toList ++ ['%'] := by simpa using plain
  rw [like, String.toList_append, ← whole]
  change Place.fits (places (start.toList ++ ['%'])) _ = true
  rw [places_eq_map unescaped, List.map_append]
  exact Place.fits_append (fits_own _) (Place.fits_many rest)

end Mosp.Data
