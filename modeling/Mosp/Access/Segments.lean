import Mosp.Services.FolderGrants
import Mathlib.Data.List.DropRight

/-!
# Segments of a path

What the string operations on prefixes of folders say about the segments between
slashes.
-/

namespace Mosp.Access

open Mosp.Services

/-! ## Prefixes -/

theorem segments_nil : segments [] = [[]] :=
  rfl

theorem segments_slash (rest : List Char) : segments ('/' :: rest) = [] :: segments rest := by
  simp [segments]

/-- A path has a first segment. -/
theorem segments_eq_cons (path : List Char) :
    ∃ first others, segments path = first :: others := by
  cases path with
  | nil => exact ⟨[], [], rfl⟩
  | cons char rest =>
      unfold segments
      split
      · exact ⟨[], _, rfl⟩
      · split
        · exact ⟨_, _, rfl⟩
        · exact ⟨_, _, rfl⟩

/-- Any other character belongs to the first segment. -/
theorem segments_cons {char : Char} (other : char ≠ '/') {rest first : List Char}
    {others : List (List Char)} (split : segments rest = first :: others) :
    segments (char :: rest) = (char :: first) :: others := by
  simp [segments, other, split]

/-- The segments of one path begin with those of another when it goes on with a slash. -/
theorem segments_prefix_iff (folder key : List Char) :
    segments folder <+: segments key ↔ key = folder ∨ folder ++ ['/'] <+: key := by
  induction folder generalizing key with
  | nil =>
      rw [segments_nil, List.nil_append]
      cases key with
      | nil => simp [segments_nil]
      | cons char rest =>
          by_cases slash : char = '/'
          · subst slash
            simp [segments_slash]
          · obtain ⟨first, others, split⟩ := segments_eq_cons rest
            rw [segments_cons slash split]
            simp [List.cons_prefix_cons, Ne.symm slash]
  | cons char rest ih =>
      cases key with
      | nil =>
          obtain ⟨first, others, split⟩ := segments_eq_cons rest
          by_cases slash : char = '/'
          · subst slash
            simp [segments_slash, segments_nil, split, List.cons_prefix_cons]
          · simp [segments_cons slash split, segments_nil, List.cons_prefix_cons]
      | cons keyChar keyRest =>
          rw [List.cons_append, List.cons_prefix_cons, List.cons.injEq]
          obtain ⟨first, others, split⟩ := segments_eq_cons rest
          obtain ⟨keyFirst, keyOthers, keySplit⟩ := segments_eq_cons keyRest
          have rests := ih keyRest
          by_cases slash : char = '/'
          · subst slash
            rw [segments_slash]
            by_cases keySlash : keyChar = '/'
            · subst keySlash
              rw [segments_slash, List.cons_prefix_cons, rests]
              simp
            · rw [segments_cons keySlash keySplit]
              simp [List.cons_prefix_cons, keySlash, Ne.symm keySlash]
          · rw [segments_cons slash split]
            by_cases keySlash : keyChar = '/'
            · subst keySlash
              rw [segments_slash]
              simp [List.cons_prefix_cons, slash, Ne.symm slash]
            · rw [segments_cons keySlash keySplit, List.cons_prefix_cons, List.cons.injEq,
                and_assoc, ← List.cons_prefix_cons, ← split, ← keySplit, rests]
              grind

theorem prefixMatches_iff (folderPrefix key : String) :
    FolderGrantService.prefixMatches folderPrefix key = true ↔
      folderPrefix = "" ∨ segments folderPrefix.toList <+: segments key.toList := by
  have slash : (folderPrefix ++ "/").toList = folderPrefix.toList ++ ['/'] := by simp
  simp only [FolderGrantService.prefixMatches, startsWith, Bool.or_eq_true, beq_iff_eq,
    List.isPrefixOf_iff_prefix, slash, segments_prefix_iff, String.toList_inj]
  rw [or_assoc]

/-! ## Normalized prefixes -/

/-- Only the slashes at both ends are dropped. -/
theorem trimSlashes_eq (path : List Char) :
    trimSlashes path = (path.dropWhile (· == '/')).rdropWhile (· == '/') :=
  rfl

theorem trimSlashes_slash (path : List Char) : trimSlashes ('/' :: path) = trimSlashes path := by
  simp [trimSlashes]

theorem trimSlashes_concat_slash (path : List Char) :
    trimSlashes (path ++ ['/']) = trimSlashes path := by
  rw [trimSlashes_eq, trimSlashes_eq, List.dropWhile_append]
  split
  · rename_i empty
    simp [List.isEmpty_iff.mp empty]
  · rw [List.rdropWhile_concat_pos _ _ _ (by decide)]

theorem trimSlashes_surrounded (before after : Nat) (path : List Char) :
    trimSlashes (List.replicate before '/' ++ path ++ List.replicate after '/') =
      trimSlashes path := by
  have front : trimSlashes (List.replicate before '/' ++ path) = trimSlashes path := by
    induction before with
    | zero => rfl
    | succ count ih =>
        rw [List.replicate_succ, List.cons_append, trimSlashes_slash, ih]
  rw [← front]
  induction after with
  | zero => simp
  | succ count ih =>
      rw [List.replicate_succ', ← List.append_assoc, trimSlashes_concat_slash, ih]

theorem trimSlashes_trimSlashes (path : List Char) :
    trimSlashes (trimSlashes path) = trimSlashes path := by
  have front : (trimSlashes path).dropWhile (· == '/') = trimSlashes path := by
    rw [List.dropWhile_eq_self_iff]
    intro nonempty
    -- The first character is the first that is kept at the front.
    have kept : trimSlashes path <+: path.dropWhile (· == '/') :=
      List.rdropWhile_prefix _ _
    have inside : 0 < (path.dropWhile (· == '/')).length :=
      Nat.lt_of_lt_of_le nonempty kept.length_le
    rw [kept.getElem nonempty]
    exact List.dropWhile_get_zero_not _ path inside
  rw [trimSlashes_eq, front, trimSlashes_eq, List.rdropWhile_idempotent]

/-- A prefix that was normalized is not changed by it. -/
theorem normalizeFolderPrefix_idempotent (folderPrefix : String) :
    (normalizeFolderPrefix folderPrefix).bind normalizeFolderPrefix =
      normalizeFolderPrefix folderPrefix := by
  unfold normalizeFolderPrefix
  dsimp only
  split
  · rfl
  · rename_i safe
    simp only [Except.bind, String.toList_ofList, trimSlashes_trimSlashes]
    rw [if_neg safe]

/-- Slashes around a prefix do not matter. -/
theorem normalizeFolderPrefix_surrounded (folderPrefix : String) (before after : Nat) :
    normalizeFolderPrefix (String.ofList
      (List.replicate before '/' ++ folderPrefix.toList ++ List.replicate after '/')) =
      normalizeFolderPrefix folderPrefix := by
  unfold normalizeFolderPrefix
  rw [String.toList_ofList, trimSlashes_surrounded]

end Mosp.Access
