import Mathlib.Data.List.Nodup
import Mathlib.Data.List.Sort

/-!
# Maps that keep the order of insertion

A map is a list of entries in which no key occurs twice.  Setting a key that is there
changes its value in place; a new key goes to the end.
-/

namespace Mosp.Data

variable {κ ν : Type*}

@[ext]
structure OrderedMap (κ ν : Type*) where
  entries : List (κ × ν)
  nodup : (entries.map Prod.fst).Nodup

namespace OrderedMap

def empty : OrderedMap κ ν :=
  ⟨[], List.nodup_nil⟩

def size (map : OrderedMap κ ν) : Nat :=
  map.entries.length

/-- The entries that satisfy a condition. -/
def filter (map : OrderedMap κ ν) (condition : κ × ν → Bool) : OrderedMap κ ν :=
  ⟨map.entries.filter condition, map.nodup.sublist (List.filter_sublist.map _)⟩

theorem mem_filter {map : OrderedMap κ ν} {condition : κ × ν → Bool} {entry : κ × ν} :
    entry ∈ (map.filter condition).entries ↔ entry ∈ map.entries ∧ condition entry = true :=
  List.mem_filter

theorem size_filter_le (map : OrderedMap κ ν) (condition : κ × ν → Bool) :
    (map.filter condition).size ≤ map.size :=
  List.length_filter_le _ _

/-- Two entries with one key are the same. -/
theorem eq_of_key_eq {map : OrderedMap κ ν} {first second : κ × ν} (firstMem : first ∈ map.entries)
    (secondMem : second ∈ map.entries) (same : first.1 = second.1) : first = second :=
  List.inj_on_of_nodup_map map.nodup firstMem secondMem same

variable [DecidableEq κ]

def get? (map : OrderedMap κ ν) (key : κ) : Option ν :=
  (map.entries.find? fun entry => entry.1 = key).map Prod.snd

theorem get?_eq_some {map : OrderedMap κ ν} {key : κ} {value : ν} :
    map.get? key = some value ↔ (key, value) ∈ map.entries := by
  unfold get?
  constructor
  · intro found
    obtain ⟨entry, search, rfl⟩ := Option.map_eq_some_iff.mp found
    have holds := List.find?_some search
    simp only [decide_eq_true_eq] at holds
    subst holds
    exact List.mem_of_find?_eq_some search
  · intro member
    cases search : map.entries.find? fun entry => entry.1 = key with
    | none =>
        have absent := List.find?_eq_none.mp search _ member
        simp at absent
    | some entry =>
        have holds := List.find?_some search
        simp only [decide_eq_true_eq] at holds
        rw [eq_of_key_eq (List.mem_of_find?_eq_some search) member holds]
        rfl

theorem get?_eq_none {map : OrderedMap κ ν} {key : κ} :
    map.get? key = none ↔ ∀ entry ∈ map.entries, entry.1 ≠ key := by
  simp [get?]

@[simp]
theorem get?_empty (key : κ) : (empty : OrderedMap κ ν).get? key = none :=
  rfl

/-! ## Setting a key -/

/-- Give a key a value, in place or at the end. -/
def setEntry (key : κ) (value : ν) : List (κ × ν) → List (κ × ν)
  | [] => [(key, value)]
  | entry :: rest =>
      if entry.1 = key then (key, value) :: rest else entry :: setEntry key value rest

theorem setEntry_of_not_mem {key : κ} {value : ν} {entries : List (κ × ν)}
    (absent : ∀ entry ∈ entries, entry.1 ≠ key) :
    setEntry key value entries = entries ++ [(key, value)] := by
  induction entries with
  | nil => rfl
  | cons entry rest ih =>
      rw [setEntry, if_neg (absent entry List.mem_cons_self),
        ih fun other member => absent other (List.mem_cons_of_mem _ member)]
      rfl

theorem setEntry_keys {key : κ} {value : ν} {entries : List (κ × ν)}
    (present : key ∈ entries.map Prod.fst) :
    (setEntry key value entries).map Prod.fst = entries.map Prod.fst := by
  induction entries with
  | nil => contradiction
  | cons entry rest ih =>
      rw [setEntry]
      split
      · rename_i same
        simp [same]
      · rename_i other
        rw [List.map_cons, List.mem_cons] at present
        rw [List.map_cons, List.map_cons, ih (present.resolve_left (Ne.symm other))]

theorem nodup_setEntry {key : κ} {value : ν} {entries : List (κ × ν)}
    (nodup : (entries.map Prod.fst).Nodup) : ((setEntry key value entries).map Prod.fst).Nodup := by
  by_cases present : key ∈ entries.map Prod.fst
  · rwa [setEntry_keys present]
  · have absent : ∀ entry ∈ entries, entry.1 ≠ key := by
      rintro entry member rfl
      exact present (List.mem_map_of_mem member)
    rw [setEntry_of_not_mem absent, List.map_append]
    apply nodup.append (List.nodup_singleton _)
    simpa using present

def set (map : OrderedMap κ ν) (key : κ) (value : ν) : OrderedMap κ ν :=
  ⟨setEntry key value map.entries, nodup_setEntry map.nodup⟩

/-- A new key goes to the end. -/
theorem entries_set_new {map : OrderedMap κ ν} {key : κ} (absent : map.get? key = none)
    (value : ν) : (map.set key value).entries = map.entries ++ [(key, value)] :=
  setEntry_of_not_mem (get?_eq_none.mp absent)

/-- An old key keeps its place. -/
theorem size_set_old {map : OrderedMap κ ν} {key : κ} {old : ν} (present : map.get? key = some old)
    (value : ν) : (map.set key value).size = map.size := by
  have member : key ∈ map.entries.map Prod.fst :=
    List.mem_map_of_mem (f := Prod.fst) (get?_eq_some.mp present)
  have keys := congrArg List.length (@setEntry_keys _ _ _ key value _ member)
  simpa [size, set] using keys

theorem mem_set {map : OrderedMap κ ν} {key : κ} {value : ν} {entry : κ × ν} :
    entry ∈ (map.set key value).entries ↔
      entry = (key, value) ∨ entry ∈ map.entries ∧ entry.1 ≠ key := by
  have nodup := map.nodup
  change entry ∈ setEntry key value map.entries ↔ _
  generalize map.entries = entries at nodup ⊢
  induction entries with
  | nil => simp [setEntry]
  | cons first rest ih =>
      simp only [List.map_cons, List.nodup_cons] at nodup
      rw [setEntry]
      split
      · rename_i same
        subst same
        constructor
        · intro member
          rcases List.mem_cons.mp member with rfl | inRest
          · exact .inl rfl
          · right
            exact ⟨List.mem_cons_of_mem _ inRest,
              fun same => nodup.1 (same ▸ List.mem_map_of_mem inRest)⟩
        · rintro (rfl | ⟨member, other⟩)
          · exact List.mem_cons_self
          · rcases List.mem_cons.mp member with rfl | inRest
            · contradiction
            · exact List.mem_cons_of_mem _ inRest
      · rename_i other
        rw [List.mem_cons, ih nodup.2, List.mem_cons]
        constructor
        · rintro (rfl | rfl | ⟨member, otherKey⟩)
          · exact .inr ⟨.inl rfl, other⟩
          · exact .inl rfl
          · exact .inr ⟨.inr member, otherKey⟩
        · rintro (rfl | ⟨rfl | member, otherKey⟩)
          · exact .inr (.inl rfl)
          · exact .inl rfl
          · exact .inr (.inr ⟨member, otherKey⟩)

theorem get?_set_self (map : OrderedMap κ ν) (key : κ) (value : ν) :
    (map.set key value).get? key = some value :=
  get?_eq_some.mpr (mem_set.mpr (.inl rfl))

theorem get?_set_other {map : OrderedMap κ ν} {key other : κ} (distinct : other ≠ key)
    (value : ν) : (map.set key value).get? other = map.get? other := by
  apply Option.ext
  intro found
  rw [get?_eq_some, get?_eq_some, mem_set]
  constructor
  · rintro (same | ⟨member, -⟩)
    · exact absurd (congrArg Prod.fst same) distinct
    · exact member
  · exact fun member => .inr ⟨member, distinct⟩

theorem get?_filter {map : OrderedMap κ ν} {condition : κ × ν → Bool} {key : κ} :
    (map.filter condition).get? key =
      (map.get? key).filter fun value => condition (key, value) := by
  apply Option.ext
  intro value
  rw [get?_eq_some, mem_filter, Option.filter_eq_some_iff, get?_eq_some]

end OrderedMap

/-! ## The first of a stable sort -/

/-- In a stable sort the last of several elements does not come first, unless it is the
least one. -/
theorem insertionSort_head {α : Type*} {le : α → α → Prop} [DecidableRel le] {elements : List α}
    {last first : α} {rest : List α} (several : elements ≠ [])
    (least : ∀ element ∈ elements, le element last)
    (sorted : (elements ++ [last]).insertionSort le = first :: rest) : first ∈ elements := by
  induction elements generalizing first rest with
  | nil => contradiction
  | cons element elements ih =>
      rw [List.cons_append, List.insertionSort_cons] at sorted
      cases tail : (elements ++ [last]).insertionSort le with
      | nil =>
          have length := congrArg List.length tail
          simp [List.length_insertionSort] at length
      | cons second others =>
          rw [tail, List.orderedInsert] at sorted
          split at sorted
          · rw [List.cons.injEq] at sorted
            exact sorted.1 ▸ List.mem_cons_self
          · rename_i greater
            rw [List.cons.injEq] at sorted
            cases elements with
            | nil =>
                simp only [List.nil_append, List.insertionSort_cons, List.insertionSort_nil,
                  List.orderedInsert_nil, List.cons.injEq] at tail
                exact absurd (tail.1 ▸ least element List.mem_cons_self) greater
            | cons next elements =>
                have member := ih (List.cons_ne_nil _ _)
                  (fun other otherMem => least other (List.mem_cons_of_mem _ otherMem)) tail
                exact List.mem_cons_of_mem _ (sorted.1 ▸ member)

end Mosp.Data
