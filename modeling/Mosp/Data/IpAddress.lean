import Mosp.Data.Split
import Mathlib.Data.List.DropRight
import Mathlib.Data.List.TakeWhile
import Mathlib.Data.Nat.Digits.Defs

/-!
# Texts of IP addresses

The canonical texts of addresses: dotted decimal for IPv4; for IPv6 groups in lower-case
hexadecimal without leading zeros, the longest run of at least two zero groups written as a
doubled colon, and possibly the last 32 bits dotted.
-/

namespace Mosp.Data.Ip

/-- The addresses that agree with a network in their first bits. -/
def InBlock {width : Nat} (network : BitVec width) (length : Nat) (address : BitVec width) :
    Prop :=
  address >>> (width - length) = network >>> (width - length)

instance {width : Nat} (network : BitVec width) (length : Nat) (address : BitVec width) :
    Decidable (InBlock network length address) :=
  inferInstanceAs (Decidable (_ = _))

theorem inBlock_iff {width : Nat} {network : BitVec width} {length : Nat}
    {address : BitVec width} : InBlock network length address ↔
      address.toNat / 2 ^ (width - length) = network.toNat / 2 ^ (width - length) := by
  rw [InBlock, ← BitVec.toNat_inj, BitVec.toNat_ushiftRight, BitVec.toNat_ushiftRight,
    Nat.shiftRight_eq_div_pow, Nat.shiftRight_eq_div_pow]

theorem InBlock.toNat_eq {width : Nat} {network : BitVec width} {length : Nat}
    {address : BitVec width} (inside : InBlock network length address) :
    address.toNat / 2 ^ (width - length) = network.toNat / 2 ^ (width - length) :=
  inBlock_iff.mp inside

/-! ## IPv4 -/

def octet (address : BitVec 32) (index : Nat) : Nat :=
  address.toNat / 256 ^ (3 - index) % 256

def octets (address : BitVec 32) : List Nat :=
  [octet address 0, octet address 1, octet address 2, octet address 3]

def dotted (address : BitVec 32) : List Char :=
  ['.'].intercalate ((octets address).map (Nat.toDigits 10))

theorem octet_lt (address : BitVec 32) (index : Nat) : octet address index < 256 :=
  Nat.mod_lt _ (by decide)

theorem octets_lt (address : BitVec 32) : ∀ octet ∈ octets address, octet < 256 := by
  simp [octets, octet_lt]

/-! ## IPv6 -/

def hextet (address : BitVec 128) (index : Nat) : Nat :=
  address.toNat / 65536 ^ (7 - index) % 65536

def hextets (address : BitVec 128) : List Nat :=
  [hextet address 0, hextet address 1, hextet address 2, hextet address 3,
    hextet address 4, hextet address 5, hextet address 6, hextet address 7]

theorem hextet_lt (address : BitVec 128) (index : Nat) : hextet address index < 65536 :=
  Nat.mod_lt _ (by decide)

theorem hextets_lt (address : BitVec 128) : ∀ hextet ∈ hextets address, hextet < 65536 := by
  simp [hextets, hextet_lt]

/-- How many zero groups follow an index. -/
def zerosAt (groups : List Nat) (start : Nat) : Nat :=
  ((groups.drop start).takeWhile (· == 0)).length

/-- The groups before and after the longest run of at least two zeros, the first of several. -/
def compression (groups : List Nat) : Option (List Nat × List Nat) :=
  let runs := (List.range groups.length).map (zerosAt groups)
  let longest := runs.foldl max 0
  if longest < 2 then
    none
  else
    let start := runs.idxOf longest
    some (groups.take start, groups.drop (start + longest))

def groupText (group : Nat) : List Char :=
  Nat.toDigits 16 group

/-- Groups between colons, compressed, and what is written after them. -/
def spell (groups : List Nat) (tail : List (List Char)) : List Char :=
  match compression groups with
  | none => [':'].intercalate (groups.map groupText ++ tail)
  | some (left, right) =>
      [':'].intercalate (left.map groupText) ++
        ':' :: ':' :: [':'].intercalate (right.map groupText ++ tail)

/-- The last 32 bits. -/
def embedded (address : BitVec 128) : BitVec 32 :=
  address.setWidth 32

def ipv4Text (address : BitVec 32) : String :=
  String.ofList (dotted address)

/-- The text of an IPv6 address, with its last 32 bits dotted or not. -/
def ipv6Text (dottedTail : Bool) (address : BitVec 128) : String :=
  String.ofList <|
    if dottedTail then spell ((hextets address).take 6) [dotted (embedded address)]
    else spell (hextets address) []

example : ipv6Text false 0x20010db8000000000001000000000001#128 = "2001:db8::1:0:0:1" := by
  decide +kernel

example : ipv6Text true 0x00000000000000000000ffffc0a80101#128 = "::ffff:192.168.1.1" := by
  decide +kernel

/-! ## Compression -/

theorem le_foldl_max (numbers : List Nat) (start : Nat) : start ≤ numbers.foldl max start := by
  induction numbers generalizing start with
  | nil => exact Nat.le_refl _
  | cons number numbers ih => exact Nat.le_trans (Nat.le_max_left _ _) (ih _)

theorem foldl_max_mem {numbers : List Nat} {start : Nat} (above : start < numbers.foldl max start) :
    numbers.foldl max start ∈ numbers := by
  induction numbers generalizing start with
  | nil => exact absurd above (Nat.lt_irrefl _)
  | cons number numbers ih =>
      rw [List.foldl_cons] at above ⊢
      by_cases more : max start number < numbers.foldl max (max start number)
      · exact List.mem_cons_of_mem _ (ih more)
      · have least := le_foldl_max numbers (max start number)
        have same : numbers.foldl max (max start number) = number := by omega
        rw [same]
        exact List.mem_cons_self

/-- Only zeros are left out, at least two of them. -/
theorem compression_sound {groups left right : List Nat}
    (found : compression groups = some (left, right)) :
    ∃ count, 2 ≤ count ∧ groups = left ++ List.replicate count 0 ++ right := by
  unfold compression at found
  dsimp only at found
  split at found
  · cases found
  · rename_i long
    generalize runsEq : (List.range groups.length).map (zerosAt groups) = runs at found long
    generalize longestEq : runs.foldl max 0 = longest at found long
    have member : longest ∈ runs := by
      rw [← longestEq]
      exact foldl_max_mem (by omega)
    have bound : runs.idxOf longest < runs.length := List.idxOf_lt_length_iff.mpr member
    have at_start : zerosAt groups (runs.idxOf longest) = longest := by
      have value := List.getElem_idxOf bound
      simp only [← runsEq, List.getElem_map, List.getElem_range] at value ⊢
      exact value
    generalize runs.idxOf longest = start at found at_start
    obtain ⟨rfl, rfl⟩ : groups.take start = left ∧ groups.drop (start + longest) = right := by
      simpa using found
    use longest
    constructor
    · omega
    · have zeros : (groups.drop start).takeWhile (· == 0) = List.replicate longest 0 := by
        rw [List.eq_replicate_iff]
        constructor
        · exact at_start
        · intro group inside
          simpa using List.mem_takeWhile_imp inside
      have rest : (groups.drop start).dropWhile (· == 0) = groups.drop (start + longest) := by
        have whole := List.takeWhile_append_dropWhile (p := (· == 0)) (l := groups.drop start)
        rw [← List.drop_drop]
        nth_rewrite 2 [← whole]
        rw [zeros, List.drop_left' List.length_replicate]
      rw [← zeros, ← rest, List.append_assoc, List.takeWhile_append_dropWhile,
        List.take_append_drop]

/-! ## Digits -/

/-- The digits that groups are written with. -/
def lowerDigits : List Char :=
  "0123456789abcdef".toList

theorem digitChar_mem : ∀ digit < 16, Nat.digitChar digit ∈ lowerDigits := by
  decide

theorem mem_toDigits {base number : Nat} (least : 1 < base) (most : base ≤ 16) {char : Char}
    (member : char ∈ Nat.toDigits base number) : char ∈ lowerDigits := by
  induction number using Nat.strongRecOn with
  | ind number ih =>
      by_cases small : number < base
      · rw [Nat.toDigits_of_lt_base small, List.mem_singleton] at member
        subst member
        exact digitChar_mem number (by omega)
      · rw [Nat.toDigits_of_base_le least (by omega), List.mem_append,
          List.mem_singleton] at member
        rcases member with member | rfl
        · exact ih (number / base) (Nat.div_lt_self (by omega) least) member
        · have digit : number % base < base := Nat.mod_lt _ (by omega)
          exact digitChar_mem _ (by omega)

theorem mem_groupText {group : Nat} {char : Char} (member : char ∈ groupText group) :
    char ∈ lowerDigits :=
  mem_toDigits (by decide) (by decide) member

theorem length_groupText {group : Nat} (small : group < 65536) : (groupText group).length ≤ 4 :=
  (Nat.length_toDigits_le_iff (by decide) (by decide)).mpr small

theorem groupText_ne_nil (group : Nat) : groupText group ≠ [] :=
  Nat.toDigits_ne_nil

theorem groupText_words (groups : List Nat) : Words ':' (groups.map groupText) := by
  intro word member
  obtain ⟨group, -, rfl⟩ := List.mem_map.mp member
  constructor
  · exact groupText_ne_nil group
  · intro colon
    exact absurd (mem_groupText colon) (by decide)

theorem octetText_words (octets : List Nat) : Words '.' (octets.map (Nat.toDigits 10)) := by
  intro word member
  obtain ⟨octet, -, rfl⟩ := List.mem_map.mp member
  constructor
  · exact Nat.toDigits_ne_nil
  · intro dot
    exact absurd (mem_toDigits (by decide) (by decide) dot) (by decide)

/-- A dotted address has digits and dots only. -/
theorem mem_dotted {address : BitVec 32} {char : Char} (member : char ∈ dotted address) :
    char = '.' ∨ char ∈ lowerDigits := by
  rcases mem_intercalate member with same | ⟨word, inside, found⟩
  · exact .inl same
  · obtain ⟨octet, -, rfl⟩ := List.mem_map.mp inside
    exact .inr (mem_toDigits (by decide) (by decide) found)

/-! ## Spelling -/

/-- What is written after the groups follows a colon. -/
theorem spell_tail {groups : List Nat} (some_group : groups ≠ []) :
    ∃ before, ∀ tail ≠ [], spell groups tail = before ++ ':' :: [':'].intercalate tail := by
  unfold spell
  cases compression groups with
  | none =>
      use [':'].intercalate (groups.map groupText)
      intro tail written
      exact intercalate_append (by simpa using some_group) written
  | some split =>
      obtain ⟨left, right⟩ := split
      by_cases empty : right = []
      · subst empty
        use [':'].intercalate (left.map groupText) ++ [':']
        simp
      · use [':'].intercalate (left.map groupText) ++
          ':' :: ':' :: [':'].intercalate (right.map groupText)
        intro tail written
        dsimp only
        rw [intercalate_append (by simpa using empty) written]
        simp

theorem mem_groups {groups : List Nat} {tail : List (List Char)} {char : Char}
    (member : char ∈ [':'].intercalate (groups.map groupText ++ tail)) :
    char = ':' ∨ char ∈ lowerDigits ∨ ∃ word ∈ tail, char ∈ word := by
  rcases mem_intercalate member with same | ⟨word, inside, found⟩
  · exact .inl same
  · rcases List.mem_append.mp inside with inside | inside
    · obtain ⟨group, -, rfl⟩ := List.mem_map.mp inside
      exact .inr (.inl (mem_groupText found))
    · exact .inr (.inr ⟨word, inside, found⟩)

/-- The characters of a text. -/
theorem mem_spell {groups : List Nat} {tail : List (List Char)} {char : Char}
    (member : char ∈ spell groups tail) :
    char = ':' ∨ char ∈ lowerDigits ∨ ∃ word ∈ tail, char ∈ word := by
  unfold spell at member
  cases compressed : compression groups with
  | none =>
      rw [compressed] at member
      exact mem_groups member
  | some split =>
      rw [compressed, List.mem_append, List.mem_cons, List.mem_cons] at member
      rcases member with member | same | same | member
      · have front := @mem_groups _ [] _ (by simpa using member)
        rcases front with same | digit | ⟨word, inside, -⟩
        · exact .inl same
        · exact .inr (.inl digit)
        · cases inside
      · exact .inl same
      · exact .inl same
      · exact mem_groups member

theorem colon_mem_spell {groups : List Nat} {tail : List (List Char)}
    (several : 2 ≤ groups.length + tail.length) : ':' ∈ spell groups tail := by
  unfold spell
  cases compression groups with
  | some split => simp
  | none =>
      have length : (groups.map groupText ++ tail).length = groups.length + tail.length := by
        simp
      dsimp only
      generalize groups.map groupText ++ tail = words at length ⊢
      match words with
      | [] => simp only [List.length_nil] at length; omega
      | [word] => simp only [List.length_singleton] at length; omega
      | word :: next :: rest => simp [List.intercalate_cons_cons]

/-- Groups that are not zero are written in front of everything else. -/
theorem spell_front {front back : List Nat} {tail : List (List Char)} (some_group : front ≠ [])
    (nonzero : 0 ∉ front) (more : back ≠ []) :
    [':'].intercalate (front.map groupText) ++ [':'] <+: spell (front ++ back) tail := by
  unfold spell
  cases compressed : compression (front ++ back) with
  | none =>
      dsimp only
      rw [List.map_append, List.append_assoc,
        intercalate_append (by simpa using some_group) (by simp [more])]
      exact ⟨_, List.append_assoc _ _ _⟩
  | some split =>
      obtain ⟨left, right⟩ := split
      obtain ⟨count, several, whole⟩ := compression_sound compressed
      -- The zeros that are left out come after the groups in front.
      have before : front <+: left := by
        rw [List.append_assoc] at whole
        rcases List.append_eq_append_iff.mp whole with ⟨rest, rfl, -⟩ | ⟨rest, rfl, zeros⟩
        · exact List.prefix_append _ _
        · cases rest with
          | nil => simp
          | cons first rest =>
              obtain ⟨count, rfl⟩ : ∃ less, count = less + 1 := ⟨count - 1, by omega⟩
              rw [List.replicate_succ, List.cons_append, List.cons_append,
                List.cons.injEq] at zeros
              exact absurd (by simp [← zeros.1]) nonzero
      obtain ⟨rest, rfl⟩ := before
      dsimp only
      by_cases empty : rest = []
      · subst empty
        rw [List.append_nil]
        exact ⟨_, List.append_assoc _ _ _⟩
      · rw [List.map_append,
          intercalate_append (by simpa using some_group) (by simpa using empty),
          List.append_assoc]
        exact ⟨_, List.append_assoc _ _ _⟩

/-- A group's text begins with the text of its first digits. -/
theorem groupText_begins {group : Nat} (large : 16 ≤ group) :
    groupText (group / 16) <+: groupText group := by
  rw [groupText, groupText, Nat.toDigits_of_base_le (by decide) large]
  exact List.prefix_append _ _

end Mosp.Data.Ip
