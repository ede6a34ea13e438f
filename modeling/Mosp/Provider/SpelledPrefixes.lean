import Mosp.Provider.PrivateAddresses

/-!
# Spelled prefixes

Which addresses the textual prefixes of `isPrivateIpv6` match: a hexadecimal beginning fits
groups of different lengths.
-/

namespace Mosp.Provider

open Mosp.Data Mosp.Data.Ip

/-! ## Digits -/

/-- A group whose digits begin with those of another number. -/
def BeginsWith (first group : Nat) : Prop :=
  group = first ∨ group / 16 = first ∨ group / 256 = first ∨ group / 4096 = first

theorem groupText_injective : Function.Injective groupText :=
  Function.LeftInverse.injective hexValue_groupText

theorem groupText_isPrefix {first group : Nat} (positive : 0 < first) :
    groupText first <+: groupText group ↔ ∃ count, group / 16 ^ count = first := by
  induction group using Nat.strongRecOn with
  | ind group ih =>
      by_cases small : group < 16
      · constructor
        · intro starts
          have one : (groupText group).length = 1 := by
            rw [groupText, Nat.toDigits_of_lt_base small]
            rfl
          have same := starts.eq_of_length_le
            (one ▸ List.length_pos_iff.mpr (groupText_ne_nil first))
          exact ⟨0, by simpa using (groupText_injective same).symm⟩
        · rintro ⟨count, rfl⟩
          cases count with
          | zero => simp
          | succ count =>
              have less : group < 16 ^ (count + 1) :=
                small.trans_le (Nat.le_self_pow (Nat.succ_ne_zero _) 16)
              rw [Nat.div_eq_of_lt less] at positive
              exact absurd positive (Nat.lt_irrefl _)
      · have digits : groupText group =
            groupText (group / 16) ++ [Nat.digitChar (group % 16)] :=
          Nat.toDigits_of_base_le (by decide) (by omega)
        rw [digits, List.prefix_concat_iff, ih (group / 16) (by omega), ← digits]
        constructor
        · rintro (same | ⟨count, shifted⟩)
          · exact ⟨0, by simpa using (groupText_injective same).symm⟩
          · exact ⟨count + 1, by rw [← shifted, pow_succ', Nat.div_div_eq_div_mul]⟩
        · rintro ⟨count, shifted⟩
          cases count with
          | zero => exact .inl (by simpa using congrArg groupText shifted.symm)
          | succ count =>
              exact .inr ⟨count, by rw [Nat.div_div_eq_div_mul, ← pow_succ', shifted]⟩

theorem groupText_isPrefix_iff {first group : Nat} (positive : 0 < first)
    (small : group < 65536) : groupText first <+: groupText group ↔ BeginsWith first group := by
  rw [groupText_isPrefix positive, BeginsWith]
  constructor
  · rintro ⟨count, shifted⟩
    match count with
    | 0 => omega
    | 1 => omega
    | 2 => omega
    | 3 => omega
    | count + 4 =>
        have four : 16 ^ 4 ≤ 16 ^ (count + 4) :=
          Nat.pow_le_pow_right (by decide) (Nat.le_add_left 4 count)
        rw [Nat.div_eq_of_lt (small.trans_le four)] at shifted
        omega
  · rintro (same | same | same | same)
    · exact ⟨0, by omega⟩
    · exact ⟨1, by omega⟩
    · exact ⟨2, by omega⟩
    · exact ⟨3, by omega⟩

/-! ## The first two groups -/

/-- What follows the first group in a text: the second one, or the sign that it is zero. -/
inductive SecondGroup : Nat → List Char → Prop where
  | written {group : Nat} (rest : List Char) : SecondGroup group (groupText group ++ ':' :: rest)
  | zero {second : List Char} (starts : second.head? = some ':' ∨ second.head? = some '0') :
      SecondGroup 0 second

theorem head_groups {groups : List Nat} {tail : List (List Char)} :
    ([':'].intercalate ((0 :: groups).map groupText ++ tail)).head? = some '0' := by
  rw [List.map_cons, List.cons_append]
  cases groups.map groupText ++ tail with
  | nil => rfl
  | cons next rest =>
      rw [List.intercalate_cons_cons]
      rfl

/-- A second group that is zero is written as a digit or left out. -/
theorem spell_secondZero {first : Nat} {back : List Nat} {tail : List (List Char)}
    (nonzero : first ≠ 0) :
    ∃ second, spell (first :: 0 :: back) tail = groupText first ++ ':' :: second ∧
      (second.head? = some ':' ∨ second.head? = some '0') := by
  unfold spell
  cases compressed : compression (first :: 0 :: back) with
  | none =>
      use [':'].intercalate ((0 :: back).map groupText ++ tail)
      constructor
      · simp [List.intercalate_cons_cons]
      · exact .inr head_groups
  | some split =>
      obtain ⟨left, right⟩ := split
      obtain ⟨count, several, whole⟩ := compression_sound compressed
      dsimp only
      match left with
      | [] =>
          obtain ⟨less, rfl⟩ : ∃ less, count = less + 1 := ⟨count - 1, by omega⟩
          simp [List.replicate_succ, nonzero] at whole
      | [only] =>
          obtain rfl : first = only := by simpa using congrArg List.head? whole
          use ':' :: [':'].intercalate (right.map groupText ++ tail)
          simp
      | start :: next :: left =>
          obtain ⟨rfl, rfl⟩ : first = start ∧ 0 = next := by
            rw [List.cons_append, List.cons_append, List.cons_append, List.cons_append,
              List.cons.injEq, List.cons.injEq] at whole
            exact ⟨whole.1, whole.2.1⟩
          use [':'].intercalate ((0 :: left).map groupText) ++
            ':' :: ':' :: [':'].intercalate (right.map groupText ++ tail)
          constructor
          · simp [List.intercalate_cons_cons]
          · have zero := @head_groups left []
            rw [List.append_nil] at zero
            rw [List.head?_append, zero]
            exact .inr rfl

/-- A canonical text begins with its first two groups. -/
theorem ipv6Text_groups (dottedTail : Bool) {address : BitVec 128} (nonzero : hextet address 0 ≠ 0) :
    ∃ second, (ipv6Text dottedTail address).toList =
        groupText (hextet address 0) ++ ':' :: second ∧ SecondGroup (hextet address 1) second := by
  by_cases zero : hextet address 1 = 0
  · have written (groups : List Nat) (tail : List (List Char)) :
        ∃ second, spell (hextet address 0 :: 0 :: groups) tail =
          groupText (hextet address 0) ++ ':' :: second ∧ SecondGroup 0 second := by
      obtain ⟨second, spelled, starts⟩ := @spell_secondZero _ groups tail nonzero
      exact ⟨second, spelled, .zero starts⟩
    rw [ipv6Text, String.toList_ofList]
    cases dottedTail with
    | false =>
        rw [if_neg Bool.false_ne_true, hextets, zero]
        exact written _ _
    | true =>
        rw [if_pos rfl, hextets, zero]
        exact written _ _
  · obtain ⟨rest, written⟩ := @ipv6Text_front dottedTail address 2 (by decide) (by decide)
      (by simp [hextets, Ne.symm nonzero, Ne.symm zero])
    use groupText (hextet address 1) ++ ':' :: rest
    constructor
    · rw [← written]
      simp [hextets, List.intercalate_cons_cons]
    · exact .written rest

/-- Digits that do not begin with a zero fit a second group only if it is written. -/
theorem SecondGroup.isPrefix_iff {first group : Nat} {second : List Char}
    (shown : SecondGroup group second) (small : group < 65536) (positive : 0 < first)
    (digit : (groupText first).head? ≠ some '0') :
    groupText first <+: second ↔ BeginsWith first group := by
  have plain : ':' ∉ groupText first := fun colon => absurd (mem_groupText colon) (by decide)
  cases shown with
  | written rest => rw [isPrefix_word_iff plain, groupText_isPrefix_iff positive small]
  | zero starts =>
      have never : ¬BeginsWith first 0 := by
        unfold BeginsWith
        omega
      constructor
      · intro beginning
        obtain ⟨rest, rfl⟩ := beginning
        rw [List.head?_append_of_ne_nil _ (groupText_ne_nil _)] at starts
        rcases starts with colon | zero
        · exact absurd (List.mem_of_mem_head? colon) plain
        · exact absurd zero digit
      · exact fun impossible => absurd impossible never

/-! ## The prefixes -/

/-- The first two groups of the addresses that the textual prefixes match. -/
def Spelled (first second : Nat) : Prop :=
  BeginsWith 0xfc first ∨ BeginsWith 0xfd first ∨ BeginsWith 0xfe8 first ∨
    BeginsWith 0xfe9 first ∨ BeginsWith 0xfea first ∨ BeginsWith 0xfeb first ∨
    first = 0x2001 ∧ BeginsWith 0x10 second ∨ first = 0x2001 ∧ BeginsWith 0x2 second ∨
    first = 0x2001 ∧ BeginsWith 0xdb8 second ∨ BeginsWith 0xff first

/-- Where no IPv4 address can be embedded, only the beginning of the text counts. -/
theorem isPrivateIpv6_iff_isPrefix {dottedTail : Bool} {address : BitVec 128}
    (nonzero : hextet address 0 ≠ 0) :
    isPrivateIpv6 (ipv6Text dottedTail address).toList = true ↔
      ∃ start ∈ privatePrefixes, start.toList <+: (ipv6Text dottedTail address).toList := by
  constructor
  · intro isPrivate
    have parsed := parseIpv6Hextets_ipv6Text dottedTail address
    have filtered : (some (hextets address)).filter (fun hextets =>
        (hextets.take 5).all (· == 0) &&
          (hextets[5]? == some 0xffff || hextets[5]? == some 0)) = none := by
      simp [Option.filter_some, hextets, nonzero]
    simp only [isPrivateIpv6, toLower_ipv6Text, parsed, filtered] at isPrivate
    obtain ⟨second, written, -⟩ := ipv6Text_groups dottedTail nonzero
    have first : (ipv6Text dottedTail address).toList.head? ≠ some ':' := by
      rw [written, List.head?_append_of_ne_nil _ (groupText_ne_nil _)]
      intro colon
      exact absurd (mem_groupText (List.mem_of_mem_head? colon)) (by decide)
    have other {text : List Char} (colon : text.head? = some ':') :
        ((ipv6Text dottedTail address).toList == text) = false := by
      rw [beq_eq_false_iff_ne]
      rintro rfl
      exact first colon
    rw [other rfl, other rfl, Bool.false_or, Bool.false_or, List.any_eq_true] at isPrivate
    obtain ⟨start, listed, starts⟩ := isPrivate
    exact ⟨start, listed, List.isPrefixOf_iff_prefix.mp starts⟩
  · rintro ⟨start, listed, starts⟩
    exact isPrivateIpv6_of_prefix nonzero listed starts

theorem isPrivateIpv6_iff {dottedTail : Bool} {address : BitVec 128}
    (large : 0x200 ≤ hextet address 0) :
    isPrivateIpv6 (ipv6Text dottedTail address).toList = true ↔
      Spelled (hextet address 0) (hextet address 1) := by
  obtain ⟨second, written, shown⟩ := @ipv6Text_groups dottedTail address (by omega)
  have plain (group : Nat) : ':' ∉ groupText group :=
    fun colon => absurd (mem_groupText colon) (by decide)
  have inFirst (start : String) (first : Nat) (spelled : start.toList = groupText first)
      (positive : 0 < first) : start.toList <+: (ipv6Text dottedTail address).toList ↔
        BeginsWith first (hextet address 0) := by
    rw [spelled, written, isPrefix_word_iff (plain _),
      groupText_isPrefix_iff positive (hextet_lt _ _)]
  have inSecond (start : String) (first : Nat)
      (spelled : start.toList = groupText 0x2001 ++ ':' :: groupText first) (positive : 0 < first)
      (digit : (groupText first).head? ≠ some '0') :
      start.toList <+: (ipv6Text dottedTail address).toList ↔
        hextet address 0 = 0x2001 ∧ BeginsWith first (hextet address 1) := by
    rw [spelled, written, isPrefix_words_iff (plain _) (plain _), groupText_injective.eq_iff,
      shown.isPrefix_iff (hextet_lt _ _) positive digit, eq_comm]
  have discard : ¬"100:".toList <+: (ipv6Text dottedTail address).toList := by
    have spelled : "100:".toList = groupText 0x100 ++ ':' :: [] := by decide
    rw [spelled, written, isPrefix_words_iff (plain _) (plain _), groupText_injective.eq_iff]
    omega
  rw [isPrivateIpv6_iff_isPrefix (by omega)]
  simp only [privatePrefixes, List.mem_cons, List.not_mem_nil, or_false, exists_eq_or_imp,
    exists_eq_left, discard, false_or, inFirst "fc" 0xfc (by decide) (by decide),
    inFirst "fd" 0xfd (by decide) (by decide), inFirst "fe8" 0xfe8 (by decide) (by decide),
    inFirst "fe9" 0xfe9 (by decide) (by decide), inFirst "fea" 0xfea (by decide) (by decide),
    inFirst "feb" 0xfeb (by decide) (by decide), inFirst "ff" 0xff (by decide) (by decide),
    inSecond "2001:10" 0x10 (by decide) (by decide) (by decide),
    inSecond "2001:2" 0x2 (by decide) (by decide) (by decide),
    inSecond "2001:db8" 0xdb8 (by decide) (by decide) (by decide)]
  rfl

/-! ## The networks -/

/-- The special networks that a check of addresses may block. -/
def specialIpv6 : List (BitVec 128 × Nat) :=
  [(0x00000000000000000000000000000000, 8), (0x01000000000000000000000000000000, 8),
   (0xfc000000000000000000000000000000, 7), (0xfe800000000000000000000000000000, 10),
   (0xff000000000000000000000000000000, 8), (0x20010002000000000000000000000000, 48),
   (0x20010010000000000000000000000000, 28), (0x20010020000000000000000000000000, 28),
   (0x20010db8000000000000000000000000, 32)]

/-- The networks that the textual prefixes match besides. -/
def misspelledIpv6 : List (BitVec 128 × Nat) :=
  [(0x0fc00000000000000000000000000000, 11), (0x0fe80000000000000000000000000000, 14),
   (0x0ff00000000000000000000000000000, 12), (0x20010002000000000000000000000000, 32),
   (0x20010100000000000000000000000000, 28), (0x20010200000000000000000000000000, 24),
   (0x20011000000000000000000000000000, 24), (0x20012000000000000000000000000000, 20),
   (0x2001db80000000000000000000000000, 28)]

/-- The address is in one of the networks. -/
def InSome (blocks : List (BitVec 128 × Nat)) (address : BitVec 128) : Prop :=
  ∃ block ∈ blocks, InBlock block.1 block.2 address

instance (blocks : List (BitVec 128 × Nat)) (address : BitVec 128) :
    Decidable (InSome blocks address) :=
  inferInstanceAs (Decidable (∃ block ∈ blocks, _))

/-- A network of at most 16 bits fixes a part of the first group. -/
theorem inBlock_first {network address : BitVec 128} {length : Nat} (short : length ≤ 16) :
    InBlock network length address ↔
      hextet address 0 / 2 ^ (16 - length) = hextet network 0 / 2 ^ (16 - length) := by
  have part (bits : BitVec 128) :
      bits.toNat / 2 ^ (128 - length) = hextet bits 0 / 2 ^ (16 - length) := by
    have bound := bits.isLt
    have first : hextet bits 0 = bits.toNat / 2 ^ 112 := by
      simp only [hextet]
      omega
    rw [first, Nat.div_div_eq_div_mul, ← pow_add, show 112 + (16 - length) = 128 - length by omega]
  rw [inBlock_iff, part, part]

/-- A network of 16 to 32 bits fixes the first group and a part of the second. -/
theorem inBlock_second {network address : BitVec 128} {length : Nat} (least : 16 ≤ length)
    (most : length ≤ 32) :
    InBlock network length address ↔ hextet address 0 = hextet network 0 ∧
      hextet address 1 / 2 ^ (32 - length) = hextet network 1 / 2 ^ (32 - length) := by
  have whole : 2 ^ (32 - length) * 2 ^ (length - 16) = 65536 := by
    rw [← pow_add, show 32 - length + (length - 16) = 16 by omega]
    rfl
  have part (bits : BitVec 128) : bits.toNat / 2 ^ (128 - length) =
      2 ^ (length - 16) * hextet bits 0 + hextet bits 1 / 2 ^ (32 - length) := by
    have bound := bits.isLt
    have front : 65536 * hextet bits 0 + hextet bits 1 = bits.toNat / 2 ^ 96 := by
      simp only [hextet]
      omega
    rw [show 128 - length = 96 + (32 - length) by omega, pow_add, ← Nat.div_div_eq_div_mul,
      ← front, ← whole, Nat.mul_assoc, Nat.mul_add_div (Nat.two_pow_pos _)]
  have rest (bits : BitVec 128) : hextet bits 1 / 2 ^ (32 - length) < 2 ^ (length - 16) :=
    Nat.div_lt_of_lt_mul (whole ▸ hextet_lt bits 1)
  have positive := Nat.two_pow_pos (length - 16)
  rw [inBlock_iff, part, part]
  constructor
  · intro same
    have quotient := congrArg (· / 2 ^ (length - 16)) same
    simp only [Nat.mul_add_div positive, Nat.div_eq_of_lt (rest _), Nat.add_zero] at quotient
    rw [quotient] at same
    exact ⟨quotient, Nat.add_left_cancel same⟩
  · rintro ⟨first, second⟩
    rw [first, second]

theorem inSome_specialIpv6 {address : BitVec 128}
    (inside : hextet address 0 / 256 = 0 ∨ hextet address 0 / 256 = 1 ∨
      hextet address 0 / 512 = 0x7e ∨ hextet address 0 / 64 = 0x3fa ∨
      hextet address 0 / 256 = 0xff ∨ hextet address 0 = 0x2001 ∧ (hextet address 1 / 16 = 1 ∨
        hextet address 1 / 16 = 2 ∨ hextet address 1 / 1 = 0xdb8)) :
    InSome specialIpv6 address := by
  simp only [InSome, specialIpv6, List.mem_cons, List.not_mem_nil, or_false, exists_eq_or_imp,
    exists_eq_left]
  rcases inside with zero | one | unique | link | multicast | ⟨first, orchid | orchid | documentation⟩
  · exact .inl ((inBlock_first (by decide)).mpr zero)
  · exact .inr (.inl ((inBlock_first (by decide)).mpr one))
  · exact .inr (.inr (.inl ((inBlock_first (by decide)).mpr unique)))
  · exact .inr (.inr (.inr (.inl ((inBlock_first (by decide)).mpr link))))
  · exact .inr (.inr (.inr (.inr (.inl ((inBlock_first (by decide)).mpr multicast)))))
  · exact .inr (.inr (.inr (.inr (.inr (.inr (.inl
      ((inBlock_second (by decide) (by decide)).mpr ⟨first, orchid⟩)))))))
  · exact .inr (.inr (.inr (.inr (.inr (.inr (.inr (.inl
      ((inBlock_second (by decide) (by decide)).mpr ⟨first, orchid⟩))))))))
  · exact .inr (.inr (.inr (.inr (.inr (.inr (.inr (.inr
      ((inBlock_second (by decide) (by decide)).mpr ⟨first, documentation⟩))))))))

theorem inSome_misspelledIpv6 {address : BitVec 128} :
    InSome misspelledIpv6 address ↔
      hextet address 0 / 32 = 0x7e ∨ hextet address 0 / 4 = 0x3fa ∨ hextet address 0 / 16 = 0xff ∨
      hextet address 0 = 0x2001 ∧ hextet address 1 / 1 = 0x2 ∨
      hextet address 0 = 0x2001 ∧ hextet address 1 / 16 = 0x10 ∨
      hextet address 0 = 0x2001 ∧ hextet address 1 / 256 = 0x2 ∨
      hextet address 0 = 0x2001 ∧ hextet address 1 / 256 = 0x10 ∨
      hextet address 0 = 0x2001 ∧ hextet address 1 / 4096 = 0x2 ∨
      hextet address 0 = 0x2001 ∧ hextet address 1 / 16 = 0xdb8 := by
  simp only [InSome, misspelledIpv6, List.mem_cons, List.not_mem_nil, or_false, exists_eq_or_imp,
    exists_eq_left]
  apply (inBlock_first (by decide)).or
  apply (inBlock_first (by decide)).or
  apply (inBlock_first (by decide)).or
  apply (inBlock_second (by decide) (by decide)).or
  apply (inBlock_second (by decide) (by decide)).or
  apply (inBlock_second (by decide) (by decide)).or
  apply (inBlock_second (by decide) (by decide)).or
  apply (inBlock_second (by decide) (by decide)).or
  exact inBlock_second (by decide) (by decide)

/-- Which first groups the prefixes of one group match, besides those of four digits. -/
theorem spelled_first {group : Nat} (large : 0x200 ≤ group) (small : group < 65536)
    (unique : group / 512 ≠ 0x7e) (link : group / 64 ≠ 0x3fa) (multicast : group / 256 ≠ 0xff) :
    ((BeginsWith 0xfc group ∨ BeginsWith 0xfd group) ↔ group / 32 = 0x7e) ∧
      ((BeginsWith 0xfe8 group ∨ BeginsWith 0xfe9 group ∨ BeginsWith 0xfea group ∨
        BeginsWith 0xfeb group) ↔ group / 4 = 0x3fa) ∧
      (BeginsWith 0xff group ↔ group / 16 = 0xff) := by
  unfold BeginsWith
  constructor
  · omega
  · constructor <;> omega

theorem spelled_second {group : Nat} (small : group < 65536) (orchid : group / 16 ≠ 1)
    (orchidv2 : group / 16 ≠ 2) (documentation : group / 1 ≠ 0xdb8) :
    (BeginsWith 0x10 group ↔ group / 16 = 0x10 ∨ group / 256 = 0x10) ∧
      (BeginsWith 0x2 group ↔ group / 1 = 0x2 ∨ group / 256 = 0x2 ∨ group / 4096 = 0x2) ∧
      (BeginsWith 0xdb8 group ↔ group / 16 = 0xdb8) := by
  unfold BeginsWith
  constructor
  · omega
  · constructor <;> omega

/-- Outside the special networks, the prefixes match what they were not written for. -/
theorem isPrivateAddress_iff {dottedTail : Bool} {address : BitVec 128}
    (outside : ¬InSome specialIpv6 address) :
    isPrivateAddress (ipv6Text dottedTail address) = true ↔ InSome misspelledIpv6 address := by
  have six := isIP_ipv6Text dottedTail address
  have elsewhere := mt inSome_specialIpv6 outside
  simp only [not_or, not_and] at elsewhere
  obtain ⟨zero, one, unique, link, multicast, documentation⟩ := elsewhere
  have large : 0x200 ≤ hextet address 0 := by omega
  rw [isPrivateAddress, if_neg (by rw [six]; decide), if_pos six, isPrivateIpv6_iff large,
    inSome_misspelledIpv6, Spelled]
  obtain ⟨unique, link, multicast⟩ :=
    spelled_first large (hextet_lt address 0) unique link multicast
  rw [← unique, ← link, ← multicast]
  by_cases first : hextet address 0 = 0x2001
  · obtain ⟨orchid, orchidv2, documentation⟩ := documentation first
    obtain ⟨orchid, benchmark, documentation⟩ :=
      spelled_second (hextet_lt address 1) orchid orchidv2 documentation
    rw [orchid, benchmark, documentation]
    simp only [and_or_left, or_assoc]
    exact iff_of_eq (by ac_rfl)
  · simp only [first, false_and, or_false, false_or, or_assoc]

end Mosp.Provider
