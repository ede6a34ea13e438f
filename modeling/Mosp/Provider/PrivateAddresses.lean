import Mosp.Data.IpAddress
import Mosp.Provider.Endpoint

/-!
# Private addresses

What the classification of addresses says about the numbers that their canonical texts
stand for.
-/

namespace Mosp.Provider

open Mosp.Data Mosp.Data.Ip

/-! ## IPv4 -/

@[simp]
theorem toInt32_toInt (bits : BitVec 32) : toInt32 bits.toInt = bits :=
  BitVec.ofInt_toInt

@[simp]
theorem toInt32_natCast (number : Nat) : toInt32 number = BitVec.ofNat 32 number :=
  BitVec.ofInt_natCast 32 number

theorem toInt32_shiftLeft_add (result : Int) (octet : Nat) :
    toInt32 (shiftLeft result 8 + octet) = toInt32 result <<< 8 + BitVec.ofNat 32 octet := by
  rw [toInt32, BitVec.ofInt_add, BitVec.ofInt_natCast]
  exact congrArg (· + _) (toInt32_toInt _)

theorem decimalValue_octetText (octet : Nat) : decimalValue (Nat.toDigits 10 octet) = octet :=
  Nat.ofDigitChars_ten_toDigits

theorem splitOn_dotted (address : BitVec 32) :
    (dotted address).splitOn '.' = (octets address).map (Nat.toDigits 10) := by
  apply List.splitOn_intercalate
  · intro word member
    exact (octetText_words _ word member).2
  · simp [octets]

/-- The four octets of a dotted text. -/
theorem dotted_octets (address : BitVec 32) :
    ((dotted address).splitOn '.').map decimalValue = octets address := by
  rw [splitOn_dotted, List.map_map]
  simp [Function.comp_def, decimalValue_octetText]

theorem ofOctets (address : BitVec 32) :
    ((BitVec.ofNat 32 (octet address 0) <<< 8 + BitVec.ofNat 32 (octet address 1)) <<< 8 +
      BitVec.ofNat 32 (octet address 2)) <<< 8 + BitVec.ofNat 32 (octet address 3) = address := by
  apply BitVec.eq_of_toNat_eq
  have bound := address.isLt
  simp only [octet, BitVec.toNat_add, BitVec.toNat_shiftLeft, BitVec.toNat_ofNat,
    Nat.shiftLeft_eq]
  omega

theorem ipv4ToNumber_dotted (address : BitVec 32) :
    ipv4ToNumber (dotted address) = address.toNat := by
  rw [ipv4ToNumber, dotted_octets, unsigned]
  simp only [octets, List.foldl_cons, List.foldl_nil, toInt32_shiftLeft_add]
  rw [show toInt32 0 <<< 8 = 0#32 by decide, BitVec.zero_add, ofOctets]

/-- Masking keeps the bits that a block fixes. -/
theorem and_mask {network address : BitVec 32} {length : Nat}
    (inside : InBlock network length address) :
    address &&& (BitVec.allOnes 32 <<< (32 - length)) =
      network &&& (BitVec.allOnes 32 <<< (32 - length)) := by
  have masked (bits : BitVec 32) :
      bits &&& (BitVec.allOnes 32 <<< (32 - length)) =
        (bits >>> (32 - length)) <<< (32 - length) := by
    ext index small
    simp only [BitVec.getElem_and, BitVec.getElem_shiftLeft, BitVec.getElem_allOnes]
    grind
  rw [masked, masked, inside]

/-- The IPv4 networks that no endpoint may lie in. -/
def reservedIpv4 : List (BitVec 32 × Nat) :=
  [(0x00000000, 8), (0x0a000000, 8), (0x64400000, 10), (0x7f000000, 8), (0xa9fe0000, 16),
   (0xac100000, 12), (0xc0a80000, 16), (0xc6120000, 15), (0xe0000000, 4), (0xf0000000, 4)]

def ReservedIpv4 (address : BitVec 32) : Prop :=
  ∃ block ∈ reservedIpv4, InBlock block.1 block.2 address

instance (address : BitVec 32) : Decidable (ReservedIpv4 address) :=
  inferInstanceAs (Decidable (∃ block ∈ reservedIpv4, _))

/-- Each network is one of the code's ranges, as an unsigned number with its mask. -/
theorem reserved_range {block : BitVec 32 × Nat} (listed : block ∈ reservedIpv4) :
    ∃ range ∈ privateRanges, toInt32 range.2 = BitVec.allOnes 32 <<< (32 - block.2) ∧
      range.1 = (block.1 &&& (BitVec.allOnes 32 <<< (32 - block.2))).toNat := by
  revert block
  decide

theorem isPrivateIpv4_dotted {address : BitVec 32} (reserved : ReservedIpv4 address) :
    isPrivateIpv4 (dotted address) = true := by
  obtain ⟨block, listed, inside⟩ := reserved
  obtain ⟨⟨network, mask⟩, member, maskEq, networkEq⟩ := reserved_range listed
  rw [isPrivateIpv4, List.any_eq_true]
  dsimp only at maskEq networkEq
  use (network, mask)
  constructor
  · exact member
  · rw [beq_iff_eq, ipv4ToNumber_dotted, unsigned, bitAnd, networkEq, maskEq, ← and_mask inside]
    rw [toInt32_toInt, toInt32_natCast, BitVec.ofNat_toNat, BitVec.setWidth_eq]

/-! ## Kinds of addresses -/

theorem isOctet_octetText : ∀ octet < 256, isOctet (Nat.toDigits 10 octet) = true := by
  decide +kernel

theorem isIPv4_dotted (address : BitVec 32) : isIPv4 (dotted address) = true := by
  have all : ((octets address).map (Nat.toDigits 10)).all isOctet = true := by
    rw [List.all_map, List.all_eq_true]
    exact fun octet member => isOctet_octetText octet (octets_lt address octet member)
  rw [isIPv4, splitOn_dotted, all]
  rfl

theorem isIP_dotted (address : BitVec 32) : isIP (dotted address) = 4 := by
  rw [isIP, isIPv4_dotted, if_pos rfl]

/-- An IPv4 address has digits and dots only. -/
theorem mem_of_isIPv4 {text : List Char} (accepted : isIPv4 text = true) {char : Char}
    (member : char ∈ text) : char = '.' ∨ char.isDigit := by
  rw [isIPv4, Bool.and_eq_true, List.all_eq_true] at accepted
  rw [← @List.intercalate_splitOn _ text _ _ '.'] at member
  rcases mem_intercalate member with same | ⟨word, inside, found⟩
  · exact .inl same
  · have digits := accepted.2 word inside
    simp only [isOctet, Bool.and_eq_true, List.all_eq_true] at digits
    exact .inr (digits.1.1.1.1 char found)

/-! ## IPv6 -/

theorem cutAtLastColon_append (before : List Char) {ipv4 : List Char} (plain : ':' ∉ ipv4) :
    cutAtLastColon (before ++ ':' :: ipv4) = (before, ipv4) := by
  have others : ∀ char ∈ ipv4.reverse, (char != ':') = true := by
    intro char member
    rw [bne_iff_ne]
    exact fun same => plain (same ▸ List.mem_reverse.mp member)
  have reversed : (before ++ ':' :: ipv4).reverse = ipv4.reverse ++ ':' :: before.reverse := by
    simp
  simp only [cutAtLastColon, List.rdropWhile, List.rtakeWhile, reversed,
    List.dropWhile_append_of_pos others, List.takeWhile_append_of_pos others]
  simp

theorem hexValue_append (text : List Char) (digit : Char) :
    hexValue (text ++ [digit]) = 16 * hexValue text + hexDigitValue digit := by
  simp [hexValue]

theorem hexDigitValue_digitChar : ∀ digit < 16, hexDigitValue (Nat.digitChar digit) = digit := by
  decide

theorem hexValue_groupText (group : Nat) : hexValue (groupText group) = group := by
  induction group using Nat.strongRecOn with
  | ind group ih =>
      by_cases small : group < 16
      · rw [groupText, Nat.toDigits_of_lt_base small]
        simp [hexValue, hexDigitValue_digitChar group small]
      · have inner := ih (group / 16) (by omega)
        rw [groupText] at inner
        rw [groupText, Nat.toDigits_of_base_le (by decide) (by omega), hexValue_append, inner,
          hexDigitValue_digitChar _ (Nat.mod_lt _ (by decide))]
        omega

theorem isLowerGroup_groupText {group : Nat} (small : group < 65536) :
    isLowerGroup (groupText group) = true := by
  have digits : lowerDigits.all (fun char =>
      char.isDigit || ('a' ≤ char && char ≤ 'f')) = true := by decide
  have nonempty : 1 ≤ (groupText group).length :=
    List.length_pos_iff.mpr (groupText_ne_nil group)
  have short := length_groupText small
  simp only [isLowerGroup, Bool.and_eq_true, decide_eq_true_eq, List.all_eq_true]
  exact ⟨⟨nonempty, short⟩, fun char member =>
    List.all_eq_true.mp digits char (mem_groupText member)⟩

theorem isGroup_groupText {group : Nat} (small : group < 65536) :
    isGroup (groupText group) = true := by
  have digits : lowerDigits.all isHexDigit = true := by decide
  have nonempty : 1 ≤ (groupText group).length :=
    List.length_pos_iff.mpr (groupText_ne_nil group)
  have short := length_groupText small
  simp only [isGroup, Bool.and_eq_true, decide_eq_true_eq, List.all_eq_true]
  exact ⟨⟨nonempty, short⟩, fun char member =>
    List.all_eq_true.mp digits char (mem_groupText member)⟩

theorem groupsOf_intercalate {words : List (List Char)} (all : Words ':' words) :
    groupsOf ([':'].intercalate words) = words := by
  cases words with
  | nil => rfl
  | cons word words =>
      obtain ⟨first, rest, -, joined⟩ := all.intercalate_cons
      have nonempty : ([':'].intercalate (word :: words)).isEmpty = false := by
        rw [joined]
        rfl
      rw [groupsOf, nonempty, if_neg Bool.false_ne_true]
      exact List.splitOn_intercalate ':' (fun other member => (all other member).2) (by simp)

/-- Groups whose texts the parser accepts. -/
theorem all_isLowerGroup {groups : List Nat} (small : ∀ group ∈ groups, group < 65536) :
    (groups.map groupText).all isLowerGroup = true := by
  rw [List.all_map, List.all_eq_true]
  exact fun group member => isLowerGroup_groupText (small group member)

theorem map_hexValue (groups : List Nat) : (groups.map groupText).map hexValue = groups := by
  rw [List.map_map]
  simp [Function.comp_def, hexValue_groupText]

/-- The parser on a text without a doubled colon. -/
theorem parseIpv6Hextets_whole {address normalized : List Char} {groups : List Nat}
    (normal : normalizeTail address = some normalized)
    (sections : splitOnPair ':' normalized = [[':'].intercalate (groups.map groupText)])
    (small : ∀ group ∈ groups, group < 65536) (eight : groups.length = 8) :
    parseIpv6Hextets address = some groups := by
  have accepted := all_isLowerGroup small
  simp only [parseIpv6Hextets, normal, Option.bind_eq_bind, Option.bind_some, sections,
    groupsOf_intercalate (groupText_words groups), accepted, List.length_map, eight, map_hexValue]
  simp

/-- The parser on a text with one doubled colon. -/
theorem parseIpv6Hextets_pair {address normalized : List Char} {left right : List Nat}
    {missing : Nat} (normal : normalizeTail address = some normalized)
    (sections : splitOnPair ':' normalized =
      [[':'].intercalate (left.map groupText), [':'].intercalate (right.map groupText)])
    (small : ∀ group ∈ left ++ right, group < 65536)
    (eight : left.length + missing + right.length = 8) (some_missing : 0 < missing) :
    parseIpv6Hextets address = some (left ++ List.replicate missing 0 ++ right) := by
  have accepted := all_isLowerGroup small
  have rest : (8 : Int) - (left.length + right.length : Nat) = missing := by omega
  rw [List.map_append] at accepted
  simp only [parseIpv6Hextets, normal, Option.bind_eq_bind, Option.bind_some, sections,
    groupsOf_intercalate (groupText_words left), groupsOf_intercalate (groupText_words right),
    accepted, List.length_append, List.length_map, rest, map_hexValue]
  rw [if_neg (by simp), if_neg (by omega), Int.toNat_natCast]

/-- The parser reads back the groups of a text without a dotted tail. -/
theorem parseIpv6Hextets_spell {groups tail : List Nat} {address : List Char}
    (eight : (groups ++ tail).length = 8) (small : ∀ group ∈ groups ++ tail, group < 65536)
    (normal : normalizeTail address = some (spell groups (tail.map groupText))) :
    parseIpv6Hextets address = some (groups ++ tail) := by
  rw [spell] at normal
  split at normal
  · have sections := splitOnPair_intercalate (groupText_words (groups ++ tail)) []
    rw [List.append_nil, splitOnPair_nil] at sections
    rw [← List.map_append] at normal
    exact parseIpv6Hextets_whole normal (by simpa using sections) small eight
  · rename_i left right found
    obtain ⟨count, several, rfl⟩ := compression_sound found
    rw [← List.map_append] at normal
    have sections :=
      splitOnPair_intercalate_pair (groupText_words left) (groupText_words (right ++ tail))
    rw [List.append_assoc] at eight small ⊢
    apply parseIpv6Hextets_pair normal sections
    · intro group member
      apply small
      simp only [List.mem_append] at member ⊢
      tauto
    · simpa [Nat.add_assoc] using eight
    · omega

theorem normalizeTail_plain {text : List Char} (plain : '.' ∉ text) :
    normalizeTail text = some text := by
  simp [normalizeTail, plain]

/-- Two octets as one group. -/
theorem bitOr_shiftLeft {high low : Nat} (highSmall : high < 256) (lowSmall : low < 256) :
    bitOr (shiftLeft high 8) low = (256 * high + low : Nat) := by
  have joined : BitVec.ofNat 32 high <<< 8 ||| BitVec.ofNat 32 low =
      BitVec.ofNat 32 (256 * high + low) := by
    apply BitVec.eq_of_toNat_eq
    have shifted : (BitVec.ofNat 32 high <<< 8).toNat = high <<< 8 := by
      rw [BitVec.toNat_shiftLeft, BitVec.toNat_ofNat, Nat.shiftLeft_eq, Nat.shiftLeft_eq]
      omega
    rw [BitVec.toNat_or, shifted, BitVec.toNat_ofNat, BitVec.toNat_ofNat,
      Nat.mod_eq_of_lt (by omega), Nat.mod_eq_of_lt (by omega),
      ← Nat.shiftLeft_add_eq_or_of_lt lowSmall, Nat.shiftLeft_eq]
    omega
  rw [bitOr, shiftLeft, toInt32_toInt, toInt32_natCast, toInt32_natCast, joined,
    BitVec.toInt_ofNat']
  exact Int.bmod_eq_of_le (by omega) (by omega)

theorem octets_embedded (address : BitVec 128) :
    256 * octet (embedded address) 0 + octet (embedded address) 1 = hextet address 6 ∧
      256 * octet (embedded address) 2 + octet (embedded address) 3 = hextet address 7 := by
  have bound := address.isLt
  simp only [octet, hextet, embedded, BitVec.toNat_setWidth]
  constructor <;> omega

theorem normalizeTail_dotted {groups : List Nat} (some_group : groups ≠ [])
    (address : BitVec 128) :
    normalizeTail (spell groups [dotted (embedded address)]) =
      some (spell groups ([hextet address 6, hextet address 7].map groupText)) := by
  obtain ⟨before, written⟩ := spell_tail some_group
  have plain : ':' ∉ dotted (embedded address) := by
    intro colon
    exact absurd (mem_dotted colon) (by decide)
  have dot : '.' ∈ dotted (embedded address) := by
    simp [dotted, octets, List.intercalate_cons_cons]
  have hexTexts : hexText (256 * octet (embedded address) 0 + octet (embedded address) 1 : Nat) =
        groupText (hextet address 6) ∧
      hexText (256 * octet (embedded address) 2 + octet (embedded address) 3 : Nat) =
        groupText (hextet address 7) := by
    rw [(octets_embedded address).1, (octets_embedded address).2]
    exact ⟨rfl, rfl⟩
  rw [written [dotted _] (by simp), written _ (by simp), List.intercalate_singleton,
    normalizeTail]
  simp only [List.contains_eq_mem, List.mem_append, List.mem_cons, dot,
    cutAtLastColon_append before plain, isIP_dotted, dotted_octets, octets]
  rw [bitOr_shiftLeft (octet_lt _ _) (octet_lt _ _), bitOr_shiftLeft (octet_lt _ _) (octet_lt _ _),
    hexTexts.1, hexTexts.2]
  simp [List.intercalate_cons_cons]

/-- The parser reads back the groups of a canonical text. -/
theorem parseIpv6Hextets_ipv6Text (dottedTail : Bool) (address : BitVec 128) :
    parseIpv6Hextets (ipv6Text dottedTail address).toList = some (hextets address) := by
  cases dottedTail with
  | false =>
      have plain : '.' ∉ spell (hextets address) [] := by
        intro dot
        rcases mem_spell dot with same | digit | ⟨word, inside, -⟩
        · cases same
        · exact absurd digit (by decide)
        · cases inside
      rw [ipv6Text, String.toList_ofList, if_neg (by decide)]
      simpa using @parseIpv6Hextets_spell (hextets address) [] _ (by simp [hextets])
        (by simpa using hextets_lt address) (normalizeTail_plain plain)
  | true =>
      have whole : (hextets address).take 6 ++ [hextet address 6, hextet address 7] =
        hextets address := rfl
      rw [ipv6Text, String.toList_ofList, if_pos rfl, ← whole]
      apply parseIpv6Hextets_spell
      · rfl
      · rw [whole]
        exact hextets_lt address
      · exact normalizeTail_dotted (by simp [hextets]) address

/-! ### The kind of a canonical text -/

/-- The characters of a canonical text. -/
theorem mem_ipv6Text {dottedTail : Bool} {address : BitVec 128} {char : Char}
    (member : char ∈ (ipv6Text dottedTail address).toList) :
    char = ':' ∨ char = '.' ∨ char ∈ lowerDigits := by
  rw [ipv6Text, String.toList_ofList] at member
  cases dottedTail with
  | false =>
      rcases mem_spell (by simpa using member) with same | digit | ⟨word, inside, -⟩
      · exact .inl same
      · exact .inr (.inr digit)
      · cases inside
  | true =>
      rcases mem_spell (by simpa using member) with same | digit | ⟨word, inside, found⟩
      · exact .inl same
      · exact .inr (.inr digit)
      · rw [List.mem_singleton.mp inside] at found
        rcases mem_dotted found with same | digit
        · exact .inr (.inl same)
        · exact .inr (.inr digit)

theorem countGroups_cons {group : List Char} (accepted : isGroup group = true)
    (rest : List (List Char)) :
    countGroups (group :: rest) = (countGroups rest).map (· + 1) := by
  cases rest with
  | nil => simp [countGroups, accepted]
  | cons next rest => simp [countGroups, accepted]

theorem countGroups_append {groups : List Nat} (small : ∀ group ∈ groups, group < 65536)
    {tail : List (List Char)} {count : Nat} (counted : countGroups tail = some count) :
    countGroups (groups.map groupText ++ tail) = some (groups.length + count) := by
  induction groups with
  | nil => simpa using counted
  | cons group groups ih =>
      have inner := ih fun other member => small other (List.mem_cons_of_mem _ member)
      rw [List.map_cons, List.cons_append,
        countGroups_cons (isGroup_groupText (small group List.mem_cons_self)), inner]
      simp [Nat.add_right_comm]

theorem countGroups_dotted (address : BitVec 32) : countGroups [dotted address] = some 2 := by
  have dot : isGroup (dotted address) = false := by
    simp [isGroup, dotted, octets, List.intercalate_cons_cons, isHexDigit]
  rw [countGroups, dot, isIPv4_dotted]
  rfl

/-- Groups and a tail that stand for eight groups together are an address. -/
theorem isIPv6Address_spell {groups : List Nat} {tail : List (List Char)} {count : Nat}
    (small : ∀ group ∈ groups, group < 65536) (words : Words ':' tail)
    (counted : countGroups tail = some count) (eight : groups.length + count = 8) :
    isIPv6Address (spell groups tail) = true := by
  unfold spell
  cases compressed : compression groups with
  | none =>
      have all := (groupText_words groups).append words
      have sections := splitOnPair_intercalate all []
      rw [List.append_nil, splitOnPair_nil] at sections
      dsimp only
      rw [isIPv6Address, sections]
      simp [groupsOf_intercalate all, countGroups_append small counted, eight]
  | some split =>
      obtain ⟨left, right⟩ := split
      obtain ⟨zeros, several, rfl⟩ := compression_sound compressed
      have all := (groupText_words right).append words
      have leftSmall : ∀ group ∈ left, group < 65536 := by
        intro group member
        exact small group (by simp [member])
      have rightSmall : ∀ group ∈ right, group < 65536 := by
        intro group member
        exact small group (by simp [member])
      have accepted : (left.map groupText).all isGroup = true := by
        rw [List.all_map, List.all_eq_true]
        exact fun group member => isGroup_groupText (leftSmall group member)
      dsimp only
      rw [isIPv6Address, splitOnPair_intercalate_pair (groupText_words left) all]
      dsimp only
      rw [groupsOf_intercalate (groupText_words left), groupsOf_intercalate all, accepted,
        countGroups_append rightSmall counted]
      simp only [List.length_append, List.length_replicate] at eight
      simp only [Bool.true_and, Option.any_some, List.length_map, decide_eq_true_eq]
      omega

theorem isIP_ipv6Text (dottedTail : Bool) (address : BitVec 128) :
    isIP (ipv6Text dottedTail address).toList = 6 := by
  have accepted : isIPv6Address (ipv6Text dottedTail address).toList = true := by
    rw [ipv6Text, String.toList_ofList]
    cases dottedTail with
    | false =>
        rw [if_neg Bool.false_ne_true]
        exact isIPv6Address_spell (hextets_lt address) nofun rfl rfl
    | true =>
        rw [if_pos rfl]
        apply isIPv6Address_spell _ _ (countGroups_dotted _) rfl
        · intro group member
          exact hextets_lt address group (List.mem_of_mem_take member)
        · intro word member
          rw [List.mem_singleton.mp member]
          constructor
          · simp [dotted, octets, List.intercalate_cons_cons]
          · intro colon
            exact absurd (mem_dotted colon) (by decide)
  have zone : (ipv6Text dottedTail address).toList.dropWhile (· != '%') = [] := by
    rw [List.dropWhile_eq_nil_iff]
    intro char member
    rw [bne_iff_ne]
    rintro rfl
    exact absurd (mem_ipv6Text member) (by decide)
  have colon : ':' ∈ (ipv6Text dottedTail address).toList := by
    rw [ipv6Text, String.toList_ofList]
    split <;> exact colon_mem_spell (by simp [hextets])
  have other : isIPv4 (ipv6Text dottedTail address).toList = false := by
    rw [Bool.eq_false_iff]
    intro decimal
    exact absurd (mem_of_isIPv4 decimal colon) (by decide)
  rw [isIP, other, if_neg Bool.false_ne_true, isIPv6, zone, accepted]
  rfl

/-! ### Private texts -/

/-- The IPv6 networks that no endpoint may lie in. -/
def reservedIpv6 : List (BitVec 128 × Nat) :=
  [(0x01000000000000000000000000000000, 64), (0xfc000000000000000000000000000000, 7),
   (0xfe800000000000000000000000000000, 10), (0xff000000000000000000000000000000, 8),
   (0x20010002000000000000000000000000, 48), (0x20010db8000000000000000000000000, 32)]

/-- The networks whose last 32 bits are an IPv4 address. -/
def embeddingIpv6 : List (BitVec 128 × Nat) :=
  [(0, 96), (0x00000000000000000000ffff00000000, 96)]

def ReservedIpv6 (address : BitVec 128) : Prop :=
  (∃ block ∈ reservedIpv6, InBlock block.1 block.2 address) ∨
    (∃ block ∈ embeddingIpv6, InBlock block.1 block.2 address) ∧ ReservedIpv4 (embedded address)

instance (address : BitVec 128) : Decidable (ReservedIpv6 address) :=
  inferInstanceAs (Decidable ((∃ block ∈ reservedIpv6, _) ∨ (∃ block ∈ embeddingIpv6, _) ∧ _))

/-- Canonical texts are in lower case. -/
theorem toLower_ipv6Text (dottedTail : Bool) (address : BitVec 128) :
    (ipv6Text dottedTail address).toList.map Char.toLower =
      (ipv6Text dottedTail address).toList := by
  have same : (':' :: '.' :: lowerDigits).all (fun char => char.toLower == char) = true := by
    decide
  rw [List.map_congr_left (g := id), List.map_id]
  intro char member
  apply beq_iff_eq.mp
  apply List.all_eq_true.mp same
  simpa [or_assoc] using mem_ipv6Text member

theorem decimalText_natCast (number : Nat) : decimalText number = Nat.toDigits 10 number := by
  rw [decimalText]
  exact Nat.toList_repr

/-- The two octets of a group. -/
theorem group_octets {group : Nat} (small : group < 65536) :
    shiftRight group 8 = (group / 256 : Nat) ∧ bitAnd group 0xff = (group % 256 : Nat) := by
  have positive : (BitVec.ofNat 32 group).msb = false := by
    rw [BitVec.msb_eq_false_iff_two_mul_lt, BitVec.toNat_ofNat]
    omega
  have high : BitVec.ofNat 32 group >>> 8 = BitVec.ofNat 32 (group / 256) := by
    apply BitVec.eq_of_toNat_eq
    rw [BitVec.toNat_ushiftRight, BitVec.toNat_ofNat, BitVec.toNat_ofNat,
      Nat.shiftRight_eq_div_pow]
    omega
  have low : BitVec.ofNat 32 group &&& toInt32 0xff = BitVec.ofNat 32 (group % 256) := by
    apply BitVec.eq_of_toNat_eq
    rw [BitVec.toNat_and, BitVec.toNat_ofNat, BitVec.toNat_ofNat,
      show (toInt32 0xff).toNat = 2 ^ 8 - 1 from rfl, Nat.and_two_pow_sub_one_eq_mod]
    omega
  constructor
  · rw [shiftRight, toInt32_natCast, BitVec.sshiftRight_eq_of_msb_false positive, high,
      BitVec.toInt_ofNat']
    exact Int.bmod_eq_of_le (by omega) (by omega)
  · rw [bitAnd, toInt32_natCast, low, BitVec.toInt_ofNat']
    exact Int.bmod_eq_of_le (by omega) (by omega)

theorem octets_of_hextets (address : BitVec 128) :
    octets (embedded address) =
      [hextet address 6 / 256, hextet address 6 % 256,
        hextet address 7 / 256, hextet address 7 % 256] := by
  have bound := address.isLt
  simp only [octets, octet, hextet, embedded, BitVec.toNat_setWidth, List.cons.injEq, and_true]
  omega

/-- A text with an embedded IPv4 address is judged by it. -/
theorem isPrivateIpv6_embedded {dottedTail : Bool} {address : BitVec 128}
    (zeros : (hextets address).take 5 = [0, 0, 0, 0, 0])
    (marker : hextet address 5 = 0xffff ∨ hextet address 5 = 0) :
    isPrivateIpv6 (ipv6Text dottedTail address).toList = isPrivateIpv4 (dotted (embedded address)) := by
  have parsed := parseIpv6Hextets_ipv6Text dottedTail address
  have filtered : (some (hextets address)).filter (fun hextets =>
      (hextets.take 5).all (· == 0) &&
        (hextets[5]? == some 0xffff || hextets[5]? == some 0)) = some (hextets address) := by
    rw [Option.filter_some, if_pos]
    rw [zeros]
    simpa [hextets] using marker
  have texts : [decimalText (shiftRight (hextet address 6) 8),
      decimalText (bitAnd (hextet address 6) 0xff), decimalText (shiftRight (hextet address 7) 8),
      decimalText (bitAnd (hextet address 7) 0xff)] =
      (octets (embedded address)).map (Nat.toDigits 10) := by
    rw [(group_octets (hextet_lt address 6)).1, (group_octets (hextet_lt address 6)).2,
      (group_octets (hextet_lt address 7)).1, (group_octets (hextet_lt address 7)).2]
    rw [octets_of_hextets]
    simp only [decimalText_natCast, List.map_cons, List.map_nil]
  simp only [isPrivateIpv6, toLower_ipv6Text, parsed, filtered]
  exact congrArg (fun texts => isPrivateIpv4 (['.'].intercalate texts)) texts

/-- Any other text is judged by its beginning. -/
theorem isPrivateIpv6_of_prefix {dottedTail : Bool} {address : BitVec 128}
    (nonzero : hextet address 0 ≠ 0) {start : String} (listed : start ∈ privatePrefixes)
    (starts : start.toList <+: (ipv6Text dottedTail address).toList) :
    isPrivateIpv6 (ipv6Text dottedTail address).toList = true := by
  have parsed := parseIpv6Hextets_ipv6Text dottedTail address
  have filtered : (some (hextets address)).filter (fun hextets =>
      (hextets.take 5).all (· == 0) &&
        (hextets[5]? == some 0xffff || hextets[5]? == some 0)) = none := by
    simp [Option.filter_some, hextets, nonzero]
  simp only [isPrivateIpv6, toLower_ipv6Text, parsed, filtered]
  rw [Bool.or_eq_true, List.any_eq_true]
  exact .inr ⟨start, listed, List.isPrefixOf_iff_prefix.mpr starts⟩

/-- What a canonical text begins with when its first groups are not zero. -/
theorem ipv6Text_front {dottedTail : Bool} {address : BitVec 128} {count : Nat}
    (some_group : 0 < count) (few : count < 6) (nonzero : 0 ∉ (hextets address).take count) :
    [':'].intercalate (((hextets address).take count).map groupText) ++ [':'] <+:
      (ipv6Text dottedTail address).toList := by
  have front : (hextets address).take count ≠ [] := by
    rw [← List.length_pos_iff, List.length_take]
    simp only [hextets, List.length_cons, List.length_nil]
    omega
  rw [ipv6Text, String.toList_ofList]
  cases dottedTail with
  | false =>
      rw [if_neg Bool.false_ne_true]
      have whole : (hextets address).take count ++ (hextets address).drop count =
        hextets address := List.take_append_drop count _
      have back : (hextets address).drop count ≠ [] := by
        rw [← List.length_pos_iff, List.length_drop]
        simp only [hextets, List.length_cons, List.length_nil]
        omega
      have starts := @spell_front _ _ [] front nonzero back
      rwa [whole] at starts
  | true =>
      rw [if_pos rfl]
      have whole : (hextets address).take count ++ ((hextets address).take 6).drop count =
          (hextets address).take 6 := by
        rw [List.drop_take, ← List.take_add, Nat.add_sub_cancel' (by omega)]
      have back : ((hextets address).take 6).drop count ≠ [] := by
        rw [← List.length_pos_iff, List.length_drop, List.length_take]
        simp only [hextets, List.length_cons, List.length_nil]
        omega
      have starts := @spell_front _ _ [dotted (embedded address)] front nonzero back
      rwa [whole] at starts

/-- A text whose first group begins with the given digits. -/
theorem isPrivateIpv6_of_group {dottedTail : Bool} {address : BitVec 128}
    (nonzero : hextet address 0 ≠ 0) {start : String} (listed : start ∈ privatePrefixes)
    (starts : start.toList <+: groupText (hextet address 0) ++ [':']) :
    isPrivateIpv6 (ipv6Text dottedTail address).toList = true := by
  have front := @ipv6Text_front dottedTail address 1 (by decide) (by decide)
    (by simpa [hextets] using Ne.symm nonzero)
  apply isPrivateIpv6_of_prefix nonzero listed
  exact starts.trans (by simpa [hextets] using front)

/-- A text whose first two groups begin with the given digits. -/
theorem isPrivateIpv6_of_groups {dottedTail : Bool} {address : BitVec 128}
    (nonzero : hextet address 0 ≠ 0 ∧ hextet address 1 ≠ 0) {start : String}
    (listed : start ∈ privatePrefixes)
    (starts : start.toList <+:
      groupText (hextet address 0) ++ ':' :: groupText (hextet address 1) ++ [':']) :
    isPrivateIpv6 (ipv6Text dottedTail address).toList = true := by
  have front := @ipv6Text_front dottedTail address 2 (by decide) (by decide)
    (by simpa [hextets, eq_comm] using nonzero)
  apply isPrivateIpv6_of_prefix nonzero.1 listed
  exact starts.trans (by simpa [hextets, List.intercalate_cons_cons] using front)

/-- The first digits of a group of four digits. -/
theorem groupText_digits {group first : Nat} (large : 4096 ≤ group) (digits : group / 256 = first) :
    groupText first <+: groupText group := by
  have inner := @groupText_begins (group / 16) (by omega)
  rw [Nat.div_div_eq_div_mul, digits] at inner
  exact inner.trans (groupText_begins (by omega))

theorem isPrivateIpv6_reserved {dottedTail : Bool} {address : BitVec 128}
    {block : BitVec 128 × Nat} (listed : block ∈ reservedIpv6)
    (inside : InBlock block.1 block.2 address) :
    isPrivateIpv6 (ipv6Text dottedTail address).toList = true := by
  have bound := address.isLt
  have listing (start : String) (listed : start ∈ privatePrefixes) := listed
  simp only [reservedIpv6, List.mem_cons, List.not_mem_nil, or_false] at listed
  rcases listed with rfl | rfl | rfl | rfl | rfl | rfl
  · have bits : address.toNat / 2 ^ 64 = 0x0100000000000000 := inside.toNat_eq
    have first : hextet address 0 = 0x100 := by
      simp only [hextet]
      omega
    apply isPrivateIpv6_of_group (by omega) (listing "100:" (by decide))
    rw [first]
    decide
  · have bits : address.toNat / 2 ^ 121 = 0x7e := inside.toNat_eq
    have first : hextet address 0 / 256 = 0xfc ∨ hextet address 0 / 256 = 0xfd := by
      simp only [hextet]
      omega
    rcases first with first | first
    · apply isPrivateIpv6_of_group (by omega) (listing "fc" (by decide))
      exact (groupText_digits (by omega) first).trans (List.prefix_append _ _)
    · apply isPrivateIpv6_of_group (by omega) (listing "fd" (by decide))
      exact (groupText_digits (by omega) first).trans (List.prefix_append _ _)
  · have bits : address.toNat / 2 ^ 118 = 0x3fa := inside.toNat_eq
    have first : hextet address 0 / 16 = 0xfe8 ∨ hextet address 0 / 16 = 0xfe9 ∨
        hextet address 0 / 16 = 0xfea ∨ hextet address 0 / 16 = 0xfeb := by
      simp only [hextet]
      omega
    have digits := (@groupText_begins (hextet address 0) (by omega)).trans
      (List.prefix_append _ [':'])
    rcases first with first | first | first | first <;> rw [first] at digits
    · exact isPrivateIpv6_of_group (by omega) (listing "fe8" (by decide)) digits
    · exact isPrivateIpv6_of_group (by omega) (listing "fe9" (by decide)) digits
    · exact isPrivateIpv6_of_group (by omega) (listing "fea" (by decide)) digits
    · exact isPrivateIpv6_of_group (by omega) (listing "feb" (by decide)) digits
  · have bits : address.toNat / 2 ^ 120 = 0xff := inside.toNat_eq
    have first : hextet address 0 / 256 = 0xff := by
      simp only [hextet]
      omega
    apply isPrivateIpv6_of_group (by omega) (listing "ff" (by decide))
    exact (groupText_digits (by omega) first).trans (List.prefix_append _ _)
  · have bits : address.toNat / 2 ^ 80 = 0x200100020000 := inside.toNat_eq
    have first : hextet address 0 = 0x2001 ∧ hextet address 1 = 0x2 := by
      simp only [hextet]
      omega
    apply isPrivateIpv6_of_groups (by omega) (listing "2001:2" (by decide))
    rw [first.1, first.2]
    decide
  · have bits : address.toNat / 2 ^ 96 = 0x20010db8 := inside.toNat_eq
    have first : hextet address 0 = 0x2001 ∧ hextet address 1 = 0xdb8 := by
      simp only [hextet]
      omega
    apply isPrivateIpv6_of_groups (by omega) (listing "2001:db8" (by decide))
    rw [first.1, first.2]
    decide

theorem isPrivateAddress_ipv4Text {address : BitVec 32} (reserved : ReservedIpv4 address) :
    isPrivateAddress (ipv4Text address) = true := by
  rw [isPrivateAddress, ipv4Text, String.toList_ofList, if_pos (isIP_dotted address)]
  exact isPrivateIpv4_dotted reserved

theorem isPrivateAddress_ipv6Text {address : BitVec 128} (reserved : ReservedIpv6 address)
    (dottedTail : Bool) : isPrivateAddress (ipv6Text dottedTail address) = true := by
  have six := isIP_ipv6Text dottedTail address
  rw [isPrivateAddress, if_neg (by rw [six]; decide), if_pos six]
  rcases reserved with ⟨block, listed, inside⟩ | ⟨⟨block, listed, inside⟩, reserved⟩
  · exact isPrivateIpv6_reserved listed inside
  · have groups : (hextets address).take 5 = [0, 0, 0, 0, 0] ∧
        (hextet address 5 = 0xffff ∨ hextet address 5 = 0) := by
      have bound := address.isLt
      simp only [embeddingIpv6, List.mem_cons, List.not_mem_nil, or_false] at listed
      rcases listed with rfl | rfl
      · have bits : address.toNat / 2 ^ 32 = 0 := inside.toNat_eq
        simp only [hextets, hextet, List.take_succ_cons, List.take_zero, List.cons.injEq,
          and_true]
        omega
      · have bits : address.toNat / 2 ^ 32 = 0xffff := inside.toNat_eq
        simp only [hextets, hextet, List.take_succ_cons, List.take_zero, List.cons.injEq,
          and_true]
        omega
    rw [isPrivateIpv6_embedded groups.1 groups.2]
    exact isPrivateIpv4_dotted reserved

end Mosp.Provider
