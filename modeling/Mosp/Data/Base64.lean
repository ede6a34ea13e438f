import Mosp.Data.Aead
import Mathlib.Data.List.TakeWhile

/-!
# Bytes as text

The alphabet of `base64url` without padding.  Reading also takes the two
characters of plain base64, stops at an equals sign, and passes over everything
else.
-/

namespace Mosp.Data

namespace Base64Url

def alphabet : List Char :=
  "ABCDEFGHIJKLMNOPQRSTUVWXYZabcdefghijklmnopqrstuvwxyz0123456789-_".toList

/-- The character of six bits. -/
def digit (value : Nat) : Char :=
  alphabet.getD value 'A'

/-- The six bits of a character. -/
def value? (char : Char) : Option Nat :=
  if char = '+' then some 62
  else if char = '/' then some 63
  else alphabet.findIdx? (· == char)

/-- Three bytes are four characters. -/
def encode : List Nat → List Char
  | [] => []
  | [first] => [digit (first / 4), digit (first % 4 * 16)]
  | [first, second] =>
      [digit (first / 4), digit (first % 4 * 16 + second / 16), digit (second % 16 * 4)]
  | first :: second :: third :: rest =>
      digit (first / 4) :: digit (first % 4 * 16 + second / 16) ::
        digit (second % 16 * 4 + third / 64) :: digit (third % 64) :: encode rest

/-- The bytes of groups of six bits. -/
def join : List Nat → List Nat
  | [] => []
  | [_] => []
  | [first, second] => [first * 4 + second / 16]
  | [first, second, third] => [first * 4 + second / 16, second % 16 * 16 + third / 4]
  | first :: second :: third :: fourth :: rest =>
      (first * 4 + second / 16) :: (second % 16 * 16 + third / 4) :: (third % 4 * 64 + fourth) ::
        join rest

def decode (text : List Char) : List Nat :=
  join ((text.takeWhile (· != '=')).filterMap value?)

@[simp]
theorem value?_digit {value : Nat} (small : value < 64) : value? (digit value) = some value := by
  have all : ∀ value ∈ List.range 64, value? (digit value) = some value := by decide
  exact all value (List.mem_range.mpr small)

theorem join_encode {bytes : List Nat} (small : ∀ byte ∈ bytes, byte < 256) :
    join ((encode bytes).filterMap value?) = bytes := by
  fun_induction encode bytes with
  | case1 => rfl
  | case2 first =>
      have bound := small first List.mem_cons_self
      have high : first / 4 < 64 := by omega
      have low : first % 4 * 16 < 64 := by omega
      simp only [List.filterMap_cons, value?_digit high, value?_digit low, List.filterMap_nil, join,
        List.cons.injEq, and_true]
      omega
  | case3 first second =>
      have bound := small first (by simp)
      have bound' := small second (by simp)
      have high : first / 4 < 64 := by omega
      have middle : first % 4 * 16 + second / 16 < 64 := by omega
      have low : second % 16 * 4 < 64 := by omega
      simp only [List.filterMap_cons, value?_digit high, value?_digit middle, value?_digit low,
        List.filterMap_nil, join, List.cons.injEq, and_true]
      constructor <;> omega
  | case4 first second third rest ih =>
      have bound := small first (by simp)
      have bound' := small second (by simp)
      have bound'' := small third (by simp)
      have one : first / 4 < 64 := by omega
      have two : first % 4 * 16 + second / 16 < 64 := by omega
      have three : second % 16 * 4 + third / 64 < 64 := by omega
      have four : third % 64 < 64 := by omega
      have others := ih fun byte member => small byte (by simp [member])
      simp only [List.filterMap_cons, value?_digit one, value?_digit two, value?_digit three,
        value?_digit four, join, others, List.cons.injEq, and_true]
      refine ⟨?_, ?_, ?_⟩ <;> omega

/-- Only characters of the alphabet are written. -/
theorem mem_alphabet_of_encode {bytes : List Nat} {char : Char} (member : char ∈ encode bytes) :
    char ∈ alphabet := by
  have digits : ∀ value, digit value ∈ alphabet := by
    intro value
    unfold digit
    rw [List.getD_eq_getElem?_getD]
    cases found : alphabet[value]? with
    | none => decide
    | some char => exact List.mem_of_getElem? found
  fun_induction encode bytes with
  | case1 => contradiction
  | case2 first =>
      rcases List.mem_cons.mp member with rfl | member
      · exact digits _
      · rw [List.mem_singleton.mp member]
        exact digits _
  | case3 first second =>
      simp only [List.mem_cons, List.not_mem_nil, or_false] at member
      rcases member with rfl | rfl | rfl <;> exact digits _
  | case4 first second third rest ih =>
      simp only [List.mem_cons] at member
      rcases member with rfl | rfl | rfl | rfl | member
      · exact digits _
      · exact digits _
      · exact digits _
      · exact digits _
      · exact ih member

theorem decode_encode {bytes : List Nat} (small : ∀ byte ∈ bytes, byte < 256) :
    decode (encode bytes) = bytes := by
  have unpadded : ∀ char ∈ encode bytes, (char != '=') = true := by
    intro char member
    rw [bne_iff_ne]
    rintro rfl
    exact absurd (mem_alphabet_of_encode member) (by decide)
  rw [decode, List.takeWhile_eq_self_iff.mpr unpadded, join_encode small]

theorem length_encode (bytes : List Nat) : (encode bytes).length = (4 * bytes.length + 2) / 3 := by
  fun_induction encode bytes with
  | case1 => rfl
  | case2 => simp
  | case3 => simp
  | case4 first second third rest ih =>
      simp only [List.length_cons, ih]
      omega

/-! ## Buffers -/

/-- `buffer.toString("base64url")` -/
def ofBytes (bytes : Bytes) : List Char :=
  encode (bytes.map UInt8.toNat)

/-- `Buffer.from(text, "base64url")` -/
def toBytes (text : List Char) : Bytes :=
  (decode text).map UInt8.ofNat

@[simp]
theorem toBytes_ofBytes (bytes : Bytes) : toBytes (ofBytes bytes) = bytes := by
  have small : ∀ byte ∈ bytes.map UInt8.toNat, byte < 256 := by
    intro value member
    obtain ⟨byte, -, rfl⟩ := List.mem_map.mp member
    exact byte.toNat_lt
  simp [toBytes, ofBytes, decode_encode small, Function.comp_def]

theorem not_mem_ofBytes {bytes : Bytes} {char : Char} (foreign : char ∉ alphabet) :
    char ∉ ofBytes bytes :=
  fun member => foreign (mem_alphabet_of_encode member)

end Base64Url

end Mosp.Data
