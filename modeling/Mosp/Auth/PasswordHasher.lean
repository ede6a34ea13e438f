import Mathlib
import Mosp.Data.Base64

/-!
# Stored passwords

`PasswordHasher`: a password is stored with its salt, and only the password
that derives the same key is accepted.
-/

namespace Mosp.Auth

open Mosp.Data

def hashVersion : String :=
  "v1"

def keyLength : Nat :=
  64

def saltLength : Nat :=
  16

/-- The number of UTF-16 units of a password. -/
def passwordLength (password : String) : Nat :=
  (password.toList.map fun char => if char.toNat < 0x10000 then 1 else 2).sum

/-- `timingSafeEqual`, which throws on buffers of different lengths. -/
def timingSafeEqual (first second : Bytes) : Except String Bool :=
  if first.length = second.length then
    .ok (first == second)
  else
    .error "Input buffers must have the same byte length"

/-- `[a, b, c, d].join("$")` -/
def joinFields (fields : List (List Char)) : String :=
  String.ofList (['$'].intercalate fields)

structure PasswordHasher where
  /-- `nodeScrypt` with the options of the class -/
  scrypt : (password : String) → (salt : Bytes) → Except String Bytes

namespace PasswordHasher

variable (hasher : PasswordHasher)

def assertPassword (password : String) : Except String Unit :=
  if passwordLength password < 12 ∨ 256 < passwordLength password then
    .error "Password must contain between 12 and 256 characters"
  else
    .ok ()

def derive (password : String) (salt : Bytes) : Except String Bytes :=
  hasher.scrypt password salt

/-- The salt is drawn at random. -/
def hash (password : String) (salt : Bytes) : Except String String := do
  assertPassword password
  let derivedKey ← hasher.derive password salt
  return joinFields
    ["scrypt".toList, hashVersion.toList, Base64Url.ofBytes salt, Base64Url.ofBytes derivedKey]

/-- The part of `verify` whose errors are caught. -/
def compare (password : String) (salt expected : Bytes) : Except String Bool :=
  if salt.length ≠ saltLength ∨ expected.length ≠ keyLength then
    .ok false
  else do
    let actual ← hasher.derive password salt
    timingSafeEqual actual expected

def verify (password encodedHash : String) : Bool :=
  if password = "" ∨ encodedHash = "" then
    false
  else
    match encodedHash.toList.splitOn '$' with
    | algorithm :: version :: encodedSalt :: encodedDerivedKey :: _ =>
        if algorithm ≠ "scrypt".toList ∨ version ≠ hashVersion.toList ∨ encodedSalt = [] ∨
            encodedDerivedKey = [] then
          false
        else
          match hasher.compare password (Base64Url.toBytes encodedSalt)
              (Base64Url.toBytes encodedDerivedKey) with
          | .ok equal => equal
          | .error _ => false
    | _ => false

variable {hasher}

theorem timingSafeEqual_eq_true {first second : Bytes} :
    timingSafeEqual first second = .ok true ↔ first = second := by
  unfold timingSafeEqual
  by_cases same : first.length = second.length
  · simp [same]
  · rw [if_neg same]
    constructor
    · intro equal
      contradiction
    · intro equal
      exact absurd (congrArg List.length equal) same

theorem compare_eq_true {password : String} {salt expected : Bytes} :
    hasher.compare password salt expected = .ok true ↔ salt.length = saltLength ∧
      expected.length = keyLength ∧ hasher.scrypt password salt = .ok expected := by
  unfold compare derive
  by_cases wrong : salt.length ≠ saltLength ∨ expected.length ≠ keyLength
  · rw [if_pos wrong]
    simp only [Except.ok.injEq, Bool.false_eq_true, false_iff]
    rintro ⟨saltFits, keyFits, -⟩
    exact wrong.elim (absurd saltFits) (absurd keyFits)
  · rw [if_neg wrong]
    simp only [ne_eq, not_or, not_not] at wrong
    cases derived : hasher.scrypt password salt with
    | error error => simp [bind, Except.bind]
    | ok actual =>
        change timingSafeEqual actual expected = .ok true ↔ _
        simp [timingSafeEqual_eq_true, wrong]

/-- What is accepted has the fields of a hash, and the password derives the key. -/
theorem verify_eq_true {password encodedHash : String} :
    hasher.verify password encodedHash = true ↔ password ≠ "" ∧
      ∃ encodedSalt encodedDerivedKey rest, encodedHash.toList.splitOn '$' =
        "scrypt".toList :: hashVersion.toList :: encodedSalt :: encodedDerivedKey :: rest ∧
          (Base64Url.toBytes encodedSalt).length = saltLength ∧
            (Base64Url.toBytes encodedDerivedKey).length = keyLength ∧
              hasher.scrypt password (Base64Url.toBytes encodedSalt) =
                .ok (Base64Url.toBytes encodedDerivedKey) := by
  unfold verify
  constructor
  · intro accepted
    split at accepted
    · contradiction
    · rename_i given
      split at accepted
      · rename_i algorithm version encodedSalt encodedDerivedKey rest fields
        split at accepted
        · contradiction
        · rename_i known
          simp only [ne_eq, not_or, not_not] at known
          obtain ⟨rfl, rfl, -⟩ := known
          split at accepted
          · rename_i compared
            subst accepted
            exact ⟨fun empty => given (.inl empty), encodedSalt, encodedDerivedKey, rest, fields,
              compare_eq_true.mp compared⟩
          · contradiction
      · contradiction
  · rintro ⟨given, encodedSalt, encodedDerivedKey, rest, fields, compared⟩
    have stored : encodedHash ≠ "" := by
      rintro rfl
      simp at fields
    have someSalt : encodedSalt ≠ [] := by
      rintro rfl
      simp [Base64Url.toBytes, Base64Url.decode, Base64Url.join, saltLength] at compared
    have someKey : encodedDerivedKey ≠ [] := by
      rintro rfl
      simp [Base64Url.toBytes, Base64Url.decode, Base64Url.join, keyLength] at compared
    rw [if_neg (by simp [given, stored]), fields]
    simp only
    rw [if_neg (by simp [someSalt, someKey]), compare_eq_true.mpr compared]

theorem hash_eq_ok {password stored : String} {salt : Bytes}
    (hashed : hasher.hash password salt = .ok stored) :
    12 ≤ passwordLength password ∧ passwordLength password ≤ 256 ∧
      ∃ key, hasher.scrypt password salt = .ok key ∧ stored = joinFields
        ["scrypt".toList, hashVersion.toList, Base64Url.ofBytes salt, Base64Url.ofBytes key] := by
  unfold hash assertPassword derive at hashed
  by_cases wrong : passwordLength password < 12 ∨ 256 < passwordLength password
  · rw [if_pos wrong] at hashed
    contradiction
  · rw [if_neg wrong] at hashed
    simp only [not_or, Nat.not_lt] at wrong
    cases derived : hasher.scrypt password salt with
    | error error =>
        rw [derived] at hashed
        contradiction
    | ok key =>
        rw [derived] at hashed
        exact ⟨wrong.1, wrong.2, key, rfl, (Except.ok.inj hashed).symm⟩

/-- The fields of a hash are found again. -/
theorem splitOn_joinFields (salt key : Bytes) :
    (joinFields ["scrypt".toList, hashVersion.toList, Base64Url.ofBytes salt,
      Base64Url.ofBytes key]).toList.splitOn '$' =
        ["scrypt".toList, hashVersion.toList, Base64Url.ofBytes salt, Base64Url.ofBytes key] := by
  have foreign : '$' ∉ Base64Url.alphabet := by decide
  unfold joinFields
  rw [String.toList_ofList]
  apply List.splitOn_intercalate
  · intro field member
    simp only [List.mem_cons, List.not_mem_nil, or_false] at member
    rcases member with rfl | rfl | rfl | rfl
    · decide
    · decide
    · exact Base64Url.not_mem_ofBytes foreign
    · exact Base64Url.not_mem_ofBytes foreign
  · exact List.cons_ne_nil _ _

end PasswordHasher

end Mosp.Auth
