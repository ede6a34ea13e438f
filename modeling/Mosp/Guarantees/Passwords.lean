import Mosp.Auth.PasswordHasher

/-!
# Passwords

A stored password is accepted again, and besides it only what derives the same
key from the same salt.
-/

namespace Mosp.Guarantees

open Mosp.Data Mosp.Auth

/-- What was hashed is verified, and another attempt only if it derives the same key. -/
theorem password_verified {hasher : PasswordHasher}
    (documented : ∀ password salt key, hasher.scrypt password salt = .ok key →
      key.length = keyLength)
    {password stored : String} {salt : Bytes} (drawn : salt.length = saltLength)
    (hashed : hasher.hash password salt = .ok stored) :
    hasher.verify password stored = true ∧
      ∀ attempt, hasher.verify attempt stored = true ↔
        attempt ≠ "" ∧ hasher.scrypt attempt salt = hasher.scrypt password salt := by
  obtain ⟨long, -, key, derived, rfl⟩ := PasswordHasher.hash_eq_ok hashed
  have accepts : ∀ attempt, hasher.verify attempt (joinFields ["scrypt".toList,
      hashVersion.toList, Base64Url.ofBytes salt, Base64Url.ofBytes key]) = true ↔
        attempt ≠ "" ∧ hasher.scrypt attempt salt = hasher.scrypt password salt := by
    intro attempt
    rw [PasswordHasher.verify_eq_true, PasswordHasher.splitOn_joinFields, derived]
    refine and_congr Iff.rfl ?_
    constructor
    · rintro ⟨encodedSalt, encodedKey, rest, fields, -, -, same⟩
      simp only [List.cons.injEq, true_and] at fields
      obtain ⟨rfl, rfl, -⟩ := fields
      rwa [Base64Url.toBytes_ofBytes, Base64Url.toBytes_ofBytes] at same
    · intro same
      refine ⟨_, _, [], rfl, ?_⟩
      rw [Base64Url.toBytes_ofBytes, Base64Url.toBytes_ofBytes]
      exact ⟨drawn, documented password salt key derived, same⟩
  refine ⟨(accepts password).mpr ⟨?_, rfl⟩, accepts⟩
  rintro rfl
  contradiction

/-! ## Two passwords -/

namespace Hashing

/-- The salt of the example. -/
def salt : Bytes :=
  [0, 1, 2, 3, 4, 5, 6, 7, 8, 9, 10, 11, 12, 13, 14, 15]

/-- What `scrypt` makes of the password. -/
def rightKey : Bytes :=
  [233, 110, 198, 186, 140, 99, 162, 54, 152, 34, 15, 55, 199, 252, 4, 41, 37, 212, 48, 199, 254,
    173, 236, 156, 235, 4, 175, 3, 202, 187, 159, 47, 28, 173, 63, 207, 189, 89, 168, 123, 152,
    114, 220, 121, 218, 201, 130, 74, 44, 250, 200, 9, 3, 43, 42, 205, 52, 61, 22, 70, 75, 249,
    148, 136]

/-- What `scrypt` makes of the other attempt. -/
def wrongKey : Bytes :=
  [255, 93, 143, 73, 59, 36, 177, 40, 190, 225, 92, 224, 172, 117, 79, 80, 242, 52, 38, 168, 249,
    64, 78, 141, 204, 204, 112, 139, 248, 35, 12, 98, 234, 178, 120, 93, 133, 168, 14, 228, 241,
    255, 111, 146, 220, 253, 43, 78, 88, 125, 126, 54, 167, 177, 179, 13, 251, 209, 72, 47, 93, 56,
    201, 241]

/-- The two values of `scrypt`. -/
def hasher : PasswordHasher where
  scrypt password _ := .ok (if password = "correct horse battery" then rightKey else wrongKey)

theorem documented (password : String) (salt key : Bytes)
    (derived : hasher.scrypt password salt = .ok key) : key.length = keyLength := by
  rw [← Except.ok.inj derived]
  split <;> rfl

end Hashing

/-- The password is accepted, and the other attempt is not. -/
theorem password_verified_example : ∃ stored, Hashing.hasher.hash "correct horse battery" Hashing.salt =
    .ok stored ∧ Hashing.hasher.verify "correct horse battery" stored = true ∧
      Hashing.hasher.verify "incorrect horse battery" stored = false := by
  have length : ¬(passwordLength "correct horse battery" < 12 ∨
      256 < passwordLength "correct horse battery") := by
    decide
  have hashed : Hashing.hasher.hash "correct horse battery" Hashing.salt = .ok (joinFields
      ["scrypt".toList, hashVersion.toList, Base64Url.ofBytes Hashing.salt,
        Base64Url.ofBytes Hashing.rightKey]) := by
    unfold PasswordHasher.hash PasswordHasher.assertPassword
    rw [if_neg length]
    rfl
  obtain ⟨accepted, others⟩ := password_verified Hashing.documented rfl hashed
  refine ⟨_, hashed, accepted, Bool.eq_false_iff.mpr fun alsoAccepted => ?_⟩
  have same := ((others "incorrect horse battery").mp alsoAccepted).2
  have distinct : Hashing.wrongKey ≠ Hashing.rightKey := by decide
  exact distinct (Except.ok.inj same)

end Mosp.Guarantees
