import Mathlib.Data.List.Basic

/-!
# Ideal authenticated encryption

Decryption succeeds exactly on the key, nonce, associated data, ciphertext and tag that
encryption produced.
-/

namespace Mosp.Data

abbrev Bytes := List UInt8

/-- What encryption makes of a plaintext: a ciphertext of its length and a tag. -/
structure Aead where
  encrypt : (key nonce associated plaintext : Bytes) → Bytes × Bytes
  length_ciphertext : ∀ key nonce associated plaintext,
    (encrypt key nonce associated plaintext).1.length = plaintext.length
  length_tag : ∀ key nonce associated plaintext,
    (encrypt key nonce associated plaintext).2.length = 16
  injective : ∀ key nonce associated, Function.Injective (encrypt key nonce associated)

/-- An encryption that was made. -/
structure Sealed where
  key : Bytes
  nonce : Bytes
  associated : Bytes
  plaintext : Bytes
  ciphertext : Bytes
  tag : Bytes
deriving DecidableEq

namespace Aead

variable (aead : Aead)

/-- The record of an encryption. -/
def sealing (key nonce associated plaintext : Bytes) : Sealed where
  key := key
  nonce := nonce
  associated := associated
  plaintext := plaintext
  ciphertext := (aead.encrypt key nonce associated plaintext).1
  tag := (aead.encrypt key nonce associated plaintext).2

/-- All records come from encryptions. -/
def Produced (log : List Sealed) : Prop :=
  ∀ entry ∈ log,
    entry = aead.sealing entry.key entry.nonce entry.associated entry.plaintext

/-- Decryption, given the encryptions that were made. -/
def decrypt (log : List Sealed) (key nonce associated ciphertext tag : Bytes) : Option Bytes :=
  (log.find? fun entry => entry.key == key && entry.nonce == nonce &&
    entry.associated == associated && entry.ciphertext == ciphertext && entry.tag == tag).map
      Sealed.plaintext

variable {aead} {log : List Sealed} {key nonce associated ciphertext tag plaintext : Bytes}

theorem produced_sealing : aead.Produced [aead.sealing key nonce associated plaintext] := by
  intro entry member
  rw [List.mem_singleton.mp member]
  rfl

theorem Produced.append {more : List Sealed} (first : aead.Produced log)
    (second : aead.Produced more) : aead.Produced (log ++ more) := by
  intro entry member
  rcases List.mem_append.mp member with member | member
  · exact first entry member
  · exact second entry member

/-- What decrypts was produced. -/
theorem mem_of_decrypt
    (opened : decrypt log key nonce associated ciphertext tag = some plaintext) :
    ({ key, nonce, associated, plaintext, ciphertext, tag } : Sealed) ∈ log := by
  obtain ⟨entry, found, rfl⟩ := Option.map_eq_some_iff.mp opened
  have same := List.find?_some found
  simp only [Bool.and_eq_true, beq_iff_eq] at same
  obtain ⟨⟨⟨⟨rfl, rfl⟩, rfl⟩, rfl⟩, rfl⟩ := same
  exact List.mem_of_find?_eq_some found

/-- What was produced decrypts. -/
theorem decrypt_sealing (produced : aead.Produced log)
    (member : aead.sealing key nonce associated plaintext ∈ log) :
    decrypt log key nonce associated (aead.sealing key nonce associated plaintext).ciphertext
      (aead.sealing key nonce associated plaintext).tag = some plaintext := by
  cases opened : decrypt log key nonce associated
      (aead.sealing key nonce associated plaintext).ciphertext
      (aead.sealing key nonce associated plaintext).tag with
  | none =>
      have other := List.find?_eq_none.mp (Option.map_eq_none_iff.mp opened) _ member
      simp [sealing] at other
  | some found =>
      have other := produced _ (mem_of_decrypt opened)
      simp only [sealing, Sealed.mk.injEq, true_and] at other
      rw [aead.injective key nonce associated (Prod.ext other.1 other.2)]

end Aead

end Mosp.Data
