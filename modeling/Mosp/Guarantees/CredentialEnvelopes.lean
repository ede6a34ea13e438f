import Mosp.Provider.Envelopes

/-!
# Guarantees about credential envelopes

Envelopes are read back, stay bound to their provider connection and survive the rotation of
keys.
-/

namespace Mosp.Guarantees

open Mosp.Data Mosp.Data.Json Mosp.Provider
open Mosp.Provider.ProviderCredentialCipher
open Mosp.Provider.LocalFileKeyEncryptionKeyProvider (Knows readKeyEncryptionKey unwrapKey_ok_iff)

section

variable {aead : Aead} {platform : Platform} {provider : LocalFileKeyEncryptionKeyProvider}
  {random : RandomBytes} {providerConnectionId keyVersion : String}
  {payload : ProviderCredentialPayload} {key : Bytes} {later : List Sealed}

/-! ## Decryption -/

theorem encryptedDataKey_parts :
    (envelope aead random key keyVersion providerConnectionId payload).encryptedDataKey.length =
        60 ∧
      (envelope aead random key keyVersion providerConnectionId payload).encryptedDataKey.take 12 =
        random.wrapIv ∧
      (envelope aead random key keyVersion providerConnectionId payload).encryptedDataKey.drop 28 =
        (keySealing aead random key keyVersion).ciphertext ∧
      ((envelope aead random key keyVersion providerConnectionId
        payload).encryptedDataKey.drop 12).take 16 =
        (keySealing aead random key keyVersion).tag := by
  have iv := random.length_wrapIv
  have tag : (keySealing aead random key keyVersion).tag.length = 16 := aead.length_tag _ _ _ _
  have ciphertext : (keySealing aead random key keyVersion).ciphertext.length = 32 :=
    (aead.length_ciphertext _ _ _ _).trans random.length_dataKey
  unfold envelope
  dsimp only
  rw [List.append_assoc]
  constructor
  · simp only [List.length_append, iv, tag, ciphertext]
  constructor
  · exact List.take_left' iv
  constructor
  · rw [show 28 = 12 + 16 from rfl, ← List.drop_drop, List.drop_left' iv, List.drop_left' tag]
  · rw [List.drop_left' iv, List.take_left' tag]

/-- Who knows the key reads an envelope back, whatever else was encrypted. -/
theorem decrypt_envelope (knows : Knows platform provider keyVersion key)
    (valid : isCredentialPayload payload = true) (produced : aead.Produced later)
    (payloadSealed : payloadSealing aead random providerConnectionId payload ∈ later)
    (keySealed : keySealing aead random key keyVersion ∈ later) :
    decrypt platform provider later providerConnectionId
      (envelope aead random key keyVersion providerConnectionId payload) = .ok payload := by
  rw [decrypt_ok_iff]
  constructor
  · exact ⟨rfl, rfl, random.length_iv⟩
  · obtain ⟨length, iv, ciphertext, tag⟩ :=
      @encryptedDataKey_parts aead random providerConnectionId keyVersion payload key
    use random.dataKey
    constructor
    · rw [unwrapKey_ok_iff, iv, ciphertext, tag]
      exact ⟨length, key, knows, Aead.decrypt_sealing produced keySealed⟩
    · exact ⟨_, Aead.decrypt_sealing produced payloadSealed, read_credential platform valid⟩

/-! ## Tampering -/

/-- An encryption that has nothing to do with some random bytes. -/
structure Unrelated (random : RandomBytes) (entry : Sealed) : Prop where
  key : entry.key ≠ random.dataKey
  plaintext : entry.plaintext ≠ random.dataKey
  iv : entry.nonce ≠ random.iv
  wrapIv : entry.nonce ≠ random.wrapIv

/-- Of what was encrypted, only two encryptions belong to the envelope. -/
def Own (aead : Aead) (random : RandomBytes) (key : Bytes) (keyVersion : String)
    (providerConnectionId : String) (payload : ProviderCredentialPayload) (entry : Sealed) : Prop :=
  entry = payloadSealing aead random providerConnectionId payload ∨
    entry = keySealing aead random key keyVersion

/-- What decrypts is the envelope itself, for its own connection, or has neither its nonce nor
its data key, but those of other encryptions. -/
theorem decrypt_own
    (known : ∀ entry ∈ later,
      Own aead random key keyVersion providerConnectionId payload entry ∨ Unrelated random entry)
    {otherId : String} {encrypted : EncryptedProviderCredential}
    {other : ProviderCredentialPayload}
    (decrypted : decrypt platform provider later otherId encrypted = .ok other) :
    otherId = providerConnectionId ∧
        encrypted = envelope aead random key keyVersion providerConnectionId payload ∨
      (∃ entry ∈ later, Unrelated random entry ∧ entry.nonce = encrypted.iv) ∧
        ∃ entry ∈ later, Unrelated random entry ∧ entry.nonce = encrypted.encryptedDataKey.take 12 := by
  obtain ⟨⟨algorithm, version, -⟩, dataKey, unwrapped, text, opened, -⟩ :=
    decrypt_ok_iff.mp decrypted
  obtain ⟨length, wrappingKey, -, unwrapping⟩ := unwrapKey_ok_iff.mp unwrapped
  have payloadEntry := Aead.mem_of_decrypt opened
  have keyEntry := Aead.mem_of_decrypt unwrapping
  rcases known _ keyEntry with (ofPayload | ofKey) | keyOther
  · exact absurd (congrArg Sealed.associated ofPayload).symm
      (additionalAuthenticatedData_ne _ _)
  · left
    have sameKey : dataKey = random.dataKey := congrArg Sealed.plaintext ofKey
    rcases known _ payloadEntry with (ofPayload | ofKey') | payloadOther
    · constructor
      · exact additionalAuthenticatedData_injective (congrArg Sealed.associated ofPayload)
      · have versions : encrypted.keyVersion = keyVersion :=
          LocalFileKeyEncryptionKeyProvider.additionalAuthenticatedData_injective
            (congrArg Sealed.associated ofKey)
        have wrapIv : encrypted.encryptedDataKey.take 12 = random.wrapIv :=
          congrArg Sealed.nonce ofKey
        have wrapTag : (encrypted.encryptedDataKey.drop 12).take 16 =
            (keySealing aead random key keyVersion).tag := congrArg Sealed.tag ofKey
        have wrapped : encrypted.encryptedDataKey.drop 28 =
            (keySealing aead random key keyVersion).ciphertext :=
          congrArg Sealed.ciphertext ofKey
        have bytes : encrypted.encryptedDataKey =
            random.wrapIv ++ (keySealing aead random key keyVersion).tag ++
              (keySealing aead random key keyVersion).ciphertext := by
          rw [← wrapIv, ← wrapTag, ← wrapped, List.append_assoc]
          nth_rewrite 1 [← List.take_append_drop 12 encrypted.encryptedDataKey]
          nth_rewrite 1 [← List.take_append_drop 16 (encrypted.encryptedDataKey.drop 12)]
          rw [List.drop_drop]
        cases encrypted
        unfold envelope
        simp only [EncryptedProviderCredential.mk.injEq]
        exact ⟨algorithm, congrArg Sealed.tag ofPayload, bytes,
          congrArg Sealed.ciphertext ofPayload, version, congrArg Sealed.nonce ofPayload, versions⟩
    · exact absurd (congrArg Sealed.associated ofKey') (additionalAuthenticatedData_ne _ _)
    · exact absurd sameKey payloadOther.key
  · right
    rcases known _ payloadEntry with (ofPayload | ofKey) | payloadOther
    · exact absurd (congrArg Sealed.key ofPayload) keyOther.plaintext
    · exact absurd (congrArg Sealed.associated ofKey) (additionalAuthenticatedData_ne _ _)
    · exact ⟨⟨_, payloadEntry, payloadOther, rfl⟩, _, keyEntry, keyOther, rfl⟩

/-- What shares the nonce or the data key of an envelope and is not the envelope does not
decrypt. -/
theorem decrypt_tampered
    (known : ∀ entry ∈ later,
      Own aead random key keyVersion providerConnectionId payload entry ∨
        Unrelated random entry)
    {otherId : String} {encrypted : EncryptedProviderCredential}
    (shares : encrypted.iv = random.iv ∨ encrypted.encryptedDataKey =
      (envelope aead random key keyVersion providerConnectionId payload).encryptedDataKey)
    (differs : ¬(otherId = providerConnectionId ∧
      encrypted = envelope aead random key keyVersion providerConnectionId payload)) :
    ∃ error, decrypt platform provider later otherId encrypted = .error error := by
  cases decrypted : decrypt platform provider later otherId encrypted with
  | error error => exact ⟨error, rfl⟩
  | ok other =>
      rcases decrypt_own known decrypted with own | ⟨⟨_, -, payloadOther, iv⟩, _, -, keyOther, wrapIv⟩
      · exact absurd own differs
      · rcases shares with sameIv | sameKey
        · exact absurd (iv.trans sameIv) payloadOther.iv
        · rw [sameKey, encryptedDataKey_parts.2.1] at wrapIv
          exact absurd wrapIv keyOther.wrapIv

/-- If nothing else was encrypted, nothing but the envelope decrypts. -/
theorem decrypt_alone
    (own : ∀ entry ∈ later, Own aead random key keyVersion providerConnectionId payload entry)
    {otherId : String} {encrypted : EncryptedProviderCredential}
    (differs : ¬(otherId = providerConnectionId ∧
      encrypted = envelope aead random key keyVersion providerConnectionId payload)) :
    ∃ error, decrypt platform provider later otherId encrypted = .error error := by
  cases decrypted : decrypt platform provider later otherId encrypted with
  | error error => exact ⟨error, rfl⟩
  | ok other =>
      obtain ⟨⟨-, -, length⟩, dataKey, unwrapped, text, opened, -⟩ := decrypt_ok_iff.mp decrypted
      obtain ⟨-, wrappingKey, -, unwrapping⟩ := unwrapKey_ok_iff.mp unwrapped
      have shares : encrypted.iv = random.iv := by
        rcases own _ (Aead.mem_of_decrypt opened) with ofPayload | ofKey
        · exact congrArg Sealed.nonce ofPayload
        · exact absurd (congrArg Sealed.associated ofKey) (additionalAuthenticatedData_ne _ _)
      obtain ⟨error, failed⟩ := @decrypt_tampered aead platform provider random
        providerConnectionId keyVersion payload key later
        (fun entry member => .inl (own entry member)) otherId encrypted (.inl shares) differs
      rw [failed] at decrypted
      cases decrypted

/-- Nothing decrypts under a version that is neither the current nor a previous one. -/
theorem decrypt_unknown {encrypted : EncryptedProviderCredential}
    (other : encrypted.keyVersion ≠ provider.keyVersion)
    (unlisted : provider.previousKeyFiles.lookup encrypted.keyVersion = none) :
    ∃ error, decrypt platform provider later providerConnectionId encrypted = .error error := by
  cases decrypted : decrypt platform provider later providerConnectionId encrypted with
  | error error => exact ⟨error, rfl⟩
  | ok payload =>
      obtain ⟨-, dataKey, unwrapped, -⟩ := decrypt_ok_iff.mp decrypted
      obtain ⟨error, failed⟩ := @LocalFileKeyEncryptionKeyProvider.unwrapKey_unknown platform
        provider encrypted.keyVersion encrypted.encryptedDataKey later other unlisted
      rw [failed] at unwrapped
      cases unwrapped

/-! ## Rotation -/

/-- A provider with its current key, and the random bytes of an encryption under it. -/
structure Rotation where
  platform : Platform
  provider : LocalFileKeyEncryptionKeyProvider
  random : RandomBytes
  key : Bytes
  current : Knows platform provider provider.keyVersion key

/-- The later provider still knows the key of the earlier one. -/
def Follows (before after : Rotation) : Prop :=
  Knows after.platform after.provider before.provider.keyVersion before.key

/-- The envelope of a payload under the current key. -/
def Rotation.envelope (rotation : Rotation) (aead : Aead) (providerConnectionId : String)
    (payload : ProviderCredentialPayload) : EncryptedProviderCredential :=
  ProviderCredentialCipher.envelope aead rotation.random rotation.key rotation.provider.keyVersion
    providerConnectionId payload

/-- The encryptions for it. -/
def Rotation.sealings (rotation : Rotation) (aead : Aead) (providerConnectionId : String)
    (payload : ProviderCredentialPayload) : List Sealed :=
  [payloadSealing aead rotation.random providerConnectionId payload,
    keySealing aead rotation.random rotation.key rotation.provider.keyVersion]

theorem Rotation.produced (rotation : Rotation) :
    aead.Produced (rotation.sealings aead providerConnectionId payload) :=
  Aead.produced_sealing.append Aead.produced_sealing

/-- Encrypt again under one provider after the other. -/
def reEncryptAll (aead : Aead) (providerConnectionId : String) :
    List Rotation → EncryptedProviderCredential → List Sealed →
      Except String (EncryptedProviderCredential × List Sealed)
  | [], encrypted, log => .ok (encrypted, log)
  | rotation :: rest, encrypted, log => do
      let (encrypted, log) ← reEncrypt aead rotation.platform rotation.provider rotation.random
        providerConnectionId encrypted log
      reEncryptAll aead providerConnectionId rest encrypted log

/-- Re-encryption under a provider that knows the key of the envelope. -/
theorem reEncrypt_envelope {after : Rotation}
    (knows : Knows after.platform after.provider keyVersion key)
    (valid : isCredentialPayload payload = true) (produced : aead.Produced later)
    (payloadSealed : payloadSealing aead random providerConnectionId payload ∈ later)
    (keySealed : keySealing aead random key keyVersion ∈ later) :
    reEncrypt aead after.platform after.provider after.random providerConnectionId
        (envelope aead random key keyVersion providerConnectionId payload) later =
      .ok (after.envelope aead providerConnectionId payload,
        later ++ after.sealings aead providerConnectionId payload) := by
  rw [reEncrypt, decrypt_envelope knows valid produced payloadSealed keySealed]
  exact encrypt_ok after.current valid

theorem reEncryptAll_ok (start : Rotation) (steps : List Rotation)
    (chain : List.IsChain Follows (start :: steps)) (valid : isCredentialPayload payload = true)
    (produced : aead.Produced later)
    (present : start.sealings aead providerConnectionId payload ⊆ later) :
    ∃ log, reEncryptAll aead providerConnectionId steps
        (start.envelope aead providerConnectionId payload) later =
        .ok (((start :: steps).getLast (List.cons_ne_nil _ _)).envelope aead providerConnectionId
          payload, log) ∧
      aead.Produced log ∧
      ((start :: steps).getLast (List.cons_ne_nil _ _)).sealings aead providerConnectionId
        payload ⊆ log := by
  induction steps generalizing start later with
  | nil => exact ⟨later, rfl, produced, present⟩
  | cons step steps ih =>
      obtain ⟨follows, chain⟩ := List.isChain_cons_cons.mp chain
      obtain ⟨log, ends, producedLog, kept⟩ := ih step chain
        (produced.append step.produced) (List.subset_append_right _ _)
      refine ⟨log, ?_, producedLog, kept⟩
      have first := reEncrypt_envelope follows valid produced
        (present List.mem_cons_self) (present (List.mem_cons_of_mem _ List.mem_cons_self))
      rw [reEncryptAll, Rotation.envelope, first]
      exact ends

/-! ## The guarantees -/

/-- What holds of an envelope that was made when `log` had been encrypted, with the encryptions
`after` it. -/
structure Protected (aead : Aead) (start : Rotation) (providerConnectionId : String)
    (payload : ProviderCredentialPayload) (log after : List Sealed)
    (envelope : EncryptedProviderCredential) : Prop where
  readBack : ∀ later, aead.Produced later → after ⊆ later →
    decrypt start.platform start.provider later providerConnectionId envelope = .ok payload
  /-- It is bound to its connection and cannot be changed as long as the nonce or the data key
  stays. -/
  tampered : ∀ later, (∀ entry ∈ later, entry ∈ after ∨ Unrelated start.random entry) →
    ∀ (platform : Platform) (provider : LocalFileKeyEncryptionKeyProvider) (otherId : String)
      (encrypted : EncryptedProviderCredential),
      encrypted.iv = envelope.iv ∨ encrypted.encryptedDataKey = envelope.encryptedDataKey →
      ¬(otherId = providerConnectionId ∧ encrypted = envelope) →
      ∃ error, decrypt platform provider later otherId encrypted = .error error
  /-- If nothing else was encrypted, it cannot be changed at all. -/
  alone : log = [] →
    ∀ (platform : Platform) (provider : LocalFileKeyEncryptionKeyProvider) (otherId : String)
      (encrypted : EncryptedProviderCredential),
      ¬(otherId = providerConnectionId ∧ encrypted = envelope) →
      ∃ error, decrypt platform provider after otherId encrypted = .error error
  unknown : ∀ (platform : Platform) (provider : LocalFileKeyEncryptionKeyProvider)
    (later : List Sealed), envelope.keyVersion ≠ provider.keyVersion →
    provider.previousKeyFiles.lookup envelope.keyVersion = none →
    ∃ error, decrypt platform provider later providerConnectionId envelope = .error error
  /-- A provider that has the version among its previous ones, and another current one. -/
  rotated : ∀ (rotation : Rotation) (keyFilePath : String),
    rotation.provider.previousKeyFiles.lookup envelope.keyVersion = some keyFilePath →
    keyFilePath ≠ "" → readKeyEncryptionKey rotation.platform keyFilePath = .ok start.key →
    envelope.keyVersion ≠ rotation.provider.keyVersion →
    ∀ later, aead.Produced later → after ⊆ later → ∃ renewed log,
      reEncrypt aead rotation.platform rotation.provider rotation.random providerConnectionId
        envelope later = .ok (renewed, log) ∧
      renewed.keyVersion = rotation.provider.keyVersion ∧
      decrypt rotation.platform rotation.provider log providerConnectionId renewed = .ok payload
  chain : ∀ steps, List.IsChain Follows (start :: steps) →
    ∀ later, aead.Produced later → after ⊆ later → ∃ renewed log,
      reEncryptAll aead providerConnectionId steps envelope later = .ok (renewed, log) ∧
      renewed.keyVersion = ((start :: steps).getLast (List.cons_ne_nil _ _)).provider.keyVersion ∧
      decrypt ((start :: steps).getLast (List.cons_ne_nil _ _)).platform
        ((start :: steps).getLast (List.cons_ne_nil _ _)).provider log providerConnectionId
        renewed = .ok payload

theorem Rotation.decrypt_envelope (rotation : Rotation) (valid : isCredentialPayload payload = true)
    (produced : aead.Produced later)
    (present : rotation.sealings aead providerConnectionId payload ⊆ later) :
    decrypt rotation.platform rotation.provider later providerConnectionId
      (rotation.envelope aead providerConnectionId payload) = .ok payload :=
  Guarantees.decrypt_envelope rotation.current valid produced (present List.mem_cons_self)
    (present (List.mem_cons_of_mem _ List.mem_cons_self))

/-- A previous version with another name than the current one is known. -/
theorem knows_previous {keyFilePath : String}
    (listed : provider.previousKeyFiles.lookup keyVersion = some keyFilePath)
    (nonempty : keyFilePath ≠ "") (read : readKeyEncryptionKey platform keyFilePath = .ok key)
    (other : keyVersion ≠ provider.keyVersion) : Knows platform provider keyVersion key := by
  refine ⟨keyFilePath, ?_, nonempty, read⟩
  simp [LocalFileKeyEncryptionKeyProvider.keyFileOf, other, property, listed]

/-- Encryption under a key that can be read succeeds, and its envelope is protected. -/
theorem credential_envelopes_protected (aead : Aead) (start : Rotation)
    (providerConnectionId : String) (payload : ProviderCredentialPayload)
    (valid : isCredentialPayload payload = true) (log : List Sealed)
    (unrelated : ∀ entry ∈ log, Unrelated start.random entry) :
    ∃ envelope after,
      encrypt aead start.platform start.provider start.random providerConnectionId payload log =
        .ok (envelope, after) ∧
      envelope.keyVersion = start.provider.keyVersion ∧
      Protected aead start providerConnectionId payload log after envelope := by
  have present : start.sealings aead providerConnectionId payload ⊆
      log ++ start.sealings aead providerConnectionId payload :=
    List.subset_append_right _ _
  have ours {entry : Sealed} (inside : entry ∈ start.sealings aead providerConnectionId payload) :
      Own aead start.random start.key start.provider.keyVersion providerConnectionId payload
        entry := by
    unfold Own
    simpa [Rotation.sealings] using inside
  refine ⟨start.envelope aead providerConnectionId payload,
    log ++ start.sealings aead providerConnectionId payload, encrypt_ok start.current valid, rfl,
    ?_⟩
  constructor
  · intro later produced kept
    exact start.decrypt_envelope valid produced (List.Subset.trans present kept)
  · intro later known platform provider otherId encrypted shares differs
    apply decrypt_tampered _ shares differs
    intro entry member
    rcases known entry member with inside | other
    · rcases List.mem_append.mp inside with before | own
      · exact .inr (unrelated entry before)
      · exact .inl (ours own)
    · exact .inr other
  · rintro rfl platform provider otherId encrypted differs
    apply decrypt_alone _ differs
    exact fun entry member => ours member
  · intro platform provider later other unlisted
    exact decrypt_unknown other unlisted
  · intro rotation keyFilePath listed nonempty read other later produced kept
    have own := List.Subset.trans present kept
    refine ⟨_, _, reEncrypt_envelope (knows_previous listed nonempty read other) valid produced
      (own List.mem_cons_self) (own (List.mem_cons_of_mem _ List.mem_cons_self)), rfl, ?_⟩
    exact rotation.decrypt_envelope valid (produced.append rotation.produced)
      (List.subset_append_right _ _)
  · intro steps chain later produced kept
    obtain ⟨log, ends, producedLog, own⟩ :=
      reEncryptAll_ok start steps chain valid produced (List.Subset.trans present kept)
    exact ⟨_, log, ends, rfl, Rotation.decrypt_envelope _ valid producedLog own⟩

end

namespace Envelopes

/-- What AES-256-GCM makes of the two plaintexts of `credential_envelopes_protected_example`. -/
def outputs : List Sealed :=
  [{ key := List.replicate 32 1
     nonce := List.replicate 12 2
     associated := ProviderCredentialCipher.additionalAuthenticatedData "provider-a"
     plaintext := utf8 "\x7b\"accessKeyId\":\"a\",\"secretAccessKey\":\"b\"\x7d"
     ciphertext := [124, 244, 168, 42, 41, 50, 178, 142, 152, 169, 197, 129, 56, 133, 248, 144,
       195, 151, 253, 205, 152, 212, 238, 3, 184, 243, 161, 152, 27, 158, 7, 12, 60, 26, 103, 21,
       87, 77, 193, 205, 58]
     tag := [82, 91, 55, 33, 208, 202, 88, 198, 155, 205, 31, 29, 252, 152, 74, 109] },
   { key := List.replicate 32 0
     nonce := List.replicate 12 3
     associated := LocalFileKeyEncryptionKeyProvider.additionalAuthenticatedData "local-v1"
     plaintext := List.replicate 32 1
     ciphertext := [153, 50, 53, 37, 203, 7, 61, 145, 38, 54, 20, 23, 172, 38, 199, 24, 190, 171,
       159, 15, 63, 4, 208, 126, 172, 163, 189, 254, 222, 245, 223, 3]
     tag := [208, 191, 61, 216, 169, 27, 66, 19, 101, 62, 104, 141, 222, 229, 9, 150] }]

/-- Elsewhere the ciphertext is the plaintext, under a tag of zeros. -/
def encrypt (key nonce associated plaintext : Bytes) : Bytes × Bytes :=
  match outputs.find? fun entry => entry.key == key && entry.nonce == nonce &&
      entry.associated == associated && entry.plaintext == plaintext with
  | some entry => (entry.ciphertext, entry.tag)
  | none => (plaintext, List.replicate 16 0)

theorem outputs_lengths : ∀ entry ∈ outputs, entry.ciphertext.length = entry.plaintext.length ∧
    entry.tag.length = 16 ∧ entry.tag ≠ List.replicate 16 0 := by
  decide +kernel

theorem outputs_apart : ∀ first ∈ outputs, ∀ second ∈ outputs,
    first.tag = second.tag → first.plaintext = second.plaintext := by
  decide +kernel

theorem encrypt_cases (key nonce associated plaintext : Bytes) :
    (∃ entry ∈ outputs, entry.plaintext = plaintext ∧
      encrypt key nonce associated plaintext = (entry.ciphertext, entry.tag)) ∨
    encrypt key nonce associated plaintext = (plaintext, List.replicate 16 0) := by
  unfold encrypt
  split
  · rename_i entry found
    have same := List.find?_some found
    simp only [Bool.and_eq_true, beq_iff_eq] at same
    exact .inl ⟨entry, List.mem_of_find?_eq_some found, same.2, rfl⟩
  · exact .inr rfl

def gcm : Aead where
  encrypt := encrypt
  length_ciphertext := by
    intro key nonce associated plaintext
    rcases encrypt_cases key nonce associated plaintext with ⟨entry, listed, rfl, made⟩ | made
    · rw [made]
      exact (outputs_lengths entry listed).1
    · rw [made]
  length_tag := by
    intro key nonce associated plaintext
    rcases encrypt_cases key nonce associated plaintext with ⟨entry, listed, -, made⟩ | made
    · rw [made]
      exact (outputs_lengths entry listed).2.1
    · rw [made, List.length_replicate]
  injective := by
    intro key nonce associated first second same
    rcases encrypt_cases key nonce associated first with ⟨entry, listed, rfl, made⟩ | made <;>
      rcases encrypt_cases key nonce associated second with
        ⟨other, otherListed, rfl, otherMade⟩ | otherMade <;>
      rw [made, otherMade, Prod.mk.injEq] at same
    · exact outputs_apart entry listed other otherListed same.2
    · exact absurd same.2 (outputs_lengths entry listed).2.2
    · exact absurd same.2.symm (outputs_lengths other otherListed).2.2
    · exact same.1

/-- Two key files. -/
def platform : Platform where
  file path :=
    if path = "kek-v1" then .ok ⟨0o100600, "AAAAAAAAAAAAAAAAAAAAAAAAAAAAAAAAAAAAAAAAAAA"⟩
    else if path = "kek-v2" then .ok ⟨0o100600, "__________________________________________8"⟩
    else .error "ENOENT: no such file or directory"
  fromBase64url text :=
    if text = "AAAAAAAAAAAAAAAAAAAAAAAAAAAAAAAAAAAAAAAAAAA" then List.replicate 32 0
    else if text = "__________________________________________8" then List.replicate 32 255
    else []
  fromMalformed _ := "\uFFFD"

def provider : LocalFileKeyEncryptionKeyProvider where
  keyFilePath := "kek-v1"
  validVersion := by decide
  validPrevious := by decide

/-- The name of the current version is also that of a previous one. -/
def shadowing : LocalFileKeyEncryptionKeyProvider where
  keyFilePath := "kek-v2"
  previousKeyFiles := [("local-v1", "kek-v1")]
  validVersion := by decide
  validPrevious := by decide

def random : RandomBytes where
  dataKey := List.replicate 32 1
  iv := List.replicate 12 2
  wrapIv := List.replicate 12 3
  length_dataKey := rfl
  length_iv := rfl
  length_wrapIv := rfl

theorem read_first : readKeyEncryptionKey platform "kek-v1" = .ok (List.replicate 32 0) := by
  rfl

theorem read_second : readKeyEncryptionKey platform "kek-v2" = .ok (List.replicate 32 255) := by
  rfl

def start : Rotation where
  platform := platform
  provider := provider
  random := random
  key := List.replicate 32 0
  current := ⟨"kek-v1", rfl, by decide, read_first⟩

def shadowed : Rotation where
  platform := platform
  provider := shadowing
  random := random
  key := List.replicate 32 255
  current := ⟨"kek-v2", rfl, by decide, read_second⟩

def payload : ProviderCredentialPayload where
  accessKeyId := keyText "a"
  secretAccessKey := keyText "b"

end Envelopes

open Envelopes in
/-- An envelope is made, and whoever has the key reads it back. -/
theorem credential_envelopes_protected_example :
    ∃ envelope after,
      encrypt gcm start.platform start.provider start.random "provider-a" payload [] =
        .ok (envelope, after) ∧ envelope.keyVersion = "local-v1" ∧
      Protected gcm start "provider-a" payload [] after envelope :=
  credential_envelopes_protected gcm start "provider-a" payload (by decide) [] nofun

open Envelopes in
/-- A provider whose previous keys include the version of an envelope does not decrypt it if its
current version has the same name. -/
theorem shadowed_version_lost :
    ¬∀ (aead : Aead) (start rotation : Rotation) (providerConnectionId : String)
      (payload : ProviderCredentialPayload) (keyFilePath : String),
      isCredentialPayload payload = true →
      rotation.provider.previousKeyFiles.lookup start.provider.keyVersion = some keyFilePath →
      keyFilePath ≠ "" → readKeyEncryptionKey rotation.platform keyFilePath = .ok start.key →
      ∃ renewed log, reEncrypt aead rotation.platform rotation.provider rotation.random
        providerConnectionId (start.envelope aead providerConnectionId payload)
        (start.sealings aead providerConnectionId payload) = .ok (renewed, log) := by
  intro always
  have differ : (List.replicate 32 255 : Bytes) ≠ List.replicate 32 1 ∧
      (List.replicate 32 255 : Bytes) ≠ List.replicate 32 0 := by
    decide
  obtain ⟨renewed, log, renews⟩ := always gcm start shadowed "provider-a" payload "kek-v1"
    (by decide) rfl (by decide) read_first
  unfold reEncrypt at renews
  cases decrypted : decrypt shadowed.platform shadowed.provider
      (start.sealings gcm "provider-a" payload) "provider-a"
      (start.envelope gcm "provider-a" payload) with
  | error error =>
      rw [decrypted] at renews
      cases renews
  | ok payload =>
      obtain ⟨-, dataKey, unwrapped, -⟩ := decrypt_ok_iff.mp decrypted
      obtain ⟨-, key, knows, unwrapping⟩ := unwrapKey_ok_iff.mp unwrapped
      obtain rfl := knows.unique shadowed.current
      have known := Aead.mem_of_decrypt unwrapping
      simp only [Rotation.sealings, List.mem_cons, List.not_mem_nil, or_false] at known
      rcases known with ofPayload | ofKey
      · exact differ.1 (congrArg Sealed.key ofPayload)
      · exact differ.2 (congrArg Sealed.key ofKey)

end Mosp.Guarantees
