import Mosp.Provider.CredentialCipher

/-!
# Envelopes

When a data key is unwrapped and an envelope decrypted, and what an encryption leaves behind.
-/

namespace Mosp.Provider

open Mosp.Data Mosp.Data.Json

/-! ## Texts and payloads -/

theorem utf8_injective : Function.Injective utf8 := by
  intro first second same
  apply String.toByteArray_inj.mp
  apply ByteArray.ext
  exact Array.toList_inj.mp same

theorem fromUtf8_utf8 (platform : Platform) (text : String) :
    fromUtf8 platform (utf8 text) = text := by
  have bytes : (⟨(utf8 text).toArray⟩ : ByteArray) = text.toByteArray := rfl
  rw [fromUtf8, bytes, String.fromUTF8?, dif_pos text.isValidUTF8]
  rfl

/-- The schema accepts the parsed text of a payload that it accepts. -/
theorem parseCredential_members {payload : ProviderCredentialPayload}
    (valid : isCredentialPayload payload = true) :
    parseCredential (.object ((credentialMembers payload).map fun entry =>
      (entry.1, .string entry.2))) = some payload := by
  have differ : (keyText "accessKeyId" == keyText "secretAccessKey") = false ∧
      (keyText "accessKeyId" == keyText "sessionToken") = false ∧
      (keyText "secretAccessKey" == keyText "sessionToken") = false ∧
      (keyText "sessionToken" == keyText "secretAccessKey") = false ∧
      (keyText "sessionToken" == keyText "accessKeyId") = false := by
    decide
  obtain ⟨accessKeyId, secretAccessKey, sessionToken⟩ := payload
  cases sessionToken with
  | none => simp [parseCredential, credentialMembers, member, stringOf, differ, valid, List.lookup]
  | some sessionToken =>
      simp [parseCredential, credentialMembers, member, stringOf, differ, valid, List.lookup]

theorem credentialMembers_ne_nil (payload : ProviderCredentialPayload) :
    credentialMembers payload ≠ [] := by
  simp [credentialMembers]

/-- What is encrypted is read back. -/
theorem read_credential (platform : Platform) {payload : ProviderCredentialPayload}
    (valid : isCredentialPayload payload = true) :
    (parse (fromUtf8 platform (utf8 (stringify (credentialMembers payload))))).bind
      parseCredential = some payload := by
  rw [fromUtf8_utf8, parse_stringify (credentialMembers_ne_nil payload), Option.bind_some,
    parseCredential_members valid]

/-! ## Data keys -/

namespace LocalFileKeyEncryptionKeyProvider

theorem additionalAuthenticatedData_injective :
    Function.Injective additionalAuthenticatedData :=
  fun _ _ same => (String.append_right_inj _).mp (utf8_injective same)

/-- The provider knows the key of a version. -/
structure Knows (platform : Platform) (provider : LocalFileKeyEncryptionKeyProvider)
    (keyVersion : String) (key : Bytes) : Prop where
  readable : ∃ keyFilePath, provider.keyFileOf keyVersion = .text keyFilePath ∧
    keyFilePath ≠ "" ∧ readKeyEncryptionKey platform keyFilePath = .ok key

variable {aead : Aead} {platform : Platform} {provider : LocalFileKeyEncryptionKeyProvider}
  {keyVersion : String} {key dataKey encryptedDataKey : Bytes} {log : List Sealed}

/-- There is one key for a version. -/
theorem Knows.unique {other : Bytes} (first : Knows platform provider keyVersion key)
    (second : Knows platform provider keyVersion other) : key = other := by
  obtain ⟨path, found, -, read⟩ := first.readable
  obtain ⟨otherPath, otherFound, -, otherRead⟩ := second.readable
  obtain rfl : path = otherPath := by
    rw [found] at otherFound
    exact Property.text.inj otherFound
  rw [read] at otherRead
  exact Except.ok.inj otherRead

theorem Knows.current (knows : Knows platform provider provider.keyVersion key) :
    readKeyEncryptionKey platform provider.keyFilePath = .ok key := by
  obtain ⟨path, found, -, read⟩ := knows.readable
  rw [keyFileOf, if_pos rfl] at found
  rwa [Property.text.inj found]

theorem wrapKey_ok {iv : Bytes} (knows : Knows platform provider provider.keyVersion key)
    (length : dataKey.length = 32) :
    provider.wrapKey aead platform iv dataKey =
      .ok ({ encryptedDataKey := iv ++
              (aead.sealing key iv (additionalAuthenticatedData provider.keyVersion)
                dataKey).tag ++
              (aead.sealing key iv (additionalAuthenticatedData provider.keyVersion)
                dataKey).ciphertext
             keyVersion := provider.keyVersion },
        aead.sealing key iv (additionalAuthenticatedData provider.keyVersion) dataKey) := by
  unfold wrapKey
  rw [if_neg (not_not_intro length), knows.current]
  rfl

/-- A data key is unwrapped if its version is known and the bytes are what a wrapping left. -/
theorem unwrapKey_ok_iff :
    provider.unwrapKey platform log encryptedDataKey keyVersion = .ok dataKey ↔
      encryptedDataKey.length = 60 ∧ ∃ key, Knows platform provider keyVersion key ∧
        Aead.decrypt log key (encryptedDataKey.take 12) (additionalAuthenticatedData keyVersion)
          (encryptedDataKey.drop 28) ((encryptedDataKey.drop 12).take 16) = some dataKey := by
  unfold unwrapKey
  dsimp only
  constructor
  · intro unwrapped
    by_cases unnamed : provider.keyFileOf keyVersion = .undefined ∨
        provider.keyFileOf keyVersion = .text ""
    · rw [if_pos unnamed] at unwrapped
      cases unwrapped
    rw [if_neg unnamed] at unwrapped
    by_cases length : encryptedDataKey.length = 60
    · rw [if_neg (not_not_intro length)] at unwrapped
      cases found : provider.keyFileOf keyVersion with
      | undefined => exact absurd (.inl found) unnamed
      | inherited description =>
          rw [found] at unwrapped
          cases unwrapped
      | text path =>
          rw [found] at unwrapped
          cases read : readKeyEncryptionKey platform path with
          | error error =>
              simp only [read] at unwrapped
              cases unwrapped
          | ok key =>
              refine ⟨length, key, ⟨path, found, ?_, read⟩, ?_⟩
              · rintro rfl
                exact unnamed (.inr found)
              · simp only [read, bind, Except.bind, pure, Except.pure] at unwrapped
                split at unwrapped
                · rename_i opened
                  rw [opened, Except.ok.inj unwrapped]
                · cases unwrapped
    · rw [if_pos length] at unwrapped
      cases unwrapped
  · rintro ⟨length, key, ⟨path, found, nonempty, read⟩, opened⟩
    have named : ¬(provider.keyFileOf keyVersion = .undefined ∨
        provider.keyFileOf keyVersion = .text "") := by
      simp [found, nonempty]
    rw [if_neg named, if_neg (not_not_intro length), found]
    simp [read, opened, bind, Except.bind, pure, Except.pure]

/-- No data key is unwrapped under a version that is neither the current nor a previous one. -/
theorem unwrapKey_unknown (other : keyVersion ≠ provider.keyVersion)
    (unlisted : provider.previousKeyFiles.lookup keyVersion = none) :
    ∃ error, provider.unwrapKey platform log encryptedDataKey keyVersion = .error error := by
  cases unwrapped : provider.unwrapKey platform log encryptedDataKey keyVersion with
  | error error => exact ⟨error, rfl⟩
  | ok dataKey =>
      obtain ⟨-, key, ⟨path, found, -⟩, -⟩ := unwrapKey_ok_iff.mp unwrapped
      simp only [keyFileOf, if_neg other, property, unlisted] at found
      cases inherits : inheritedProperties.lookup keyVersion with
      | none => simp [inherits] at found
      | some description => simp [inherits] at found

end LocalFileKeyEncryptionKeyProvider

/-! ## Envelopes -/

namespace ProviderCredentialCipher

open LocalFileKeyEncryptionKeyProvider (Knows)

theorem additionalAuthenticatedData_injective :
    Function.Injective additionalAuthenticatedData :=
  fun _ _ same => (String.append_right_inj _).mp (utf8_injective same)

/-- Payloads and data keys are encrypted with different data. -/
theorem additionalAuthenticatedData_ne (providerConnectionId keyVersion : String) :
    additionalAuthenticatedData providerConnectionId ≠
      LocalFileKeyEncryptionKeyProvider.additionalAuthenticatedData keyVersion := by
  intro same
  have letters := congrArg (fun text => text.toList[14]?) (utf8_injective same)
  simp only [String.toList_append] at letters
  rw [List.getElem?_append_left (by decide), List.getElem?_append_left (by decide)] at letters
  exact absurd letters (by decide)

variable {aead : Aead} {platform : Platform} {provider : LocalFileKeyEncryptionKeyProvider}
  {random : RandomBytes} {providerConnectionId : String} {payload : ProviderCredentialPayload}
  {encrypted : EncryptedProviderCredential} {log : List Sealed} {key : Bytes}

/-- The encryption of a payload. -/
def payloadSealing (aead : Aead) (random : RandomBytes) (providerConnectionId : String)
    (payload : ProviderCredentialPayload) : Sealed :=
  aead.sealing random.dataKey random.iv (additionalAuthenticatedData providerConnectionId)
    (utf8 (stringify (credentialMembers payload)))

/-- The encryption of its data key. -/
def keySealing (aead : Aead) (random : RandomBytes) (key : Bytes) (keyVersion : String) : Sealed :=
  aead.sealing key random.wrapIv
    (LocalFileKeyEncryptionKeyProvider.additionalAuthenticatedData keyVersion) random.dataKey

/-- The envelope of a payload under a key. -/
def envelope (aead : Aead) (random : RandomBytes) (key : Bytes) (keyVersion : String)
    (providerConnectionId : String) (payload : ProviderCredentialPayload) :
    EncryptedProviderCredential where
  algorithm := "aes-256-gcm"
  authTag := (payloadSealing aead random providerConnectionId payload).tag
  encryptedDataKey := random.wrapIv ++ (keySealing aead random key keyVersion).tag ++
    (keySealing aead random key keyVersion).ciphertext
  encryptedPayload := (payloadSealing aead random providerConnectionId payload).ciphertext
  formatVersion := 1
  iv := random.iv
  keyVersion := keyVersion

theorem encrypt_ok (knows : Knows platform provider provider.keyVersion key)
    (valid : isCredentialPayload payload = true) :
    encrypt aead platform provider random providerConnectionId payload log =
      .ok (envelope aead random key provider.keyVersion providerConnectionId payload,
        log ++ [payloadSealing aead random providerConnectionId payload,
          keySealing aead random key provider.keyVersion]) := by
  unfold encrypt
  rw [valid, if_neg (by decide)]
  dsimp only
  rw [LocalFileKeyEncryptionKeyProvider.wrapKey_ok knows random.length_dataKey]
  rfl

/-- An envelope decrypts if its data key is unwrapped and was used to encrypt the text of a
payload for the same connection. -/
theorem decrypt_ok_iff :
    decrypt platform provider log providerConnectionId encrypted = .ok payload ↔
      (encrypted.algorithm = "aes-256-gcm" ∧ encrypted.formatVersion = 1 ∧
        encrypted.iv.length = 12) ∧
      ∃ dataKey, provider.unwrapKey platform log encrypted.encryptedDataKey encrypted.keyVersion =
          .ok dataKey ∧
        ∃ text, Aead.decrypt log dataKey encrypted.iv
            (additionalAuthenticatedData providerConnectionId) encrypted.encryptedPayload
            encrypted.authTag = some text ∧
          (parse (fromUtf8 platform text)).bind parseCredential = some payload := by
  unfold decrypt
  by_cases format : encrypted.algorithm ≠ "aes-256-gcm" ∨ encrypted.formatVersion ≠ 1 ∨
      encrypted.iv.length ≠ 12
  · rw [if_pos format]
    constructor
    · intro decrypted
      cases decrypted
    · rintro ⟨⟨algorithm, version, length⟩, -⟩
      exact absurd format (by simp [algorithm, version, length])
  · rw [if_neg format]
    simp only [ne_eq, not_or, not_not] at format
    simp only [format, and_self, true_and]
    cases unwrapped : provider.unwrapKey platform log encrypted.encryptedDataKey
        encrypted.keyVersion with
    | error error => simp [bind, Except.bind]
    | ok dataKey =>
        simp only [bind, Except.bind, pure, Except.pure, Except.ok.injEq, exists_eq_left']
        cases opened : Aead.decrypt log dataKey encrypted.iv
            (additionalAuthenticatedData providerConnectionId) encrypted.encryptedPayload
            encrypted.authTag with
        | none => simp
        | some text =>
            simp only [Option.bind_some, Option.some.injEq, exists_eq_left']
            cases (parse (fromUtf8 platform text)).bind parseCredential <;> simp

end ProviderCredentialCipher

end Mosp.Provider
