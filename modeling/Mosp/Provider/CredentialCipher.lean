import Mosp.Data.Json
import Mosp.Provider.KeyProvider

/-!
# The credential cipher

`ProviderCredentialCipher` and the schema of what it encrypts.
-/

namespace Mosp.Provider

open Mosp.Data Mosp.Data.Json

/-! ## Payloads -/

structure ProviderCredentialPayload where
  accessKeyId : Text
  secretAccessKey : Text
  sessionToken : Option Text := none
deriving DecidableEq

/-- `z.string().min(1).max(maximum)` -/
def hasLength (maximum : Nat) (text : Text) : Bool :=
  1 ≤ text.length && text.length ≤ maximum

/-- What `providerCredentialPayloadSchema` accepts. -/
def isCredentialPayload (payload : ProviderCredentialPayload) : Bool :=
  hasLength 512 payload.accessKeyId && hasLength 4096 payload.secretAccessKey &&
    payload.sessionToken.all (hasLength 8192)

def keyText (key : String) : Text :=
  key.toList.flatMap unitsOf

/-- The properties that `JSON.stringify` writes. -/
def credentialMembers (payload : ProviderCredentialPayload) : List (Text × Text) :=
  [(keyText "accessKeyId", payload.accessKeyId),
    (keyText "secretAccessKey", payload.secretAccessKey)] ++
    (payload.sessionToken.map fun sessionToken => (keyText "sessionToken", sessionToken)).toList

/-- A property of a parsed object: the last one of its name. -/
def member (members : List (Text × Value)) (key : String) : Option Value :=
  members.reverse.lookup (keyText key)

def stringOf : Option Value → Option Text
  | some (.string text) => some text
  | _ => none

/-- `providerCredentialPayloadSchema.parse` of a value -/
def parseCredential : Value → Option ProviderCredentialPayload
  | .object members => do
      let accessKeyId ← stringOf (member members "accessKeyId")
      let secretAccessKey ← stringOf (member members "secretAccessKey")
      let sessionToken ←
        match member members "sessionToken" with
        | none => some none
        | some value => (stringOf (some value)).map some
      let payload := { accessKeyId, secretAccessKey, sessionToken }
      let known := members.all fun entry =>
        [keyText "accessKeyId", keyText "secretAccessKey", keyText "sessionToken"].contains entry.1
      if known && isCredentialPayload payload then some payload else none
  | _ => none

/-! ## The cipher -/

structure EncryptedProviderCredential where
  algorithm : String
  authTag : Bytes
  encryptedDataKey : Bytes
  encryptedPayload : Bytes
  formatVersion : Nat
  iv : Bytes
  keyVersion : String
deriving DecidableEq

/-- The random bytes of an encryption. -/
structure RandomBytes where
  dataKey : Bytes
  iv : Bytes
  wrapIv : Bytes
  length_dataKey : dataKey.length = 32
  length_iv : iv.length = 12
  length_wrapIv : wrapIv.length = 12

/-- `buffer.toString("utf8")` -/
def fromUtf8 (platform : Platform) (bytes : Bytes) : String :=
  (String.fromUTF8? ⟨bytes.toArray⟩).getD (platform.fromMalformed bytes)

namespace ProviderCredentialCipher

variable (aead : Aead) (platform : Platform) (provider : LocalFileKeyEncryptionKeyProvider)

def additionalAuthenticatedData (providerConnectionId : String) : Bytes :=
  utf8 ("mosp/provider-credential/v1/" ++ providerConnectionId)

/-- The envelope, and the encryptions so far with the two that it took. -/
def encrypt (random : RandomBytes) (providerConnectionId : String)
    (input : ProviderCredentialPayload) (log : List Sealed) :
    Except String (EncryptedProviderCredential × List Sealed) := do
  if !isCredentialPayload input then
    throw "Invalid provider credential payload"
  let entry := aead.sealing random.dataKey random.iv
    (additionalAuthenticatedData providerConnectionId) (utf8 (stringify (credentialMembers input)))
  let (wrappedDataKey, wrapping) ← provider.wrapKey aead platform random.wrapIv random.dataKey
  return ({ algorithm := "aes-256-gcm"
            authTag := entry.tag
            encryptedDataKey := wrappedDataKey.encryptedDataKey
            encryptedPayload := entry.ciphertext
            formatVersion := 1
            iv := random.iv
            keyVersion := wrappedDataKey.keyVersion }, log ++ [entry, wrapping])

def decrypt (log : List Sealed) (providerConnectionId : String)
    (encrypted : EncryptedProviderCredential) : Except String ProviderCredentialPayload := do
  if encrypted.algorithm ≠ "aes-256-gcm" ∨ encrypted.formatVersion ≠ 1 ∨
      encrypted.iv.length ≠ 12 then
    throw "Unsupported provider credential envelope"
  let dataKey ← provider.unwrapKey platform log encrypted.encryptedDataKey encrypted.keyVersion
  let credential := do
    let payload ← Aead.decrypt log dataKey encrypted.iv
      (additionalAuthenticatedData providerConnectionId) encrypted.encryptedPayload
      encrypted.authTag
    let value ← parse (fromUtf8 platform payload)
    parseCredential value
  match credential with
  | some credential => return credential
  | none => throw "Unable to decrypt provider credential"

def reEncrypt (random : RandomBytes) (providerConnectionId : String)
    (encrypted : EncryptedProviderCredential) (log : List Sealed) :
    Except String (EncryptedProviderCredential × List Sealed) := do
  let credential ← decrypt platform provider log providerConnectionId encrypted
  encrypt aead platform provider random providerConnectionId credential log

end ProviderCredentialCipher

end Mosp.Provider
