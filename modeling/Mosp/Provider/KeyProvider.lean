import Mosp.Data.Aead

/-!
# The key provider

`LocalFileKeyEncryptionKeyProvider`.  Files and the decoding of bytes come from the platform,
random bytes are arguments.
-/

namespace Mosp.Provider

open Mosp.Data

/-- What `stat` and `readFile` say about a file. -/
structure KeyFile where
  mode : Nat
  content : String

structure Platform where
  /-- `stat` and `readFile`, or the error of one of them -/
  file : String → Except String KeyFile
  /-- `Buffer.from(text.trim(), "base64url")` -/
  fromBase64url : String → Bytes
  /-- `Buffer.toString("utf8")` of bytes that are not well-formed -/
  fromMalformed : Bytes → String

/-- `Buffer.from(text, "utf8")` -/
def utf8 (text : String) : Bytes :=
  text.toByteArray.data.toList

/-- `/^[A-Za-z0-9._-]{1,100}$/` -/
def isKeyVersion (version : String) : Bool :=
  1 ≤ version.toList.length && version.toList.length ≤ 100 &&
    version.toList.all fun char => char.isAlphanum || ['.', '_', '-'].contains char

/-- The key files, under valid names of versions. -/
structure LocalFileKeyEncryptionKeyProvider where
  keyFilePath : String
  keyVersion : String := "local-v1"
  previousKeyFiles : List (String × String) := []
  validVersion : isKeyVersion keyVersion = true
  validPrevious : ∀ entry ∈ previousKeyFiles, isKeyVersion entry.1 = true

structure WrappedDataKey where
  encryptedDataKey : Bytes
  keyVersion : String

/-- What every object inherits, in the words of the platform's errors: a lookup under these
names finds no path, but no `undefined` either. -/
def inheritedProperties : List (String × String) :=
  [("constructor", "function Object"), ("__proto__", "an instance of Object")] ++
    ["hasOwnProperty", "isPrototypeOf", "propertyIsEnumerable", "toLocaleString", "toString",
      "valueOf", "__defineGetter__", "__defineSetter__", "__lookupGetter__",
      "__lookupSetter__"].map fun name => (name, "function " ++ name)

/-- A property of an object of texts. -/
inductive Property where
  | undefined
  | text (value : String)
  | inherited (description : String)
deriving DecidableEq

def property (object : List (String × String)) (name : String) : Property :=
  match object.lookup name with
  | some value => .text value
  | none => (inheritedProperties.lookup name).elim .undefined .inherited

namespace LocalFileKeyEncryptionKeyProvider

/-- The constructor. -/
def create (keyFilePath : String) (keyVersion : String := "local-v1")
    (previousKeyFiles : List (String × String) := []) :
    Except String LocalFileKeyEncryptionKeyProvider :=
  if validVersion : isKeyVersion keyVersion = true then
    if validPrevious : ∀ entry ∈ previousKeyFiles, isKeyVersion entry.1 = true then
      .ok { keyFilePath, keyVersion, previousKeyFiles, validVersion, validPrevious }
    else
      .error "Previous key-encryption-key version is invalid"
  else
    .error "Key-encryption-key version is invalid"

variable (aead : Aead) (platform : Platform) (provider : LocalFileKeyEncryptionKeyProvider)

def additionalAuthenticatedData (keyVersion : String) : Bytes :=
  utf8 ("mosp/provider-data-key/v1/" ++ keyVersion)

def readKeyEncryptionKey (keyFilePath : String) : Except String Bytes := do
  let file ← platform.file keyFilePath
  if file.mode &&& 0o077 ≠ 0 then
    throw "Key-encryption-key file must not be group/world readable"
  let key := platform.fromBase64url file.content
  if key.length ≠ 32 then
    throw "Key-encryption-key file must contain 32 base64url bytes"
  return key

/-- The wrapped key, with what was encrypted for it. -/
def wrapKey (iv dataKey : Bytes) : Except String (WrappedDataKey × Sealed) := do
  if dataKey.length ≠ 32 then
    throw "Data key must contain exactly 32 bytes"
  let keyEncryptionKey ← readKeyEncryptionKey platform provider.keyFilePath
  let entry := aead.sealing keyEncryptionKey iv
    (additionalAuthenticatedData provider.keyVersion) dataKey
  return ({ encryptedDataKey := iv ++ entry.tag ++ entry.ciphertext
            keyVersion := provider.keyVersion }, entry)

/-- Where the key of a version is. -/
def keyFileOf (keyVersion : String) : Property :=
  if keyVersion = provider.keyVersion then .text provider.keyFilePath
  else property provider.previousKeyFiles keyVersion

def unwrapKey (log : List Sealed) (encryptedDataKey : Bytes) (keyVersion : String) :
    Except String Bytes := do
  let keyFile := provider.keyFileOf keyVersion
  if keyFile = .undefined ∨ keyFile = .text "" then
    throw "Unsupported key-encryption-key version"
  if encryptedDataKey.length ≠ 12 + 16 + 32 then
    throw "Invalid encrypted data-key envelope"
  let iv := encryptedDataKey.take 12
  let authTag := (encryptedDataKey.drop 12).take 16
  let ciphertext := encryptedDataKey.drop (12 + 16)
  let keyEncryptionKey ←
    match keyFile with
    | .text keyFilePath => readKeyEncryptionKey platform keyFilePath
    | .inherited description =>
        throw ("The \"path\" argument must be of type string or an instance of Buffer or URL. " ++
          "Received " ++ description)
    | .undefined => throw "Unsupported key-encryption-key version"
  match Aead.decrypt log keyEncryptionKey iv (additionalAuthenticatedData keyVersion) ciphertext
      authTag with
  | some dataKey => return dataKey
  | none => throw "Unable to unwrap provider credential data key"

end LocalFileKeyEncryptionKeyProvider

end Mosp.Provider
