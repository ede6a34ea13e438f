import Mosp.Data.Split
import Mathlib.Data.List.DropRight

/-!
# Endpoints of providers

The check of an endpoint's addresses, from `packages/provider-s3/src/endpoint.ts`.
`isIP`, `new URL` and the lookups come from the platform: `isIP` follows its documented
grammar, the others are parameters.
-/

namespace Mosp.Provider

open Mosp.Data

/-! ## Numbers -/

/-- `ToInt32` -/
def toInt32 (number : Int) : BitVec 32 :=
  BitVec.ofInt 32 number

/-- `number << bits` -/
def shiftLeft (number : Int) (bits : Nat) : Int :=
  (toInt32 number <<< bits).toInt

/-- `number >> bits` -/
def shiftRight (number : Int) (bits : Nat) : Int :=
  ((toInt32 number).sshiftRight bits).toInt

/-- `number & mask` -/
def bitAnd (number mask : Int) : Int :=
  (toInt32 number &&& toInt32 mask).toInt

/-- `number | other` -/
def bitOr (number other : Int) : Int :=
  (toInt32 number ||| toInt32 other).toInt

/-- `number >>> 0` -/
def unsigned (number : Int) : Int :=
  (toInt32 number).toNat

/-- `Number(text)` of decimal digits -/
def decimalValue (text : List Char) : Nat :=
  Nat.ofDigitChars 10 text 0

def hexDigitValue (digit : Char) : Nat :=
  if digit.isDigit then digit.toNat - '0'.toNat else digit.toLower.toNat - 'a'.toNat + 10

/-- `Number.parseInt(text, 16)` of hexadecimal digits -/
def hexValue (text : List Char) : Nat :=
  text.foldl (fun value digit => 16 * value + hexDigitValue digit) 0

/-- `number.toString(10)` -/
def decimalText (number : Int) : List Char :=
  (toString number).toList

/-- `number.toString(16)` of a number that is not negative -/
def hexText (number : Int) : List Char :=
  Nat.toDigits 16 number.toNat

/-! ## `isIP` of `node:net` -/

def isHexDigit (char : Char) : Bool :=
  char.isDigit || ('a' ≤ char && char ≤ 'f') || ('A' ≤ char && char ≤ 'F')

/-- A number up to 255 without leading zeros. -/
def isOctet (text : List Char) : Bool :=
  text.all Char.isDigit && 1 ≤ text.length && text.length ≤ 3 &&
    (text.length == 1 || text.head? != some '0') && decimalValue text ≤ 255

def isIPv4 (text : List Char) : Bool :=
  let octets := text.splitOn '.'
  octets.length == 4 && octets.all isOctet

/-- A group of an IPv6 address. -/
def isGroup (text : List Char) : Bool :=
  1 ≤ text.length && text.length ≤ 4 && text.all isHexDigit

/-- How many of the eight groups stand between single colons; the last two may be
spelled like an IPv4 address. -/
def countGroups : List (List Char) → Option Nat
  | [] => some 0
  | [last] => if isGroup last then some 1 else if isIPv4 last then some 2 else none
  | group :: rest => if isGroup group then (countGroups rest).map (· + 1) else none

/-- The groups of a stretch of text, none if it is empty. -/
def groupsOf (text : List Char) : List (List Char) :=
  if text.isEmpty then [] else text.splitOn ':'

def isIPv6Address (text : List Char) : Bool :=
  match splitOnPair ':' text with
  | [whole] => countGroups (groupsOf whole) == some 8
  | [left, right] =>
      (groupsOf left).all isGroup &&
        (countGroups (groupsOf right)).any fun count => (groupsOf left).length + count ≤ 7
  | _ => false

/-- A character of the zone that may follow an IPv6 address. -/
def isZoneChar (char : Char) : Bool :=
  char.isAlphanum || char == '-' || char == '.' || char == ':'

def isIPv6 (text : List Char) : Bool :=
  match text.dropWhile (· != '%') with
  | [] => isIPv6Address text
  | _ :: zone =>
      isIPv6Address (text.takeWhile (· != '%')) && !zone.isEmpty && zone.all isZoneChar

def isIP (text : List Char) : Nat :=
  if isIPv4 text then 4 else if isIPv6 text then 6 else 0

/-! ## Private addresses -/

def ipv4ToNumber (address : List Char) : Int :=
  unsigned (((address.splitOn '.').map decimalValue).foldl
    (fun (result : Int) (octet : Nat) => shiftLeft result 8 + octet) 0)

/-- The networks and masks of `isPrivateIpv4`. -/
def privateRanges : List (Int × Int) :=
  [(0x00000000, 0xff000000),
   (0x0a000000, 0xff000000),
   (0x64400000, 0xffc00000),
   (0x7f000000, 0xff000000),
   (0xa9fe0000, 0xffff0000),
   (0xac100000, 0xfff00000),
   (0xc0a80000, 0xffff0000),
   (0xc6120000, 0xfffe0000),
   (0xe0000000, 0xf0000000),
   (0xf0000000, 0xf0000000)]

def isPrivateIpv4 (address : List Char) : Bool :=
  let value := ipv4ToNumber address
  privateRanges.any fun (network, mask) => unsigned (bitAnd value mask) == network

/-- `/^[0-9a-f]{1,4}$/` -/
def isLowerGroup (text : List Char) : Bool :=
  1 ≤ text.length && text.length ≤ 4 &&
    text.all fun char => char.isDigit || ('a' ≤ char && char ≤ 'f')

/-- The text after the last colon and the text before it. -/
def cutAtLastColon (text : List Char) : List Char × List Char :=
  ((text.rdropWhile (· != ':')).dropLast, text.rtakeWhile (· != ':'))

/-- A dotted tail rewritten as two groups. -/
def normalizeTail (address : List Char) : Option (List Char) :=
  if !address.contains '.' then
    some address
  else if !address.contains ':' then
    none
  else
    let (before, ipv4) := cutAtLastColon address
    if isIP ipv4 != 4 then
      none
    else
      match (ipv4.splitOn '.').map decimalValue with
      | [octet0, octet1, octet2, octet3] =>
          some (before ++ ':' :: hexText (bitOr (shiftLeft octet0 8) octet1) ++
            ':' :: hexText (bitOr (shiftLeft octet2 8) octet3))
      | _ => none

def parseIpv6Hextets (address : List Char) : Option (List Nat) := do
  let normalized ← normalizeTail address
  match splitOnPair ':' normalized with
  | [whole] =>
      let values := groupsOf whole
      if !values.all isLowerGroup then none
      else if values.length ≠ 8 then none
      else some (values.map hexValue)
  | [first, second] =>
      let left := groupsOf first
      let right := groupsOf second
      let values := left ++ right
      if !values.all isLowerGroup then
        none
      else
        let missing : Int := 8 - values.length
        if missing < 1 then
          none
        else
          some (left.map hexValue ++ List.replicate missing.toNat 0 ++ right.map hexValue)
  | _ => none

/-- The beginnings of private addresses in `isPrivateIpv6`. -/
def privatePrefixes : List String :=
  ["100:", "fc", "fd", "fe8", "fe9", "fea", "feb", "2001:10", "2001:2", "2001:db8", "ff"]

def isPrivateIpv6 (address : List Char) : Bool :=
  let normalized := address.map Char.toLower
  let mapped : Option (List Nat) :=
    (parseIpv6Hextets normalized).filter fun hextets =>
      (hextets.take 5).all (· == 0) && (hextets[5]? == some 0xffff || hextets[5]? == some 0)
  match mapped with
  | some hextets =>
      let high := hextets.getD 6 0
      let low := hextets.getD 7 0
      isPrivateIpv4 (['.'].intercalate
        [decimalText (shiftRight high 8), decimalText (bitAnd high 0xff),
         decimalText (shiftRight low 8), decimalText (bitAnd low 0xff)])
  | none =>
      normalized == "::".toList || normalized == "::1".toList ||
        privatePrefixes.any fun start => start.toList.isPrefixOf normalized

def isPrivateAddress (address : String) : Bool :=
  if isIP address.toList = 4 then isPrivateIpv4 address.toList
  else if isIP address.toList = 6 then isPrivateIpv6 address.toList
  else false

/-! ## Lookups -/

structure LookupAddress where
  address : String
  family : Nat
deriving DecidableEq, Repr

inductive LookupFamily where
  | unspecified
  | number (family : Nat)
  | IPv4
  | IPv6
deriving DecidableEq, Repr

/-- The family that is asked of the name server. -/
def LookupFamily.requested : LookupFamily → Option Nat
  | .unspecified => none
  | .number family => some family
  | .IPv4 => some 4
  | .IPv6 => some 6

structure LookupOptions where
  family : LookupFamily := .unspecified
  all : Bool := false
deriving DecidableEq, Repr

/-- The options of a `dnsLookup`. -/
structure DnsOptions where
  all : Bool
  order : String
  family : Option Nat
deriving DecidableEq, Repr

structure LookupError where
  message : String
  code : Option String
deriving DecidableEq, Repr

/-- What a lookup calls back with. -/
inductive LookupAnswer where
  | failed (error : LookupError)
  | all (addresses : List LookupAddress)
  | one (address : String) (family : Nat)
deriving DecidableEq, Repr

structure EndpointValidationOptions where
  allowHttp : Bool := false
  allowPrivateNetwork : Bool := false
  allowedPorts : Option (List Nat) := none
deriving DecidableEq, Repr

/-- `createSafeProviderLookup`: the function it returns, applied to a host name, with what it
calls back with as the result. -/
def createSafeProviderLookup
    (dnsLookup : String → DnsOptions → Except LookupError (List LookupAddress))
    (options : EndpointValidationOptions) (hostname : String) (lookupOptions : LookupOptions) :
    LookupAnswer :=
  let family := lookupOptions.family.requested
  match dnsLookup hostname { all := true, order := "verbatim", family } with
  | .error error => .failed error
  | .ok addresses =>
      let safeAddresses :=
        if options.allowPrivateNetwork then addresses
        else addresses.filter fun address => !isPrivateAddress address.address
      match safeAddresses with
      | [] =>
          .failed
            { message := "Provider endpoint resolved to a private or reserved address"
              code := some "ERR_PROVIDER_PRIVATE_ADDRESS" }
      | address :: _ =>
          if lookupOptions.all then .all safeAddresses else .one address.address address.family

/-! ## Endpoints -/

/-- What `new URL` reads off a text. -/
structure Url where
  protocol : String
  username : String
  password : String
  hostname : String
  port : String
  search : String
  hash : String
deriving DecidableEq, Repr

/-- `hostname.replace(/^\[|\]$/g, "")` -/
def stripBrackets (hostname : String) : String :=
  let text := hostname.toList
  let text := if text.head? == some '[' then text.tail else text
  String.ofList (if text.getLast? == some ']' then text.dropLast else text)

/-- `Number(text)` where it is an integer that is not negative -/
def integer? (text : String) : Option Nat :=
  if text.toList.all Char.isDigit then some (decimalValue text.toList) else none

def assertSafeProviderEndpoint (parseUrl : String → Except String Url)
    (lookupAll : String → Except String (List LookupAddress)) (endpoint : String)
    (options : EndpointValidationOptions) : Except String Url := do
  let parsed ← parseUrl endpoint
  if !options.allowHttp && parsed.protocol != "https:" then
    throw "Provider endpoint must use HTTPS"
  if options.allowHttp && !(["http:", "https:"].contains parsed.protocol) then
    throw "Provider endpoint must use HTTP or HTTPS"
  if parsed.username != "" || parsed.password != "" || parsed.search != "" ||
      parsed.hash != "" then
    throw "Provider endpoint must not contain credentials or query data"
  let hostname := stripBrackets parsed.hostname
  let port :=
    if parsed.port != "" then integer? parsed.port
    else if parsed.protocol == "https:" then some 443
    else some 80
  let allowedPorts := options.allowedPorts.getD (if options.allowHttp then [80, 443] else [443])
  if !port.any allowedPorts.contains then
    throw "Provider endpoint port is not allowed"
  let addresses ←
    if isIP hostname.toList != 0 then pure [hostname]
    else (lookupAll parsed.hostname).map fun entries => entries.map (·.address)
  if !options.allowPrivateNetwork && addresses.any isPrivateAddress then
    throw "Provider endpoint resolves to a private or reserved address"
  return parsed

end Mosp.Provider
