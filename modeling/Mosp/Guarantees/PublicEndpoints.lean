import Mosp.Guarantees.Endpoints
import Mosp.Provider.SpelledPrefixes

/-!
# Guarantees about public endpoints

Which addresses outside the special networks get past the checks of a provider's endpoint.
-/

namespace Mosp.Guarantees

open Mosp.Data.Ip Mosp.Provider

/-- A host that stands for one address, as a literal or by its name. -/
def StandsFor (lookupAll : String → Except String (List LookupAddress)) (hostname text : String) :
    Prop :=
  hostname = "[" ++ text ++ "]" ∨
    isIP (stripBrackets hostname).toList = 0 ∧
      ∃ family, lookupAll hostname = .ok [{ address := text, family }]

/-- The check of private networks never refuses the address. -/
structure Accepted (text : String) : Prop where
  notPrivate : isPrivateAddress text = false
  endpoint : ∀ (parseUrl : String → Except String Url)
    (lookupAll : String → Except String (List LookupAddress)) (endpoint : String)
    (options : EndpointValidationOptions) (url : Url),
    parseUrl endpoint = .ok url → StandsFor lookupAll url.hostname text →
    assertSafeProviderEndpoint parseUrl lookupAll endpoint options =
      assertSafeProviderEndpoint parseUrl lookupAll endpoint
        { allowHttp := options.allowHttp, allowPrivateNetwork := true
          allowedPorts := options.allowedPorts }
  lookup : ∀ (dnsLookup : String → DnsOptions → Except LookupError (List LookupAddress))
    (options : EndpointValidationOptions) (hostname : String) (lookupOptions : LookupOptions)
    (family : Nat),
    dnsLookup hostname
        { all := true, order := "verbatim", family := lookupOptions.family.requested } =
      .ok [{ address := text, family }] →
    createSafeProviderLookup dnsLookup options hostname lookupOptions =
      if lookupOptions.all then .all [{ address := text, family }] else .one text family

theorem StandsFor.hostAddresses {lookupAll : String → Except String (List LookupAddress)}
    {hostname text : String} (six : isIP text.toList = 6)
    (stands : StandsFor lookupAll hostname text) :
    hostAddresses lookupAll hostname = .ok [text] := by
  unfold Mosp.Guarantees.hostAddresses
  rcases stands with rfl | ⟨named, family, resolved⟩
  · simp [stripBrackets_bracketed, six]
  · rw [named, resolved]
    rfl

theorem assertSafeProviderEndpoint_hostAddresses {parseUrl : String → Except String Url}
    {lookupAll : String → Except String (List LookupAddress)} {endpoint : String}
    {options : EndpointValidationOptions} {url : Url} {addresses : List String}
    (parsed : parseUrl endpoint = .ok url)
    (found : hostAddresses lookupAll url.hostname = .ok addresses)
    (allPublic : addresses.any isPrivateAddress = false) :
    assertSafeProviderEndpoint parseUrl lookupAll endpoint options =
      assertSafeProviderEndpoint parseUrl lookupAll endpoint
        { allowHttp := options.allowHttp, allowPrivateNetwork := true
          allowedPorts := options.allowedPorts } := by
  unfold hostAddresses at found
  unfold assertSafeProviderEndpoint
  rw [parsed]
  split at found
  · rename_i literal
    cases found
    simp only [if_pos literal, bind, Except.bind, pure, Except.pure, allPublic, Bool.and_false]
  · rename_i named
    simp only [if_neg named, bind, Except.bind, pure, Except.pure, found, allPublic,
      Bool.and_false]

/-- An address that is not classified as private passes all checks. -/
theorem accepted_iff {text : String} (six : isIP text.toList = 6) :
    Accepted text ↔ isPrivateAddress text = false := by
  constructor
  · exact Accepted.notPrivate
  · intro notPrivate
    constructor
    · exact notPrivate
    · intro parseUrl lookupAll endpoint options url parsed stands
      apply assertSafeProviderEndpoint_hostAddresses parsed (stands.hostAddresses six)
      simp [notPrivate]
    · intro dnsLookup options hostname lookupOptions family resolved
      unfold createSafeProviderLookup
      simp [resolved, notPrivate]

/-- An address outside the special networks is accepted unless it lies in one of the networks
that the textual prefixes match besides. -/
theorem public_addresses_accepted_iff (dottedTail : Bool) (address : BitVec 128)
    (outside : ¬InSome specialIpv6 address) :
    Accepted (ipv6Text dottedTail address) ↔ ¬InSome misspelledIpv6 address := by
  rw [accepted_iff (isIP_ipv6Text dottedTail address), ← isPrivateAddress_iff outside,
    Bool.not_eq_true]

/-- `2606:4700::1111` is accepted. -/
theorem public_addresses_accepted_iff_example :
    Accepted (ipv6Text false 0x26064700000000000000000000001111) :=
  (public_addresses_accepted_iff false 0x26064700000000000000000000001111
    (by decide +kernel)).mpr (by decide +kernel)

/-- `2001:200::1` lies in no special network, yet it is taken for a private address. -/
theorem public_address_refused :
    ¬∀ address : BitVec 128, ¬InSome specialIpv6 address →
      isPrivateAddress (ipv6Text false address) = false := by
  intro never
  have accepted := never 0x20010200000000000000000000000001 (by decide +kernel)
  have isPrivate : isPrivateAddress (ipv6Text false 0x20010200000000000000000000000001) = true := by
    decide +kernel
  rw [isPrivate] at accepted
  cases accepted

end Mosp.Guarantees
