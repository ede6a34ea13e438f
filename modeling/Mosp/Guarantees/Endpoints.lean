import Mosp.Provider.PrivateAddresses

/-!
# Guarantees about endpoints

No private address gets past the checks of a provider's endpoint.
-/

namespace Mosp.Guarantees

open Mosp.Data.Ip Mosp.Provider

/-- The canonical text of an address in a reserved network. -/
def Reserved (text : String) : Prop :=
  (∃ address, ReservedIpv4 address ∧ text = ipv4Text address) ∨
    ∃ address dottedTail, ReservedIpv6 address ∧ text = ipv6Text dottedTail address

/-- The host of a URL that is the literal of an address in a reserved network. -/
def ReservedHost (hostname : String) : Prop :=
  (∃ address, ReservedIpv4 address ∧ hostname = ipv4Text address) ∨
    ∃ address dottedTail, ReservedIpv6 address ∧
      hostname = "[" ++ ipv6Text dottedTail address ++ "]"

/-- The answers that survive the check of a lookup. -/
def surviving (answers : List LookupAddress) : List LookupAddress :=
  answers.filter fun answer => !isPrivateAddress answer.address

theorem Reserved.isPrivate {text : String} (reserved : Reserved text) :
    isPrivateAddress text = true := by
  rcases reserved with ⟨address, inside, rfl⟩ | ⟨address, dottedTail, inside, rfl⟩
  · exact isPrivateAddress_ipv4Text inside
  · exact isPrivateAddress_ipv6Text inside dottedTail

/-- No surviving answer is reserved. -/
theorem surviving_public {answers : List LookupAddress} {answer : LookupAddress}
    (survives : answer ∈ surviving answers) : ¬ Reserved answer.address := by
  intro reserved
  have notPrivate := (List.mem_filter.mp survives).2
  rw [reserved.isPrivate] at notPrivate
  cases notPrivate

theorem stripBrackets_ipv4Text (address : BitVec 32) :
    stripBrackets (ipv4Text address) = ipv4Text address := by
  have plain : ∀ char ∈ dotted address, char ≠ '[' ∧ char ≠ ']' := by
    intro char member
    constructor
    · rintro rfl
      exact absurd (mem_dotted member) (by decide)
    · rintro rfl
      exact absurd (mem_dotted member) (by decide)
  have first : (dotted address).head? ≠ some '[' :=
    fun same => (plain _ (List.mem_of_mem_head? same)).1 rfl
  have last : (dotted address).getLast? ≠ some ']' :=
    fun same => (plain _ (List.mem_of_mem_getLast? same)).2 rfl
  simp [stripBrackets, ipv4Text, first, last]

theorem stripBrackets_bracketed (text : String) : stripBrackets ("[" ++ text ++ "]") = text := by
  have whole : ("[" ++ text ++ "]").toList = '[' :: (text.toList ++ [']']) := by simp
  simp [stripBrackets, whole]

/-- What the answer of a lookup says about the answers of the name server. -/
def SafeAnswer (lookedUp : Except LookupError (List LookupAddress)) (all : Bool) :
    LookupAnswer → Prop
  | .failed error =>
      lookedUp = .error error ∨ ∃ answers, lookedUp = .ok answers ∧ surviving answers = []
  | .all addresses =>
      all = true ∧ (∀ answer ∈ addresses, ¬ Reserved answer.address) ∧
        ∃ answers, lookedUp = .ok answers ∧ addresses = surviving answers
  | .one address family =>
      all = false ∧ ¬ Reserved address ∧
        ∃ answers, lookedUp = .ok answers ∧
          (surviving answers).head? = some { address, family }

theorem createSafeProviderLookup_safe
    (dnsLookup : String → DnsOptions → Except LookupError (List LookupAddress))
    {options : EndpointValidationOptions} (guarded : options.allowPrivateNetwork = false)
    (hostname : String) (lookupOptions : LookupOptions) :
    SafeAnswer
      (dnsLookup hostname
        { all := true, order := "verbatim", family := lookupOptions.family.requested })
      lookupOptions.all (createSafeProviderLookup dnsLookup options hostname lookupOptions) := by
  unfold createSafeProviderLookup
  dsimp only
  generalize dnsLookup hostname
    { all := true, order := "verbatim", family := lookupOptions.family.requested } = lookedUp
  cases lookedUp with
  | error error => exact .inl rfl
  | ok answers =>
      dsimp only
      rw [guarded, if_neg Bool.false_ne_true]
      cases survivors : answers.filter fun answer => !isPrivateAddress answer.address with
      | nil => exact .inr ⟨answers, rfl, survivors⟩
      | cons first rest =>
          have whole : surviving answers = first :: rest := survivors
          have member : first ∈ surviving answers := whole ▸ List.mem_cons_self
          cases all : lookupOptions.all with
          | true => exact ⟨rfl, whole ▸ fun _ => surviving_public, answers, rfl, whole.symm⟩
          | false =>
              exact ⟨rfl, surviving_public member, answers, rfl, congrArg List.head? whole⟩

theorem of_ite_error {α : Type} {condition : Prop} [Decidable condition] {message : String}
    {rest : Except String α} {value : α}
    (passed : (if condition then .error message else rest) = .ok value) :
    ¬ condition ∧ rest = .ok value := by
  by_cases holds : condition
  · rw [if_pos holds] at passed
    cases passed
  · rw [if_neg holds] at passed
    exact ⟨holds, passed⟩

/-- What an endpoint's host stands for: itself if it is a literal. -/
def hostAddresses (lookupAll : String → Except String (List LookupAddress)) (hostname : String) :
    Except String (List String) :=
  if isIP (stripBrackets hostname).toList != 0 then
    .ok [stripBrackets hostname]
  else
    (lookupAll hostname).map fun entries => entries.map (·.address)

/-- An endpoint is accepted only if all its addresses pass the check. -/
theorem assertSafeProviderEndpoint_public {parseUrl : String → Except String Url}
    {lookupAll : String → Except String (List LookupAddress)} {endpoint : String}
    {options : EndpointValidationOptions} (guarded : options.allowPrivateNetwork = false)
    {url accepted : Url} (parsed : parseUrl endpoint = .ok url)
    (passed : assertSafeProviderEndpoint parseUrl lookupAll endpoint options = .ok accepted) :
    ∃ addresses, hostAddresses lookupAll url.hostname = .ok addresses ∧
      addresses.any isPrivateAddress = false := by
  unfold assertSafeProviderEndpoint at passed
  rw [parsed] at passed
  simp only [bind, Except.bind, pure, Except.pure, throw, throwThe, MonadExceptOf.throw,
    guarded, Bool.not_false, Bool.true_and] at passed
  have passed := (of_ite_error (of_ite_error (of_ite_error (of_ite_error passed).2).2).2).2
  unfold hostAddresses
  split at passed
  · rename_i literal
    rw [if_pos literal]
    use [stripBrackets url.hostname]
    exact ⟨rfl, Bool.eq_false_iff.mpr (of_ite_error passed).1⟩
  · rename_i named
    rw [if_neg named]
    split at passed
    · cases passed
    · rename_i addresses resolved
      use addresses
      exact ⟨resolved, Bool.eq_false_iff.mpr (of_ite_error passed).1⟩

/-- A literal host in a reserved network stands for a reserved address. -/
theorem ReservedHost.stands_for {hostname : String} (reserved : ReservedHost hostname)
    (lookupAll : String → Except String (List LookupAddress)) :
    ∃ text, Reserved text ∧ hostAddresses lookupAll hostname = .ok [text] := by
  rcases reserved with ⟨address, inside, rfl⟩ | ⟨address, dottedTail, inside, rfl⟩
  · use ipv4Text address
    constructor
    · exact .inl ⟨address, inside, rfl⟩
    · have four : isIP (ipv4Text address).toList = 4 := by
        rw [ipv4Text, String.toList_ofList, isIP_dotted]
      simp [hostAddresses, stripBrackets_ipv4Text, four]
  · use ipv6Text dottedTail address
    constructor
    · exact .inr ⟨address, dottedTail, inside, rfl⟩
    · have six := isIP_ipv6Text dottedTail address
      simp [hostAddresses, stripBrackets_bracketed, six]

/-- Reserved addresses are classified as private, a guarded lookup answers with surviving
addresses only, and an endpoint that stands for a reserved address is rejected. -/
theorem private_addresses_blocked :
    (∀ text, Reserved text → isPrivateAddress text = true) ∧
    (∀ (dnsLookup : String → DnsOptions → Except LookupError (List LookupAddress))
        (options : EndpointValidationOptions) (hostname : String) (lookupOptions : LookupOptions),
      options.allowPrivateNetwork = false →
      SafeAnswer
        (dnsLookup hostname
          { all := true, order := "verbatim", family := lookupOptions.family.requested })
        lookupOptions.all (createSafeProviderLookup dnsLookup options hostname lookupOptions)) ∧
    (∀ (parseUrl : String → Except String Url)
        (lookupAll : String → Except String (List LookupAddress)) (endpoint : String)
        (options : EndpointValidationOptions) (url : Url),
      options.allowPrivateNetwork = false → parseUrl endpoint = .ok url →
      (ReservedHost url.hostname ∨
        isIP (stripBrackets url.hostname).toList = 0 ∧
          ∃ answers, lookupAll url.hostname = .ok answers ∧
            ∃ answer ∈ answers, Reserved answer.address) →
      ∃ message, assertSafeProviderEndpoint parseUrl lookupAll endpoint options =
        .error message) := by
  constructor
  · intro text reserved
    exact reserved.isPrivate
  constructor
  · intro dnsLookup options hostname lookupOptions guarded
    exact createSafeProviderLookup_safe dnsLookup guarded hostname lookupOptions
  · intro parseUrl lookupAll endpoint options url guarded parsed reserved
    cases outcome : assertSafeProviderEndpoint parseUrl lookupAll endpoint options with
    | error message => exact ⟨message, rfl⟩
    | ok accepted =>
        obtain ⟨addresses, found, allPublic⟩ :=
          assertSafeProviderEndpoint_public guarded parsed outcome
        rw [List.any_eq_false] at allPublic
        rcases reserved with literal | ⟨named, answers, resolved, answer, member, inside⟩
        · obtain ⟨text, inside, stands⟩ := literal.stands_for lookupAll
          rw [stands, Except.ok.injEq] at found
          subst found
          exact absurd inside.isPrivate (allPublic text List.mem_cons_self)
        · rw [hostAddresses, named, resolved] at found
          obtain rfl : answers.map (·.address) = addresses := by simpa [Except.map] using found
          exact absurd inside.isPrivate (allPublic _ (List.mem_map_of_mem member))

/-! ## Two endpoints -/

namespace Internal

/-- Two endpoints: the mapped loopback address, and a name. -/
def parseUrl (endpoint : String) : Except String Url :=
  if endpoint = "https://[::ffff:127.0.0.1]/" then .ok (https "[::ffff:7f00:1]")
  else if endpoint = "https://storage.internal/" then .ok (https "storage.internal")
  else .error "Invalid URL"
where
  https (hostname : String) : Url :=
    { protocol := "https:", username := "", password := "", hostname, port := "", search := ""
      hash := "" }

/-- The name has a public address and a private one. -/
def answers : List LookupAddress :=
  [⟨"10.0.0.5", 4⟩, ⟨"8.8.8.8", 4⟩]

def lookupAll (hostname : String) : Except String (List LookupAddress) :=
  if hostname = "storage.internal" then .ok answers else .error "getaddrinfo ENOTFOUND"

def dnsLookup (hostname : String) (_ : DnsOptions) : Except LookupError (List LookupAddress) :=
  if hostname = "storage.internal" then .ok answers
  else .error ⟨"getaddrinfo ENOTFOUND", some "ENOTFOUND"⟩

theorem reserved_literal : ReservedHost "[::ffff:7f00:1]" :=
  .inr ⟨0x00000000000000000000ffff7f000001#128, false, by decide +kernel, by decide +kernel⟩

theorem reserved_answer : Reserved "10.0.0.5" :=
  .inl ⟨0x0a000005#32, by decide +kernel, by decide +kernel⟩

end Internal

open Internal in
/-- The private answer is private and is not called back with, and both endpoints are rejected. -/
theorem private_addresses_blocked_example :
    isPrivateAddress "10.0.0.5" = true ∧
      SafeAnswer (.ok answers) true
        (createSafeProviderLookup dnsLookup {} "storage.internal" { all := true }) ∧
      (∃ message, assertSafeProviderEndpoint parseUrl lookupAll "https://[::ffff:127.0.0.1]/" {} =
        .error message) ∧
      ∃ message, assertSafeProviderEndpoint parseUrl lookupAll "https://storage.internal/" {} =
        .error message := by
  obtain ⟨classified, looksUp, rejects⟩ := private_addresses_blocked
  refine ⟨classified "10.0.0.5" reserved_answer,
    looksUp dnsLookup {} "storage.internal" { all := true } rfl, ?_, ?_⟩
  · exact rejects parseUrl lookupAll _ {} (parseUrl.https "[::ffff:7f00:1]") rfl rfl
      (.inl reserved_literal)
  · exact rejects parseUrl lookupAll _ {} (parseUrl.https "storage.internal") rfl rfl
      (.inr ⟨by decide +kernel, answers, rfl, _, List.mem_cons_self, reserved_answer⟩)

end Mosp.Guarantees
