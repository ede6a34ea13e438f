import Mosp.Auth.Credentials
import Mosp.Sql.Alone

/-!
# What becomes of a credential

What the services do to the credentials when each call runs on its own: which
token they issue, and which tokens the authenticator accepts afterwards.
-/

namespace Mosp.Auth

open Mosp.Concurrency Mosp.Data Mosp.Database Mosp.Sql

/-! ## Tokens -/

/-- The token that a client makes of an issued pair. -/
def tokenOf (keyId secret : String) : String :=
  keyId ++ "." ++ secret

/-- A pair that the parser takes for the two parts of a token. -/
structure IsPair (keyId secret : String) : Prop where
  keyId_length : keyId.length ≤ 100
  secret_length : 20 ≤ secret.length ∧ secret.length ≤ 512
  keyId_part : isTokenPart "mosp_".toList keyId.toList = true
  secret_part : isTokenPart "mosp_secret_".toList secret.toList = true

theorem dot_not_token : isTokenCharacter '.' = false := by
  decide

/-- A part of a token contains no dot and is not empty. -/
theorem isTokenPart_noDot {start text : List Char} (part : isTokenPart start text = true)
    (noDot : '.' ∉ start) : '.' ∉ text ∧ text ≠ [] := by
  simp only [isTokenPart, Bool.and_eq_true, decide_eq_true_eq, List.all_eq_true] at part
  obtain ⟨⟨begins, longer⟩, characters⟩ := part
  obtain ⟨rest, rfl⟩ := List.isPrefixOf_iff_prefix.mp begins
  constructor
  · intro member
    rcases List.mem_append.mp member with inStart | inRest
    · exact noDot inStart
    · have token := characters '.' (by simpa using inRest)
      rw [dot_not_token] at token
      contradiction
  · rintro empty
    rw [empty] at longer
    exact absurd longer (Nat.not_lt_zero _)

theorem tokenOf_toList (keyId secret : String) :
    (tokenOf keyId secret).toList = keyId.toList ++ '.' :: secret.toList := by
  simp [tokenOf]

/-- What stands after the first dot of a text. -/
theorem split_dot {text secret : List Char}
    (after : (text.dropWhile (· != '.')).drop 1 = secret) (nonempty : secret ≠ []) :
    text = text.takeWhile (· != '.') ++ '.' :: secret := by
  cases rest : text.dropWhile (· != '.') with
  | nil =>
      rw [rest] at after
      exact absurd after.symm nonempty
  | cons first others =>
      have head := List.head?_dropWhile_not (· != '.') text
      simp only [rest, List.head?_cons, bne_eq_false_iff_eq] at head
      rw [rest, List.drop_one, List.tail_cons] at after
      subst head after
      rw [← rest, List.takeWhile_append_dropWhile]

/-- The parser cuts a token at its first dot. -/
theorem parseApiCredentialToken_iff {text keyId secret : String} :
    parseApiCredentialToken (some text) = some (keyId, secret) ↔
      text = tokenOf keyId secret ∧ IsPair keyId secret := by
  constructor
  · intro parsed
    simp only [parseApiCredentialToken, Option.bind_eq_bind, Option.bind_some] at parsed
    split at parsed
    · contradiction
    · rename_i nonempty
      split at parsed
      · contradiction
      · rename_i accepted
        obtain ⟨rfl, rfl⟩ := Prod.mk.inj (Option.some.inj parsed)
        simp only [Bool.or_eq_true, not_or, List.isEmpty_iff] at nonempty
        simp only [Bool.or_eq_true, decide_eq_true_eq, Bool.not_eq_true', not_or, Nat.not_lt,
          Bool.not_eq_false] at accepted
        obtain ⟨⟨⟨⟨keyLength, secretShort⟩, secretLong⟩, keyPart⟩, secretPart⟩ := accepted
        constructor
        · apply String.toList_injective
          rw [tokenOf_toList, String.toList_ofList, String.toList_ofList]
          exact split_dot rfl nonempty.2
        · exact
            { keyId_length := by
                rw [String.length_ofList]
                exact keyLength
              secret_length := by
                rw [String.length_ofList]
                exact ⟨secretShort, secretLong⟩
              keyId_part := (congrArg (isTokenPart _) String.toList_ofList).trans keyPart
              secret_part := (congrArg (isTokenPart _) String.toList_ofList).trans secretPart }
  · rintro ⟨rfl, pair⟩
    obtain ⟨noDot, keyNonempty⟩ := isTokenPart_noDot pair.keyId_part (by decide)
    obtain ⟨-, secretNonempty⟩ := isTokenPart_noDot pair.secret_part (by decide)
    have before : ∀ character ∈ keyId.toList, (character != '.') = true := by
      intro character member
      rw [bne_iff_ne]
      rintro rfl
      exact noDot member
    have accepted : ¬(100 < keyId.toList.length ∨ secret.toList.length < 20 ∨
        512 < secret.toList.length) := by
      have keyLength := pair.keyId_length
      have secretLength := pair.secret_length
      simp only [String.length_toList]
      omega
    simp only [parseApiCredentialToken, Option.bind_eq_bind, Option.bind_some, tokenOf_toList,
      List.takeWhile_append_of_pos before, List.dropWhile_append_of_pos before]
    rw [List.takeWhile_cons_of_neg (by decide), List.dropWhile_cons_of_neg (by decide),
      List.append_nil, List.drop_one, List.tail_cons, pair.keyId_part, pair.secret_part]
    simp only [not_or, Nat.not_lt] at accepted
    simp [keyNonempty, secretNonempty, accepted]

/-- What is documented of the cryptography: the alphabets and the lengths. -/
structure Crypto.Documented (crypto : Crypto) : Prop where
  /-- Unpadded `base64url` has four characters for three bytes. -/
  randomText_length : ∀ length randomness, 0 < length →
    (crypto.randomText length randomness).length = (4 * length + 2) / 3
  randomText_characters : ∀ length randomness,
    ∀ character ∈ (crypto.randomText length randomness).toList, isTokenCharacter character = true
  sha256Hex_length : ∀ text, (crypto.sha256Hex text).length = 64
  sha256Hex_characters : ∀ text, ∀ character ∈ (crypto.sha256Hex text).toList,
    ApiCredentialAuthenticator.isHexCharacter character = true

variable {crypto : Crypto}

theorem isTokenPart_append {start : String} {rest : String} (nonempty : 0 < rest.length)
    (characters : ∀ character ∈ rest.toList, isTokenCharacter character = true) :
    isTokenPart start.toList (start ++ rest).toList = true := by
  rw [← String.length_toList] at nonempty
  simp only [isTokenPart, String.toList_append, List.length_append, List.drop_left, Bool.and_eq_true,
    decide_eq_true_eq, List.all_eq_true]
  refine ⟨⟨List.isPrefixOf_iff_prefix.mpr (List.prefix_append _ _), ?_⟩, characters⟩
  exact Nat.lt_add_of_pos_right nonempty

/-- Every generated pair is one that the parser accepts. -/
theorem isPair_generated (documented : crypto.Documented) (keyRandomness secretRandomness : Nat) :
    IsPair ("mosp_" ++ crypto.randomText 18 keyRandomness)
      ("mosp_secret_" ++ crypto.randomText 32 secretRandomness) := by
  have keyLength := documented.randomText_length 18 keyRandomness (by decide)
  have secretLength := documented.randomText_length 32 secretRandomness (by decide)
  have marks : "mosp_".length = 5 ∧ "mosp_secret_".length = 12 := by
    decide
  constructor
  · rw [String.length_append, keyLength, marks.1]
    decide
  · rw [String.length_append, secretLength, marks.2]
    decide
  · apply isTokenPart_append
    · rw [keyLength]
      decide
    · exact documented.randomText_characters 18 keyRandomness
  · apply isTokenPart_append
    · rw [secretLength]
      decide
    · exact documented.randomText_characters 32 secretRandomness

theorem safeExpectedHash_sha256Hex (documented : crypto.Documented) (text : String) :
    ApiCredentialAuthenticator.safeExpectedHash (some (crypto.sha256Hex text)) =
      crypto.sha256Hex text := by
  rw [ApiCredentialAuthenticator.safeExpectedHash, if_pos]
  exact ⟨documented.sha256Hex_length text,
    List.all_eq_true.mpr (documented.sha256Hex_characters text)⟩

/-! ## Rows -/

/-- What decides about a credential. -/
structure ShownCredential where
  organizationId : Id
  namespaceId : Id
  keyId : String
  secretHash : String
  expiresAt : Option Time
  status : ApiCredentialStatus
  deriving DecidableEq

def ApiCredential.shown (row : ApiCredential) : ShownCredential :=
  { organizationId := row.organizationId
    namespaceId := row.namespaceId
    keyId := row.keyId
    secretHash := row.secretHash
    expiresAt := row.expiresAt
    status := row.status }

/-- The credentials of a database. -/
def credentialsOf (db : Db) (id : Id) : Option ShownCredential :=
  (db.apiCredential.get? id).map ApiCredential.shown

theorem credentialsOf_put (db : Db) (row : ApiCredential) :
    credentialsOf (db.write (.apiCredential row)) =
      Function.update (credentialsOf db) row.id (some row.shown) := by
  funext id
  by_cases same : id = row.id
  · subst same
    rw [Function.update_self]
    exact congrArg (Option.map ApiCredential.shown) (Table.get?_put_self db.apiCredential row)
  · rw [Function.update_of_ne same]
    exact congrArg (Option.map ApiCredential.shown) (Table.get?_put_ne db.apiCredential same)

theorem credentialsOf_mem {db : Db} {row : ApiCredential} (member : row ∈ db.apiCredential) :
    credentialsOf db row.id = some row.shown :=
  congrArg (Option.map ApiCredential.shown) (Table.get?_some.mpr ⟨member, rfl⟩)

/-! ## The transactions -/

section

variable {constraints : Db → Option Failure} {time : Time} {state : State Db}
  {organizationId namespaceId credentialId : Id} {generated : GeneratedCredential}
  {expiresAt : Option Time} {now : Time} {metadata : ApiCredentialActionMetadata}

open ApiCredentialService ApiCredentialAuthenticator

theorem wp_includeNamespace {credential : ApiCredential}
    {returns : VirtualNamespace → State Db → Prop} (goes : ∀ included, returns included state) :
    Tx.wp constraints time (includeNamespace credential) returns (fun _ => True) state := by
  rw [includeNamespace, Tx.wp_findFirstOrThrow]
  split
  · trivial
  · exact goes _

theorem wp_writeActivity {action : String} {returns : Unit → State Db → Prop}
    (goes : ∀ after : State Db, credentialsOf after.db = credentialsOf state.db → returns () after) :
    Tx.wp constraints time (writeActivity organizationId metadata action credentialId) returns
      (fun _ => True) state := by
  simp only [writeActivity, Program.bind_eq, Program.pure_eq, Tx.wp_bind, Tx.wp_randomUUID,
    Tx.wp_create, Tx.wp_pure]
  split
  · trivial
  · apply Tx.Written.of_goes
    exact goes _ rfl

/-- What the transaction of `create` commits. -/
def RowCreated (organizationId namespaceId : Id) (generated : GeneratedCredential)
    (expiresAt : Option Time) (before : Id → Option ShownCredential)
    (created : ApiCredential × VirtualNamespace) (after : Id → Option ShownCredential) : Prop :=
  after = Function.update before created.1.id
      (some { organizationId, namespaceId, expiresAt
              keyId := generated.keyId
              secretHash := generated.secretHash
              status := .active }) ∧
    created.1.keyId = generated.keyId ∧ created.1.expiresAt = expiresAt

/-- What the transaction of `rotate` commits. -/
def RowRotated (credentialId : Id) (generated : GeneratedCredential) (expiresAt : Option Time)
    (before : Id → Option ShownCredential) (updated : ApiCredential × VirtualNamespace)
    (after : Id → Option ShownCredential) : Prop :=
  ∃ old, before credentialId = some old ∧
    after = Function.update before credentialId
      (some { old with
              keyId := generated.keyId
              secretHash := generated.secretHash
              expiresAt }) ∧
    updated.1.id = credentialId ∧ updated.1.keyId = generated.keyId ∧ updated.1.expiresAt = expiresAt

/-- What the transaction of `revoke` commits. -/
def RowRevoked (credentialId : Id) (before : Id → Option ShownCredential)
    (_ : ApiCredential × VirtualNamespace) (after : Id → Option ShownCredential) : Prop :=
  ∃ old, before credentialId = some old ∧
    after = Function.update before credentialId (some { old with status := .revoked })

theorem wp_createTransaction :
    Tx.wp constraints time
      (createTransaction organizationId namespaceId generated expiresAt metadata)
      (fun created after => RowCreated organizationId namespaceId generated expiresAt
        (credentialsOf state.db) created (credentialsOf after.db))
      (fun _ => True) state := by
  simp only [createTransaction, Program.bind_eq, Tx.wp_bind, Tx.wp_findFirst]
  split
  · trivial
  · rw [Tx.wp_ite]
    refine ⟨fun _ => trivial, fun _ => ?_⟩
    simp only [Tx.wp_bind, Tx.wp_randomUUID, Tx.wp_create, Program.pure_eq, Tx.wp_pure]
    split
    · trivial
    · apply Tx.Written.of_goes
      apply wp_includeNamespace
      intro included
      apply wp_writeActivity
      intro after kept
      refine ⟨?_, rfl, rfl⟩
      rw [kept]
      exact credentialsOf_put _ _

theorem wp_rotateTransaction :
    Tx.wp constraints time
      (rotateTransaction organizationId credentialId generated expiresAt now metadata)
      (fun updated after => RowRotated credentialId generated expiresAt (credentialsOf state.db)
        updated (credentialsOf after.db))
      (fun _ => True) state := by
  simp only [rotateTransaction, Program.bind_eq, Tx.wp_bind, Tx.wp_noting, Tx.wp_findFirst,
    apiCredential_toRelation_table]
  cases found : state.db.apiCredential.find? fun row =>
      row.id == credentialId && row.organizationId == organizationId with
  | none => trivial
  | some current =>
      obtain ⟨member, holds⟩ := Table.find?_some found
      simp only [Bool.and_eq_true, beq_iff_eq] at holds
      obtain ⟨rfl, _⟩ := holds
      simp only [Tx.wp_ite]
      refine ⟨fun active => ?_, fun _ => trivial⟩
      simp only [Tx.wp_bind, Program.pure_eq, Tx.wp_pure]
      apply Tx.wp_update_byId member
      · exact beq_self_eq_true current.id
      · exact fun other _ same => beq_iff_eq.mp same
      apply Tx.Written.of_goes
      apply wp_includeNamespace
      intro included
      apply wp_writeActivity
      intro after kept
      refine ⟨current.shown, ?_, ?_, rfl, rfl, rfl⟩
      · exact credentialsOf_mem member
      · have status : current.status = .active := by
          simp only [ApiCredential.isActive, Bool.and_eq_true, beq_iff_eq] at active
          exact active.1
        rw [kept]
        apply (credentialsOf_put _ _).trans
        simp only [apiCredential_updated, ApiCredential.shown, status]

theorem wp_revokeTransaction :
    Tx.wp constraints time (revokeTransaction organizationId credentialId metadata)
      (fun updated after => RowRevoked credentialId (credentialsOf state.db) updated
        (credentialsOf after.db))
      (fun _ => True) state := by
  simp only [revokeTransaction, Program.bind_eq, Tx.wp_bind, Tx.wp_findFirst,
    apiCredential_toRelation_table]
  cases found : state.db.apiCredential.find? fun row =>
      row.id == credentialId && row.organizationId == organizationId with
  | none => trivial
  | some current =>
      obtain ⟨member, holds⟩ := Table.find?_some found
      simp only [Bool.and_eq_true, beq_iff_eq] at holds
      obtain ⟨rfl, _⟩ := holds
      simp only [Tx.wp_ite]
      refine ⟨fun _ => trivial, fun _ => ?_⟩
      simp only [Tx.wp_bind, Tx.wp_now, Program.pure_eq, Tx.wp_pure]
      apply Tx.wp_update_byId member
      · exact beq_self_eq_true current.id
      · exact fun other _ same => beq_iff_eq.mp same
      apply Tx.Written.of_goes
      apply wp_includeNamespace
      intro included
      apply wp_writeActivity
      intro after kept
      refine ⟨current.shown, credentialsOf_mem member, ?_⟩
      rw [kept]
      apply (credentialsOf_put _ _).trans
      simp only [apiCredential_updated, ApiCredential.shown]

/-- Recording the use of a credential changes nothing that decides about it. -/
theorem credentialsOf_touch {db : Db} {row : ApiCredential} (member : row ∈ db.apiCredential)
    (usedAt updatedAt : Time) :
    credentialsOf (db.write (.apiCredential { row with lastUsedAt := some usedAt, updatedAt })) =
      credentialsOf db := by
  apply (credentialsOf_put _ _).trans
  apply Function.update_eq_self_iff.mpr
  exact (credentialsOf_mem member).symm

/-- However the constraints turn out, recording the use decides nothing. -/
theorem wp_touch_any {row : ApiCredential} (usedAt : Time) :
    Tx.wp constraints time
      (apiCredential.updateMany (fun other => other.id == row.id && other.status == .active)
        fun other => { other with lastUsedAt := some usedAt } : Auth.Tx Nat)
      (fun _ after => credentialsOf after.db = credentialsOf state.db) (fun _ => True) state := by
  apply Tx.wp_updateMany_byId row.id
  · intro other matches_
    simp only [Bool.and_eq_true, beq_iff_eq] at matches_
    exact matches_.1
  · intro other otherMem _
    apply Tx.Written.of_goes
    exact credentialsOf_touch otherMem usedAt time
  · exact fun _ => rfl

theorem wp_touch {row : ApiCredential} (member : row ∈ state.db.apiCredential)
    (active : row.status = .active) (usedAt : Time)
    (valid : ∀ updatedAt, constraints
      (state.db.write (.apiCredential { row with lastUsedAt := some usedAt, updatedAt })) = none) :
    Tx.wp constraints time
      (apiCredential.updateMany (fun other => other.id == row.id && other.status == .active)
        fun other => { other with lastUsedAt := some usedAt } : Auth.Tx Nat)
      (fun count after => count = 1 ∧ credentialsOf after.db = credentialsOf state.db)
      (fun _ => False) state := by
  apply Tx.wp_updateMany_byId row.id
  · intro other matches_
    simp only [Bool.and_eq_true, beq_iff_eq] at matches_
    exact matches_.1
  · intro other otherMem matches_
    simp only [Bool.and_eq_true, beq_iff_eq] at matches_
    obtain rfl := Table.eq_of_id_eq otherMem member matches_.1
    apply Tx.Written.of_valid
    · exact valid time
    · exact ⟨rfl, credentialsOf_touch member usedAt time⟩
  · intro none_
    have matches_ := none_ row member
    simp [active] at matches_

end

/-! ## Calls on their own -/

abbrev AuthStore := Store Db Write Lock Unit

/-- What the scheduler may choose for a command. -/
abbrev May := {β : Type} → Exchange Elsewhere Db Write Lock Failure β → Outcome Failure Unit → Prop

/-- Commands may fail. -/
def Anyhow : May :=
  fun _ _ => True

/-- No command fails. -/
def Undisturbed : May :=
  fun _ outcome => outcome.failure = none

section

variable (constraints : Db → Option Failure)
  (answer : {β : Type} → Elsewhere β → Unit → Nat → Unit → β × Unit) (may : May) (clock : Time)

/-- The call, run on its own, ends with no transaction open and the constraints as they have to
be. -/
def EndsAtRest {α : Type} (service : Service α)
    (ends : Except Failure α → Db → Prop) (state : State Db) : Prop :=
  service.Ends (readCommitted constraints answer Phase) may 0
    (fun result after => ∃ ended : State Db, after = (Store.rest ended clock () : AuthStore) ∧
      constraints ended.db = none ∧ ends result ended.db)
    (Store.rest state clock ())

end

/-- A result comes with what it says about the credentials, an error with the credentials as they
were. -/
def Commits {α : Type} (before : Id → Option ShownCredential)
    (post : α → (Id → Option ShownCredential) → Prop) :
    Except Failure α → Db → Prop
  | .ok value, after => post value (credentialsOf after)
  | .error _, after => credentialsOf after = before

namespace EndsAtRest

variable {constraints : Db → Option Failure}
  {answer : {β : Type} → Elsewhere β → Unit → Nat → Unit → β × Unit} {may : May} {clock : Time}
  {state : State Db} {α β : Type} {ends : Except Failure α → Db → Prop}

theorem pure {value : α} (valid : constraints state.db = none)
    (holds : ends (.ok value) state.db) :
    EndsAtRest constraints answer may clock (.pure value) ends state :=
  ⟨state, rfl, valid, holds⟩

theorem throw {error : Failure} (valid : constraints state.db = none)
    (holds : ends (.error error) state.db) :
    EndsAtRest constraints answer may clock (.throw error : Service α) ends state :=
  ⟨state, rfl, valid, holds⟩

theorem mono {ends' : Except Failure α → Db → Prop} {service : Service α}
    (holds : EndsAtRest constraints answer may clock service ends state)
    (weaker : ∀ result db, ends result db → ends' result db) :
    EndsAtRest constraints answer may clock service ends' state := by
  apply Program.Ends.mono holds
  rintro result after ⟨ended, rfl, valid, reached⟩
  exact ⟨ended, rfl, valid, weaker result _ reached⟩

theorem bind {service : Service β} {rest : β → Service α}
    {middle : Except Failure β → Db → Prop}
    (first : EndsAtRest constraints answer may clock service middle state)
    (goes : ∀ (value : β) (ended : State Db), constraints ended.db = none →
      middle (.ok value) ended.db →
      EndsAtRest constraints answer may clock (rest value) ends ended)
    (fails : ∀ error db, middle (.error error) db → ends (.error error) db) :
    EndsAtRest constraints answer may clock (Program.bind service rest) ends state := by
  unfold EndsAtRest
  rw [Program.ends_bind]
  apply Program.Ends.mono first
  rintro result after ⟨ended, rfl, valid, reached⟩
  cases result with
  | ok value => exact goes value ended valid reached
  | error error => exact ⟨ended, rfl, valid, fails error _ reached⟩

theorem now {rest : Time → Service α}
    (holds : EndsAtRest constraints answer may clock (rest clock) ends state) :
    EndsAtRest constraints answer may clock (Program.bind currentTime rest) ends state :=
  fun _ _ => ⟨clock, _, rfl, holds⟩

theorem draw {note : Nat → Option Phase} {rest : Nat → Service α}
    (holds : ∀ randomness, EndsAtRest constraints answer may clock (rest randomness) ends
      state.issue) :
    EndsAtRest constraints answer may clock (Program.bind (Auth.draw note) rest) ends state :=
  fun _ _ => ⟨state.nextId, _, rfl, holds _⟩

/-- A transaction commits or leaves the credentials as they were. -/
theorem transaction {body : Auth.Tx α} {note : Except Failure α → Option Phase}
    (post : α → (Id → Option ShownCredential) → Prop) (valid : constraints state.db = none)
    (holds : Tx.wp constraints clock body (fun value after => post value (credentialsOf after.db))
      (fun _ => True) state) :
    EndsAtRest constraints answer may clock (Auth.transaction body note)
      (Commits (credentialsOf state.db) post) state := by
  apply Tx.ends_transact
  · exact fun _ _ error _ _ nextId => ⟨⟨state.db, nextId⟩, rfl, valid, rfl⟩
  · apply Tx.wp_mono (Tx.wp_valid valid holds)
    · exact fun value after reached => ⟨after, rfl, reached.2, reached.1⟩
    · exact fun error _ nextId => ⟨⟨state.db, nextId⟩, rfl, valid, rfl⟩

/-- A transaction that is not disturbed ends as its body does. -/
theorem transaction_undisturbed {body : Auth.Tx α} {note : Except Failure α → Option Phase}
    (valid : constraints state.db = none)
    (holds : Tx.wp constraints clock body
      (fun value after => ends (.ok value) after.db)
      (fun error => ends (.error error) state.db) state) :
    EndsAtRest constraints answer Undisturbed clock (Auth.transaction body note) ends state := by
  apply Tx.ends_transact
  · intro _ _ outcome error calm failed
    rw [calm] at failed
    contradiction
  · apply Tx.wp_mono (Tx.wp_valid valid holds)
    · exact fun value after reached => ⟨after, rfl, reached.2, reached.1⟩
    · exact fun error reached nextId => ⟨⟨state.db, nextId⟩, rfl, valid, reached⟩

end EndsAtRest

/-! ## The services -/

section

variable {constraints : Db → Option Failure}
  {answer : {β : Type} → Elsewhere β → Unit → Nat → Unit → β × Unit} {may : May} {clock : Time}
  {state : State Db} {organizationId credentialId : Id} {metadata : ApiCredentialActionMetadata}

open ApiCredentialService ApiCredentialAuthenticator

theorem toSummary_atRest {credential : ApiCredential} {included : VirtualNamespace}
    (valid : constraints state.db = none) :
    EndsAtRest constraints answer may clock (toSummary credential included)
      (fun result db => db = state.db ∧
        ∃ summary, result = .ok summary ∧ summary.id = credential.id ∧
          summary.keyId = credential.keyId ∧ summary.expiresAt = credential.expiresAt) state :=
  EndsAtRest.now (EndsAtRest.pure valid ⟨rfl, _, rfl, rfl, rfl, rfl⟩)

/-- A generated pair with its hash. -/
def Generates (crypto : Crypto) (generated : GeneratedCredential) : Prop :=
  IsPair generated.keyId generated.secret ∧
    generated.secretHash = crypto.sha256Hex generated.secret

theorem generateCredential_atRest (documented : crypto.Documented)
    (valid : constraints state.db = none) :
    EndsAtRest constraints answer may clock (generateCredential crypto)
      (fun result db => db = state.db ∧
        ∃ generated, result = .ok generated ∧ Generates crypto generated) state := by
  apply EndsAtRest.draw
  intro keyRandomness
  apply EndsAtRest.draw
  intro secretRandomness
  exact EndsAtRest.pure valid
    ⟨rfl, _, rfl, isPair_generated documented keyRandomness secretRandomness, rfl⟩

/-- What `create` does to the credentials. -/
def Creates (crypto : Crypto) (organizationId namespaceId : Id) (before : Id → Option ShownCredential)
    (created : CreatedApiCredential) (after : Id → Option ShownCredential) : Prop :=
  IsPair created.credential.keyId created.secret ∧
    after = Function.update before created.credential.id
      (some { organizationId, namespaceId
              keyId := created.credential.keyId
              secretHash := crypto.sha256Hex created.secret
              expiresAt := created.credential.expiresAt
              status := .active })

/-- What `rotate` does to the credentials. -/
def Rotates (crypto : Crypto) (credentialId : Id) (before : Id → Option ShownCredential)
    (created : CreatedApiCredential) (after : Id → Option ShownCredential) : Prop :=
  IsPair created.credential.keyId created.secret ∧ created.credential.id = credentialId ∧
    ∃ old, before credentialId = some old ∧ after = Function.update before credentialId
      (some { old with
              keyId := created.credential.keyId
              secretHash := crypto.sha256Hex created.secret
              expiresAt := created.credential.expiresAt })

/-- What `revoke` does to the credentials. -/
def Revokes (credentialId : Id) (before : Id → Option ShownCredential) (_ : ApiCredentialSummary)
    (after : Id → Option ShownCredential) : Prop :=
  ∃ old, before credentialId = some old ∧
    after = Function.update before credentialId (some { old with status := .revoked })

theorem create_atRest (documented : crypto.Documented) (valid : constraints state.db = none)
    {input : ApiCredentialCreateRequest} :
    EndsAtRest constraints answer may clock (create crypto organizationId input metadata)
      (Commits (credentialsOf state.db) (Creates crypto organizationId input.namespaceId
        (credentialsOf state.db))) state := by
  apply EndsAtRest.now
  cases parsed : parseExpiry input.expiresAt clock with
  | error error => exact EndsAtRest.throw valid rfl
  | ok expiresAt =>
      apply EndsAtRest.bind (generateCredential_atRest documented valid)
      · rintro generated drawn drawnValid ⟨same, _, ⟨⟩, pair, hashed⟩
        apply EndsAtRest.bind (EndsAtRest.transaction _ drawnValid wp_createTransaction)
        · rintro ⟨credential, included⟩ ended endedValid ⟨created, committedKey, committedExpiry⟩
          have keyId : credential.keyId = generated.keyId := committedKey
          have expiry : credential.expiresAt = expiresAt := committedExpiry
          apply EndsAtRest.bind (toSummary_atRest endedValid)
          · rintro summary summarized summarizedValid ⟨kept, _, ⟨⟩, id, summaryKey, summaryExpiry⟩
            apply EndsAtRest.pure summarizedValid
            constructor
            · simpa only [summaryKey, keyId] using pair
            · rw [kept, created, same]
              simp only [summaryKey, keyId, summaryExpiry, expiry, hashed, id]
          · rintro error db ⟨_, _, ⟨⟩, _⟩
        · exact fun error db kept => kept.trans (congrArg credentialsOf same)
      · rintro error db ⟨_, _, ⟨⟩, _⟩

theorem rotate_atRest (documented : crypto.Documented) (valid : constraints state.db = none)
    {input : ApiCredentialRotateRequest} :
    EndsAtRest constraints answer may clock
      (rotate crypto organizationId credentialId input metadata)
      (Commits (credentialsOf state.db) (Rotates crypto credentialId (credentialsOf state.db)))
      state := by
  apply EndsAtRest.now
  cases parsed : parseExpiry input.expiresAt clock with
  | error error => exact EndsAtRest.throw valid rfl
  | ok expiresAt =>
      apply EndsAtRest.bind (generateCredential_atRest documented valid)
      · rintro generated drawn drawnValid ⟨same, _, ⟨⟩, pair, hashed⟩
        apply EndsAtRest.bind (EndsAtRest.transaction _ drawnValid wp_rotateTransaction)
        · rintro ⟨credential, included⟩ ended endedValid
            ⟨old, found, rotated, committedId, committedKey, committedExpiry⟩
          have keyId : credential.keyId = generated.keyId := committedKey
          have expiry : credential.expiresAt = expiresAt := committedExpiry
          apply EndsAtRest.bind (toSummary_atRest endedValid)
          · rintro summary summarized summarizedValid ⟨kept, _, ⟨⟩, id, summaryKey, summaryExpiry⟩
            apply EndsAtRest.pure summarizedValid
            constructor
            · simpa only [summaryKey, keyId] using pair
            · refine ⟨id.trans committedId, old, same ▸ found, ?_⟩
              rw [kept, rotated, same]
              simp only [summaryKey, keyId, summaryExpiry, expiry, hashed]
          · rintro error db ⟨_, _, ⟨⟩, _⟩
        · exact fun error db kept => kept.trans (congrArg credentialsOf same)
      · rintro error db ⟨_, _, ⟨⟩, _⟩

theorem revoke_atRest (valid : constraints state.db = none) :
    EndsAtRest constraints answer may clock (revoke organizationId credentialId metadata)
      (Commits (credentialsOf state.db) (Revokes credentialId (credentialsOf state.db))) state := by
  apply EndsAtRest.bind (EndsAtRest.transaction _ valid wp_revokeTransaction)
  · rintro ⟨credential, included⟩ ended endedValid ⟨old, found, revoked⟩
    apply EndsAtRest.mono (toSummary_atRest endedValid)
    rintro _ db ⟨rfl, summary, rfl, -⟩
    exact ⟨old, found, revoked⟩
  · exact fun error db kept => kept

/-! ## The authenticator -/

/-- The credential that the authenticator accepts a token for. -/
def acceptedRow (crypto : Crypto) (db : Db) (now : Time) (token : Option String) :
    Option ApiCredential :=
  (parseApiCredentialToken token).bind fun (keyId, secret) =>
    (db.apiCredential.find? fun row => row.keyId == keyId).filter fun row =>
      decide (hashApiCredentialSecret crypto secret = safeExpectedHash (some row.secretHash)) &&
        row.isActive now

def identityOf (row : ApiCredential) : ApiCredentialIdentity :=
  { credentialId := row.id
    namespaceId := row.namespaceId
    organizationId := row.organizationId
    principalId := row.id }

/-- The use of a credential can always be recorded. -/
def Touchable (constraints : Db → Option Failure) (db : Db) : Prop :=
  ∀ row ∈ db.apiCredential, ∀ usedAt updatedAt,
    constraints (db.write (.apiCredential { row with lastUsedAt := some usedAt, updatedAt })) = none

/-- Looking a credential up changes nothing. -/
theorem findKey_atRest (valid : constraints state.db = none) {keyId : String} :
    EndsAtRest constraints answer Undisturbed clock
      (query (apiCredential.findFirst fun row => row.keyId == keyId))
      (fun result db => db = state.db ∧
        result = .ok (state.db.apiCredential.find? fun row => row.keyId == keyId)) state :=
  EndsAtRest.transaction_undisturbed valid ⟨rfl, rfl⟩

theorem touch_undisturbed {row : ApiCredential} {note : Except Failure Nat → Option Phase}
    {usedAt : Time} (valid : constraints state.db = none) (member : row ∈ state.db.apiCredential)
    (active : row.status = .active)
    (touchable : ∀ usedAt updatedAt, constraints
      (state.db.write (.apiCredential { row with lastUsedAt := some usedAt, updatedAt })) = none) :
    EndsAtRest constraints answer Undisturbed clock
      (query (apiCredential.updateMany (fun other => other.id == row.id && other.status == .active)
        fun other => { other with lastUsedAt := some usedAt }) note)
      (fun result _ => result = .ok 1) state := by
  apply EndsAtRest.transaction_undisturbed valid
  apply Tx.wp_mono (wp_touch member active usedAt (touchable usedAt))
  · rintro count after ⟨rfl, _⟩
    rfl
  · exact fun error impossible => impossible.elim

theorem authenticate_undisturbed (valid : constraints state.db = none)
    (touchable : Touchable constraints state.db) {token : Option String} :
    EndsAtRest constraints answer Undisturbed clock (authenticate crypto token)
      (fun result _ => result = (match acceptedRow crypto state.db clock token with
        | some row => .ok (identityOf row)
        | none => .error .apiCredentialAuthenticationError)) state := by
  unfold authenticate acceptedRow
  cases parsed : parseApiCredentialToken token with
  | none => exact EndsAtRest.throw valid rfl
  | some pair =>
      obtain ⟨keyId, secret⟩ := pair
      apply EndsAtRest.bind (findKey_atRest valid)
      · rintro found ended endedValid ⟨same, ⟨⟩⟩
        apply EndsAtRest.now
        cases stored : state.db.apiCredential.find? fun row => row.keyId == keyId with
        | none => exact EndsAtRest.throw endedValid (by simp [stored])
        | some row =>
            have member := (Table.find?_some stored).1
            simp only [Option.bind_some, stored, Option.filter_some]
            split
            · rename_i accepted
              have checked : (decide (hashApiCredentialSecret crypto secret =
                  safeExpectedHash (some row.secretHash)) && row.isActive clock) = true := accepted
              simp only [checked, if_true]
              have active : row.status = .active := by
                simp only [ApiCredential.isActive, Bool.and_eq_true, beq_iff_eq] at checked
                exact checked.2.1
              rw [← same] at member touchable
              apply EndsAtRest.bind (touch_undisturbed endedValid member active (touchable row member))
              · rintro count touched touchedValid ⟨⟩
                exact EndsAtRest.pure touchedValid rfl
              · rintro error db ⟨⟩
            · rename_i refused
              have checked : (decide (hashApiCredentialSecret crypto secret =
                  safeExpectedHash (some row.secretHash)) && row.isActive clock) = false :=
                Bool.eq_false_iff.mpr refused
              simp only [checked]
              exact EndsAtRest.throw endedValid rfl
      · rintro error db ⟨_, ⟨⟩⟩

/-- Authenticating changes nothing that decides about a credential, however it turns out. -/
theorem authenticate_atRest (valid : constraints state.db = none) {token : Option String} :
    EndsAtRest constraints answer may clock (authenticate crypto token)
      (fun _ db => credentialsOf db = credentialsOf state.db) state := by
  unfold authenticate
  cases parsed : parseApiCredentialToken token with
  | none => exact EndsAtRest.throw valid rfl
  | some pair =>
      obtain ⟨keyId, secret⟩ := pair
      have looksUp : EndsAtRest constraints answer may clock
          (query (apiCredential.findFirst fun row => row.keyId == keyId))
          (Commits (credentialsOf state.db) fun _ after => after = credentialsOf state.db) state :=
        EndsAtRest.transaction _ valid rfl
      apply EndsAtRest.bind looksUp
      · intro found ended endedValid same
        have same : credentialsOf ended.db = credentialsOf state.db := same
        rw [← same]
        apply EndsAtRest.now
        cases found with
        | none => exact EndsAtRest.throw endedValid rfl
        | some row =>
            simp only
            split
            · apply EndsAtRest.bind (EndsAtRest.transaction
                (fun _ after => after = credentialsOf ended.db) endedValid (wp_touch_any clock))
              · intro count touched touchedValid kept
                unfold Program.throwIf
                split
                · exact EndsAtRest.throw touchedValid kept
                · exact EndsAtRest.pure touchedValid kept
              · exact fun error db kept => kept
            · exact EndsAtRest.throw endedValid rfl
      · exact fun error db kept => kept

end

/-! ## The constraints -/

theorem mem_constraints (constraint : Constraint) : constraint ∈ constraints := by
  cases constraint <;> decide

theorem violation_eq_none {db : Db} :
    violation db = none ↔ ∀ constraint : Constraint, constraint.Holds db :=
  violated_eq_none mem_constraints

theorem touchable_of_valid {db : Db} (valid : violation db = none) : Touchable violation db := by
  rw [violation_eq_none] at valid
  intro row member usedAt updatedAt
  rw [violation_eq_none]
  intro constraint
  have held := valid constraint
  cases constraint with
  | apiCredentialKeyId => exact Unique.put_same held member rfl rfl
  | apiCredentialNamespace => exact References.put_same held member rfl
  | apiCredentialCreatedBy => exact References.put_same held member rfl
  | _ => exact held

end Mosp.Auth
