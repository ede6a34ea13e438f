import Mosp.Index.CompletionCommit
import Mosp.System.Alone
import Mathlib.Data.Rat.Floor

/-!
# Guarantees about multipart uploads

What a session announces, which parts it signs and which parts it accepts agree on the
number of parts.
-/

namespace Mosp.Guarantees

open Mosp.Concurrency Mosp.Database Mosp.Sql Mosp.Services Mosp.Services.UploadService Mosp.System
open Mosp.Concurrency.Program (throwIf)

/-- The number of parts that an object of this size needs. -/
def partsNeeded (sizeBytes : Int) : Int :=
  ⌈(sizeBytes : ℚ) / multipartPartSizeBytes⌉

/-! ## The number of parts -/

theorem partsNeeded_eq (sizeBytes : Int) :
    partsNeeded sizeBytes = (sizeBytes + multipartPartSizeBytes - 1) / multipartPartSizeBytes := by
  have positive : (0 : ℚ) < multipartPartSizeBytes := by norm_num [multipartPartSizeBytes]
  have size : multipartPartSizeBytes = 67108864 := rfl
  rw [partsNeeded, Int.ceil_eq_iff, lt_div_iff₀ positive, div_le_iff₀ positive]
  constructor
  · have lower : ((sizeBytes + multipartPartSizeBytes - 1) / multipartPartSizeBytes - 1) *
        multipartPartSizeBytes < sizeBytes := by
      rw [size]
      omega
    exact_mod_cast lower
  · have upper : sizeBytes ≤ (sizeBytes + multipartPartSizeBytes - 1) / multipartPartSizeBytes *
        multipartPartSizeBytes := by
      rw [size]
      omega
    exact_mod_cast upper

theorem partsNeeded_pos {sizeBytes : Int} (large : multipartThresholdBytes ≤ sizeBytes) :
    1 ≤ partsNeeded sizeBytes := by
  have size : multipartPartSizeBytes = 67108864 := rfl
  have threshold : multipartThresholdBytes = 67108864 := rfl
  rw [partsNeeded_eq, size]
  omega

theorem multipartPartCount_few {sizeBytes : Int} (large : multipartThresholdBytes ≤ sizeBytes)
    (few : partsNeeded sizeBytes ≤ maxMultipartParts) :
    multipartPartCount sizeBytes = .ok (partsNeeded sizeBytes) := by
  have positive := partsNeeded_pos large
  rw [partsNeeded_eq] at few positive ⊢
  rw [multipartPartCount, if_neg (not_or.mpr ⟨not_lt.mpr positive, not_lt.mpr few⟩)]

theorem multipartPartCount_many {sizeBytes : Int}
    (many : maxMultipartParts < partsNeeded sizeBytes) :
    multipartPartCount sizeBytes = .error .uploadQuotaExceeded := by
  rw [partsNeeded_eq] at many
  rw [multipartPartCount, if_pos (.inr many)]

/-! ## Accepting parts -/

/-- The part numbers up to a count. -/
def partNumbers (count : Nat) : List Nat :=
  (List.range count).map (· + 1)

theorem partNumbers_length (count : Nat) : (partNumbers count).length = count := by
  simp [partNumbers]

/-- Parts that are numbered as they stand. -/
theorem numbered_iff {parts : List CompletedPart} :
    (parts.zipIdx.any fun entry => entry.1.partNumber != entry.2 + 1) = false ↔
      parts.map CompletedPart.partNumber = partNumbers parts.length := by
  rw [List.any_eq_false]
  constructor
  · intro numbered
    apply List.ext_getElem
    · simp [partNumbers]
    · intro index inside _
      rw [List.length_map] at inside
      have entry : (parts[index], index) ∈ parts.zipIdx := by
        rw [List.mem_zipIdx_iff_getElem?]
        simp
      have same := numbered _ entry
      simpa [partNumbers] using same
  · rintro same ⟨part, index⟩ member
    rw [List.mem_zipIdx_iff_getElem?] at member
    have numbers := congrArg (·[index]?) same
    simp only [List.getElem?_map, member, partNumbers, Option.map_some] at numbers
    obtain ⟨inside, -⟩ := List.getElem?_eq_some_iff.mp member
    simp only [List.getElem?_range inside, Option.map_some, Option.some.injEq] at numbers
    simp [numbers]

/-- The parts in the order of their numbers. -/
def inOrder (parts : List CompletedPart) : List CompletedPart :=
  parts.insertionSort fun left right => left.partNumber ≤ right.partNumber

theorem inOrder_perm (parts : List CompletedPart) : (inOrder parts).Perm parts :=
  List.perm_insertionSort _ _

/-- Ordering the parts numbers them exactly when they have the numbers from one on. -/
theorem inOrder_numbers {parts : List CompletedPart} {count : Nat} :
    (inOrder parts).map CompletedPart.partNumber = partNumbers count ↔
      (parts.map CompletedPart.partNumber).Perm (partNumbers count) := by
  have permutation := (inOrder_perm parts).map CompletedPart.partNumber
  constructor
  · intro same
    rw [← same]
    exact permutation.symm
  · intro numbers
    apply @List.Perm.eq_of_pairwise _ (· ≤ ·) _ _ _ _ _ (permutation.trans numbers)
    · exact fun _ _ _ _ => Nat.le_antisymm
    · rw [List.pairwise_map]
      have total : Std.Total fun left right : CompletedPart => left.partNumber ≤ right.partNumber :=
        ⟨fun _ _ => Nat.le_total _ _⟩
      have transitive : IsTrans CompletedPart fun left right => left.partNumber ≤ right.partNumber :=
        ⟨fun _ _ _ => Nat.le_trans⟩
      exact List.pairwise_insertionSort _ _
    · rw [partNumbers, List.pairwise_map]
      exact (List.pairwise_lt_range).imp fun less => Nat.succ_le_succ less.le

theorem validateMultipartParts_iff {sizeBytes : Int} {count : Nat}
    (counted : multipartPartCount sizeBytes = .ok (count : Int)) {parts sorted : List CompletedPart} :
    validateMultipartParts sizeBytes (some parts) = .ok sorted ↔
      ((parts.map CompletedPart.partNumber).Perm (partNumbers count) ∧
        (parts.map fun part => (part.sizeBytes : Int)).sum = sizeBytes) ∧
      sorted = inOrder parts := by
  have sameSum : ((inOrder parts).map fun part => (part.sizeBytes : Int)).sum =
      (parts.map fun part => (part.sizeBytes : Int)).sum :=
    ((inOrder_perm parts).map _).sum_eq
  have sameLength : (inOrder parts).length = parts.length := (inOrder_perm parts).length_eq
  have sorts : (parts.insertionSort fun left right => left.partNumber ≤ right.partNumber) =
      inOrder parts := rfl
  simp only [validateMultipartParts, counted, bind, Except.bind, sorts]
  by_cases length : (parts.length : Int) = count
  · have length : parts.length = count := by exact_mod_cast length
    rw [if_neg (by simp [length])]
    cases numbered : (inOrder parts).zipIdx.any fun entry =>
        entry.1.partNumber != entry.2 + 1 with
    | true =>
        have differ : ¬(parts.map CompletedPart.partNumber).Perm (partNumbers count) := by
          rw [← inOrder_numbers, ← length, ← sameLength, ← numbered_iff, numbered]
          exact Bool.noConfusion
        rw [if_pos rfl]
        simp [differ]
    | false =>
        have agree : (parts.map CompletedPart.partNumber).Perm (partNumbers count) := by
          rwa [← inOrder_numbers, ← length, ← sameLength, ← numbered_iff]
        rw [if_neg Bool.false_ne_true]
        by_cases sum : (parts.map fun part => (part.sizeBytes : Int)).sum = sizeBytes
        · rw [if_neg (by rw [sameSum]; exact not_not.mpr sum)]
          simp [agree, sum, eq_comm]
        · rw [if_pos (by rw [sameSum]; exact sum)]
          simp [sum]
  · have differ : ¬(parts.map CompletedPart.partNumber).Perm (partNumbers count) := by
      intro same
      have lengths := same.length_eq
      rw [List.length_map, partNumbers_length] at lengths
      exact length (by exact_mod_cast lengths)
    rw [if_pos length]
    simp [differ]

/-! ## Signing parts -/

/-- A session of a multipart upload that goes on, as a query finds it. -/
structure OpenSession (constraints : Db → Option Failure) (world : World)
    (identity : ApiCredentialIdentity) (uploadId : Id) (session : UploadSession)
    (bucket : BucketConnection) (providerUploadId : Nat) : Prop where
  found : (findSession identity uploadId).run constraints world.clock world.state =
    .ok (some (session, bucket), world.state)
  multipart : session.transferMode = .multipart
  started : session.providerUploadId = some providerUploadId
  initiated : session.state = .initiated
  unexpired : world.clock < session.expiresAt

/-- What `presignPart` does once a part number has passed: the provider signs a URL. -/
def signPart (identity : ApiCredentialIdentity) (session : UploadSession)
    (bucket : BucketConnection) (providerUploadId : Nat) (partNumber : Int) :
    Service PresignedTransfer :=
  tryCatch
    (do
      let adapter ← adapterFor identity.organizationId bucket.providerConnectionId
      let transfer ← adapter.createPresignedUploadPart bucket.bucketName
        session.physicalKey providerUploadId partNumber
      let _ ← query (touchPart session partNumber)
      return transfer)
    fun error =>
      match error with
      | .uploadSessionConflict => throw .uploadSessionConflict
      | _ => throw (.uploadProviderError error.message)

variable {constraints : Db → Option Failure} {world : World} {identity : ApiCredentialIdentity}
  {uploadId : Id} {session : UploadSession} {bucket : BucketConnection} {providerUploadId : Nat}
  {partNumber : Int} {ends : Except Failure PresignedTransfer → World → Prop}

/-- The checks of a part number, one after the other. -/
theorem endsAlone_presignPart
    (open_ : OpenSession constraints world identity uploadId session bucket providerUploadId)
    (outside : partNumber < 1 ∨ maxMultipartParts < partNumber →
      ends (.error .uploadSessionConflict) world)
    (many : ∀ error, multipartPartCount session.reservedBytes = .error error →
      ends (.error error) world)
    (counted : ∀ count, multipartPartCount session.reservedBytes = .ok count →
      1 ≤ partNumber → partNumber ≤ maxMultipartParts →
      (count < partNumber → ends (.error .uploadSessionConflict) world) ∧
        (partNumber ≤ count → EndsAlone constraints Calm
          (signPart identity session bucket providerUploadId partNumber) ends world)) :
    EndsAlone constraints Calm (presignPart identity uploadId partNumber) ends world := by
  simp only [presignPart, Program.bind_eq]
  by_cases range : partNumber < 1 ∨ maxMultipartParts < partNumber
  · rw [throwIf, if_pos range]
    exact EndsAlone.throw (outside range)
  · rw [throwIf, if_neg range]
    simp only [not_or, not_lt] at range
    apply EndsAlone.query (fun choice calm => calm.1)
    rw [Tx.wp, open_.found]
    simp only [open_.started, Program.throwIf, open_.multipart, open_.initiated, ne_eq,
      not_true_eq_false, or_self, if_false, Program.pure_bind, throwIfExpired, Program.bind_eq,
      Program.bind_assoc]
    apply EndsAlone.now
    rw [if_neg (not_le.mpr open_.unexpired)]
    simp only [Program.pure_eq, Program.pure_bind]
    cases parts : multipartPartCount session.reservedBytes with
    | error error => exact EndsAlone.throw (many error parts)
    | ok count =>
        have goes := counted count parts range.1 range.2
        change EndsAlone constraints Calm (Program.bind (throwIf (partNumber > count) _) _) _ _
        by_cases beyond : partNumber > count
        · rw [throwIf, if_pos beyond]
          exact EndsAlone.throw (goes.1 beyond)
        · rw [throwIf, if_neg beyond]
          exact goes.2 (not_lt.mp beyond)

/-! ## The contract -/

/-- An object that needs too many parts is refused everywhere. -/
structure Refused (sizeBytes : Int) : Prop where
  toSummary (session : UploadSession) : session.transferMode = .multipart →
    session.reservedBytes = sizeBytes → ∃ error, UploadService.toSummary session = .error error
  presignPart (constraints : Db → Option Failure) (world : World)
    (identity : ApiCredentialIdentity) (uploadId : Id) (session : UploadSession)
    (bucket : BucketConnection) (providerUploadId : Nat) (partNumber : Int) :
    OpenSession constraints world identity uploadId session bucket providerUploadId →
    session.reservedBytes = sizeBytes →
    EndsAlone constraints Calm (UploadService.presignPart identity uploadId partNumber)
      (fun result after => (∃ error, result = .error error) ∧ after = world) world
  validateMultipartParts (parts : Option (List CompletedPart)) :
    ∃ error, UploadService.validateMultipartParts sizeBytes parts = .error error

/-- The number of parts is announced, bounds the parts that are signed, and is the number of
parts that are accepted. -/
structure Agreed (sizeBytes : Int) (count : Nat) : Prop where
  toSummary (session : UploadSession) : session.transferMode = .multipart →
    session.reservedBytes = sizeBytes →
    ∃ summary, UploadService.toSummary session = .ok summary ∧ summary.partCount = some (count : Int)
  /-- A part in range goes on to be signed: whatever holds of that holds of `presignPart`. -/
  presignPart_inside (constraints : Db → Option Failure) (world : World)
    (identity : ApiCredentialIdentity) (uploadId : Id) (session : UploadSession)
    (bucket : BucketConnection) (providerUploadId : Nat) (partNumber : Int)
    (ends : Except Failure PresignedTransfer → World → Prop) :
    OpenSession constraints world identity uploadId session bucket providerUploadId →
    session.reservedBytes = sizeBytes → 1 ≤ partNumber → partNumber ≤ count →
    EndsAlone constraints Calm (signPart identity session bucket providerUploadId partNumber)
      ends world →
    EndsAlone constraints Calm (UploadService.presignPart identity uploadId partNumber) ends world
  presignPart_outside (constraints : Db → Option Failure) (world : World)
    (identity : ApiCredentialIdentity) (uploadId : Id) (session : UploadSession)
    (bucket : BucketConnection) (providerUploadId : Nat) (partNumber : Int) :
    OpenSession constraints world identity uploadId session bucket providerUploadId →
    session.reservedBytes = sizeBytes → ¬(1 ≤ partNumber ∧ partNumber ≤ count) →
    EndsAlone constraints Calm (UploadService.presignPart identity uploadId partNumber)
      (fun result after => result = .error .uploadSessionConflict ∧ after = world) world
  accepts (parts : List CompletedPart) :
    (∃ sorted, validateMultipartParts sizeBytes (some parts) = .ok sorted) ↔
      (parts.map CompletedPart.partNumber).Perm (partNumbers count) ∧
        (parts.map fun part => (part.sizeBytes : Int)).sum = sizeBytes
  /-- The accepted parts come back as they are, in the order of their numbers. -/
  sorted (parts sorted : List CompletedPart) :
    validateMultipartParts sizeBytes (some parts) = .ok sorted →
      sorted.Perm parts ∧ sorted.map CompletedPart.partNumber = partNumbers count

theorem refused_of_many {sizeBytes : Int} (many : maxMultipartParts < partsNeeded sizeBytes) :
    Refused sizeBytes where
  toSummary := by
    rintro session multipart rfl
    use .uploadQuotaExceeded
    simp [UploadService.toSummary, multipart, multipartPartCount_many many, bind, Except.bind]
  presignPart := by
    rintro constraints world identity uploadId session bucket providerUploadId partNumber open_ rfl
    apply endsAlone_presignPart open_
    · exact fun _ => ⟨⟨_, rfl⟩, rfl⟩
    · exact fun error _ => ⟨⟨error, rfl⟩, rfl⟩
    · intro count counted
      rw [multipartPartCount_many many] at counted
      contradiction
  validateMultipartParts parts := by
    use .uploadQuotaExceeded
    simp [UploadService.validateMultipartParts, multipartPartCount_many many, bind, Except.bind]

theorem agreed_of_count {sizeBytes : Int} {count : Nat}
    (counted : multipartPartCount sizeBytes = .ok (count : Int)) : Agreed sizeBytes count where
  toSummary := by
    rintro session multipart rfl
    simp [UploadService.toSummary, multipart, counted, bind, Except.bind, pure, Except.pure]
  presignPart_inside := by
    rintro constraints world identity uploadId session bucket providerUploadId partNumber ends open_
      rfl above below goesOn
    have few : (count : Int) ≤ maxMultipartParts := Index.multipartPartCount_ok counted
    apply endsAlone_presignPart open_
    · intro outside
      omega
    · intro error failed
      rw [counted] at failed
      contradiction
    · intro other counted' _ _
      obtain rfl := Except.ok.inj (counted.symm.trans counted')
      exact ⟨fun beyond => absurd below (not_le.mpr beyond), fun _ => goesOn⟩
  presignPart_outside := by
    rintro constraints world identity uploadId session bucket providerUploadId partNumber open_ rfl
      outside
    apply endsAlone_presignPart open_
    · exact fun _ => ⟨rfl, rfl⟩
    · intro error failed
      rw [counted] at failed
      contradiction
    · intro other counted' above _
      obtain rfl := Except.ok.inj (counted.symm.trans counted')
      exact ⟨fun _ => ⟨rfl, rfl⟩, fun below => absurd ⟨above, below⟩ outside⟩
  accepts parts := by
    simp only [validateMultipartParts_iff counted, exists_and_left, exists_eq, and_true]
  sorted parts sorted accepted := by
    obtain ⟨⟨numbers, -⟩, rfl⟩ := (validateMultipartParts_iff counted).mp accepted
    exact ⟨inOrder_perm parts, inOrder_numbers.mpr numbers⟩

/-- For every size from the multipart threshold on: what needs more than ten thousand parts is
refused everywhere, and all else is announced, signed and accepted with one number of parts. -/
theorem multipart_contract (sizeBytes : Int) (large : multipartThresholdBytes ≤ sizeBytes) :
    (10000 < partsNeeded sizeBytes → Refused sizeBytes) ∧
      (partsNeeded sizeBytes ≤ 10000 → Agreed sizeBytes (partsNeeded sizeBytes).toNat) := by
  constructor
  · exact refused_of_many
  · intro few
    apply agreed_of_count
    rw [Int.toNat_of_nonneg (Int.le_trans (by decide) (partsNeeded_pos large))]
    exact multipartPartCount_few large few

/-- Two parts of 64 MiB, and one byte more than ten thousand of them hold. -/
theorem multipart_contract_example :
    Agreed (2 * multipartPartSizeBytes) 2 ∧ Refused (10000 * multipartPartSizeBytes + 1) ∧
      ∃ sorted, validateMultipartParts (2 * multipartPartSizeBytes)
        (some [⟨2, "second", 67108864⟩, ⟨1, "first", 67108864⟩]) = .ok sorted := by
  have two : partsNeeded (2 * multipartPartSizeBytes) = 2 := by
    rw [partsNeeded_eq]
    decide
  have agreed := (multipart_contract (2 * multipartPartSizeBytes) (by decide)).2
    (by rw [two]; decide)
  rw [two] at agreed
  have many : 10000 < partsNeeded (10000 * multipartPartSizeBytes + 1) := by
    rw [partsNeeded_eq]
    decide
  refine ⟨agreed, (multipart_contract _ (by decide)).1 many, ?_⟩
  exact (agreed.accepts _).mpr ⟨by decide, by decide⟩

end Mosp.Guarantees
