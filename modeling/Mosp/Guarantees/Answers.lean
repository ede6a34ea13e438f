import Mosp.Guarantees.Index
import Mosp.System.Answers
import Mosp.System.Constraints

/-!
# What uploads answer

An answer of `UploadService` that is not an error says what has become of a session.
It is true whatever other calls do before it is given, and it stays true.
-/

namespace Mosp.Guarantees

open Mosp.Concurrency Mosp.Data Mosp.Sql Mosp.Database Mosp.Index Mosp.Services Mosp.Worker
open Mosp.System Mosp.Conduct

namespace Upload

/-- The first request, as the service gets it. -/
def initiation : Service UploadSessionSummary :=
  UploadService.initiate Overwrite.identity "reports"
    { idempotencyKey := "first", key := "report", sizeBytes := 10 }

/-- The upload is answered. -/
def opened : Option (Calls × UploadSessionSummary) :=
  Script.answer violation ⟨start, []⟩ initiation [.act 0 {} 17]

/-- It is asked for once more, and answered again. -/
def reopened (calls : Calls) : Option (Calls × UploadSessionSummary) :=
  Script.answer violation calls initiation [.act 1 {} 10]

/-- The object is stored, and the completion is answered. -/
def finished (calls : Calls) : Option (Calls × UploadSessionSummary) :=
  Script.answer violation calls (UploadService.complete Overwrite.identity 100 {}) [.act 1 {} 8]

/-- The upload is given up, and that is answered. -/
def withdrawn (calls : Calls) : Option (Calls × Unit) :=
  Script.answer violation calls (UploadService.abort Overwrite.identity 100) [.act 1 {} 5]

end Upload

section

variable {α : Type} {constraints : Db → Option Failure} {start : World}
  {calls later final : Calls} {service : Service α} {value : α} {post : α → Scene → Prop}

/-- What an answer says is true when it is given and from then on. -/
theorem told_of_answer (kept : WellKept start)
    (lasting : ∀ value, Lasting (limitsOf fun _ _ => False) (post value))
    (tells : ∀ caller, Tells (limitsOf fun _ _ => False) constraints caller .idle (fun _ => True)
      service post)
    (reaches : Reaches constraints (fun _ => True) (fun _ _ => True) start calls)
    (request : Request) (asks : request.program = Request.discard service)
    (answers : Replies constraints calls service value later)
    (continues : Continues constraints later final) : post value (sceneOf final.view) := by
  have holds := holds_of_run kept (reaches.trans (continues_askedFor calls request asks))
  have runs := runs_askedFor calls service
  have shown : (sceneOf (askedFor calls service).view).Shows calls.calls.length .idle := by
    unfold Scene.Shows sceneOf
    rw [Contract.getElem?_phases]
    simp [askedFor, default]
  obtain ⟨held, _, _, _, told⟩ := holds.performs (respects_any constraints)
    (fun value => stable_lasting (lasting value)) (fun _ => stable_lasting (lasting_const _ True))
    runs (tells _ _ ⟨shown, trivial⟩) answers
  exact lasting value _ _ ((respects_any constraints).rely held continues
    (Nat.le_refl final.calls.length)).toPreserves told

/-! ## Starting an upload -/

variable {identity other : ApiCredentialIdentity} {namespaceSlug otherSlug : String}
  {input again : UploadInitiateRequest} {summary repeated : UploadSessionSummary}

theorem asked_of_opened {scene : Scene} (opened : Opened identity input summary scene) :
    ∀ session ∈ scene.catalog.sessions, session.id = summary.uploadId →
      Asked identity input session ∧ Summarizes session summary := by
  obtain ⟨known, sessionKnown, asked, summarizes⟩ := opened
  intro session member named
  have terms := sessionKnown.terms session member (named.trans summarizes.uploadId)
  exact ⟨asked_of_terms terms asked, summarizes_of_terms terms summarizes⟩

/-- From the answer of `initiate` on, the session that it names is the one that was asked for. -/
theorem initiate_answers (kept : WellKept start)
    (reaches : Reaches constraints (fun _ => True) (fun _ _ => True) start calls)
    (answers : Replies constraints calls (UploadService.initiate identity namespaceSlug input)
      summary later)
    (continues : Continues constraints later final) :
    ∀ session ∈ final.shared.db.uploadSession, session.id = summary.uploadId →
      Asked identity input session ∧ Summarizes session summary :=
  asked_of_opened (told_of_answer kept (lasting_opened _ identity input) (fun _ => tells_initiate)
    reaches (.initiate identity namespaceSlug input) rfl answers continues)

theorem initiate_answers_upload : ∃ later summary, Upload.opened = some (later, summary) ∧
    (∃ session ∈ later.shared.db.uploadSession.rows, session.id = summary.uploadId) ∧
    ∀ session ∈ later.shared.db.uploadSession, session.id = summary.uploadId →
      Asked Overwrite.identity { idempotencyKey := "first", key := "report", sizeBytes := 10 }
        session ∧ Summarizes session summary := by
  have runs : ∃ reached, Upload.opened = some reached ∧
      (reached.1.shared.db.uploadSession.rows.any fun session =>
        session.id == reached.2.uploadId) = true :=
    (Option.any_eq_true _ _).mp (by decide)
  obtain ⟨⟨later, summary⟩, answered, stored⟩ := runs
  obtain ⟨session, member, named⟩ := List.any_eq_true.mp stored
  have fresh : Fresh Upload.start.db := by decide
  exact ⟨later, summary, answered, ⟨session, member, eq_of_beq named⟩,
    initiate_answers fresh.wellKept .refl (Script.answers answered) .refl⟩

/-- Two answers of `initiate` for one idempotency key of a namespace name one session, and were
given to one credential for one request. -/
theorem initiate_idempotent {calls' later' : Calls} (kept : WellKept start)
    (valid : violation start.db = none)
    (reaches : Reaches violation (fun _ => True) (fun _ _ => True) start calls)
    (answers : Replies violation calls (UploadService.initiate identity namespaceSlug input)
      summary later)
    (continues : Continues violation later final)
    (reaches' : Reaches violation (fun _ => True) (fun _ _ => True) start calls')
    (answers' : Replies violation calls' (UploadService.initiate other otherSlug again)
      repeated later')
    (continues' : Continues violation later' final)
    (sameNamespace : other.organizationId = identity.organizationId ∧
      other.namespaceId = identity.namespaceId)
    (sameKey : again.idempotencyKey = input.idempotencyKey) :
    ∀ session ∈ final.shared.db.uploadSession, session.id = summary.uploadId →
      ∀ row ∈ final.shared.db.uploadSession, row.id = repeated.uploadId →
        row = session ∧ other.credentialId = identity.credentialId ∧ again = input := by
  have opened := told_of_answer kept (lasting_opened _ identity input) (fun _ => tells_initiate)
    reaches (.initiate identity namespaceSlug input) rfl answers continues
  have opened' := told_of_answer kept (lasting_opened _ other again) (fun _ => tells_initiate)
    reaches' (.initiate other otherSlug again) rfl answers' continues'
  have answered : Reaches violation (fun _ => True) (fun _ _ => True) start later :=
    reaches.trans (answers.continues (.initiate identity namespaceSlug input) rfl)
  have constraints : Valid final.shared.db :=
    violation_eq_none.mp (valid_of_reaches valid (answered.trans continues))
  have unique := constraints .uploadSessionIdempotencyKey
  intro session member named row rowMem rowNamed
  obtain ⟨asked, _⟩ := asked_of_opened opened session member named
  obtain ⟨asked', _⟩ := asked_of_opened opened' row rowMem rowNamed
  have keyEq : (row.organizationId, row.namespaceId, row.idempotencyKey) =
      (session.organizationId, session.namespaceId, session.idempotencyKey) := by
    rw [asked.organizationId, asked.namespaceId, asked.idempotencyKey, asked'.organizationId,
      asked'.namespaceId, asked'.idempotencyKey, sameNamespace.1, sameNamespace.2, sameKey]
  have sameId : row.id = session.id :=
    unique row rowMem session member (by simp) (congrArg some keyEq)
  obtain rfl : row = session := Table.eq_of_id_eq rowMem member sameId
  exact ⟨rfl, asked'.credential.symm.trans asked.credential, asked.request_eq asked'⟩

theorem initiate_idempotent_upload : ∃ later summary final repeated,
    Upload.opened = some (later, summary) ∧ Upload.reopened later = some (final, repeated) ∧
    ∀ session ∈ final.shared.db.uploadSession, session.id = summary.uploadId →
      ∀ row ∈ final.shared.db.uploadSession, row.id = repeated.uploadId → row = session := by
  have runs : (Upload.opened.bind fun reached => Upload.reopened reached.1).isSome := by decide
  obtain ⟨⟨final, repeated⟩, ran⟩ := Option.isSome_iff_exists.mp runs
  obtain ⟨⟨later, summary⟩, answered, answeredAgain⟩ := Option.bind_eq_some_iff.mp ran
  have fresh : Fresh Upload.start.db := by decide
  have first : Replies violation ⟨Upload.start, []⟩ Upload.initiation summary later :=
    Script.answers answered
  have second : Replies violation later Upload.initiation repeated final :=
    Script.answers answeredAgain
  have reached : Continues violation ⟨Upload.start, []⟩ later := first.continues Upload.request rfl
  refine ⟨later, summary, final, repeated, answered, answeredAgain, ?_⟩
  intro session member named row rowMem rowNamed
  exact (initiate_idempotent fresh.wellKept (by decide) .refl first
    (second.continues Upload.request rfl) reached second .refl ⟨rfl, rfl⟩ rfl session member named
    row rowMem rowNamed).1

/-! ## Ending an upload -/

/-- The services that complete an upload. -/
inductive Completes (uploadId : Id) : Service UploadSessionSummary → Prop
  | complete (identity : ApiCredentialIdentity) (input : UploadCompleteRequest) :
      Completes uploadId (UploadService.complete identity uploadId input)
  | proxyUpload (config : ProxyTransferConfig) (identity : ApiCredentialIdentity)
      (contentLengthBytes : Int) :
      Completes uploadId (UploadService.proxyUpload config identity uploadId contentLengthBytes)

theorem Completes.asks {uploadId : Id} {service : Service UploadSessionSummary}
    (completes : Completes uploadId service) :
    ∃ request : Request, request.program = Request.discard service := by
  cases completes with
  | complete identity input => exact ⟨.complete identity uploadId input, rfl⟩
  | proxyUpload config identity length => exact ⟨.proxyUpload config identity uploadId length, rfl⟩

theorem Completes.tells {uploadId : Id} {service : Service UploadSessionSummary} {mode : Mode}
    {caller : Nat} (completes : Completes uploadId service) :
    Tells mode constraints caller .idle (fun _ => True) service (CompletedAs uploadId) := by
  have weaken : Tells mode constraints caller .idle (fun _ => True) service
      (fun summary scene => True ∧ CompletedAs uploadId summary scene) := by
    cases completes with
    | complete => exact .of_stays (conducts_complete (lasting_const mode True))
    | proxyUpload => exact .of_stays (conducts_proxyUpload (lasting_const mode True))
  exact weaken.weaken (fun _ holds => holds) fun _ _ told => told.2

/-- From the answer of `complete` or `proxyUpload` on the session is completed, and its object is
in the index. -/
theorem complete_answers {uploadId : Id} {completion : Service UploadSessionSummary}
    (completes : Completes uploadId completion) (kept : WellKept start)
    (delivered : Delivered (catalogOf start.db))
    (reaches : Reaches constraints (fun _ => True) (fun _ _ => True) start calls)
    (answers : Replies constraints calls completion summary later)
    (continues : Continues constraints later final) :
    ∀ session ∈ final.shared.db.uploadSession, session.id = uploadId →
      session.state = .completed ∧ Summarizes session summary ∧
        DeliveredTo (catalogOf final.shared.db) session := by
  obtain ⟨request, asks⟩ := completes.asks
  obtain ⟨ended, known, sessionKnown, knownId, summarizes⟩ := told_of_answer kept
    (lasting_completedAs _ uploadId) (fun _ => completes.tells) reaches request asks answers continues
  have answered : Reaches constraints (fun _ => True) (fun _ _ => True) start later :=
    reaches.trans (answers.continues request asks)
  have finally_ : Delivered (catalogOf final.shared.db) :=
    (preserves_of_start kept (answered.trans continues)).run.delivered delivered
  intro session member named
  have completed := ended.state session member named
  have terms := sessionKnown.terms session member (named.trans knownId.symm)
  exact ⟨completed, summarizes_of_terms terms summarizes, finally_ session member completed⟩

theorem complete_answers_upload : ∃ calls later summary,
    Script.run violation (fun _ _ => true) Upload.start Upload.stored = some calls ∧
    Upload.finished calls = some (later, summary) ∧
    ∀ session ∈ later.shared.db.uploadSession, session.id = 100 →
      session.state = .completed ∧ Summarizes session summary ∧
        DeliveredTo (catalogOf later.shared.db) session := by
  have runs : ((Script.run violation (fun _ _ => true) Upload.start Upload.stored).bind
      Upload.finished).isSome := by decide
  obtain ⟨⟨later, summary⟩, ran⟩ := Option.isSome_iff_exists.mp runs
  obtain ⟨calls, ran, answered⟩ := Option.bind_eq_some_iff.mp ran
  have fresh : Fresh Upload.start.db := by decide
  exact ⟨calls, later, summary, ran, answered, complete_answers (.complete Overwrite.identity {})
    fresh.wellKept fresh.delivered (Script.reaches_any ran) (Script.answers answered) .refl⟩

/-- From the answer of `abort` on the session has ended without an object. -/
theorem abort_answers {uploadId : Id} (kept : WellKept start)
    (reaches : Reaches constraints (fun _ => True) (fun _ _ => True) start calls)
    (answers : Replies constraints calls (UploadService.abort identity uploadId) () later)
    (continues : Continues constraints later final) :
    ∀ session ∈ final.shared.db.uploadSession, session.id = uploadId →
      session.state = .aborted ∨ session.state = .expired := by
  have asks : (Request.abort identity uploadId).program =
      Request.discard (UploadService.abort identity uploadId) :=
    (Program.bind_pure _).symm
  have givenUp := told_of_answer kept (fun _ => lasting_givenUp _ uploadId)
    (fun _ => (Tells.of_stays (conducts_abort (lasting_const _ True))).weaken
      (fun _ holds => holds) fun _ _ told => told.2)
    reaches (.abort identity uploadId) asks answers continues
  intro session member named
  exact givenUp.imp (fun ended => ended.state session member named)
    fun ended => ended.state session member named

theorem abort_answers_upload : ∃ calls later,
    Script.run violation (fun _ _ => true) Upload.start Upload.stored = some calls ∧
    Upload.withdrawn calls = some (later, ()) ∧
    ∀ session ∈ later.shared.db.uploadSession, session.id = 100 →
      session.state = .aborted ∨ session.state = .expired := by
  have runs : ((Script.run violation (fun _ _ => true) Upload.start Upload.stored).bind
      Upload.withdrawn).isSome := by decide
  obtain ⟨⟨later, _⟩, ran⟩ := Option.isSome_iff_exists.mp runs
  obtain ⟨calls, ran, answered⟩ := Option.bind_eq_some_iff.mp ran
  have fresh : Fresh Upload.start.db := by decide
  exact ⟨calls, later, ran, answered,
    abort_answers fresh.wellKept (Script.reaches_any ran) (Script.answers answered) .refl⟩

end

end Mosp.Guarantees
