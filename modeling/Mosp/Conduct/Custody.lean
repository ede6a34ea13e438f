import Mosp.Conduct.Persistence

/-!
# Objects at the providers

Where no migration runs, every key belongs to one session, one location or one
explorer upload.  The object of an available record is at its provider, and so
is the object of a record that a delete has claimed and of a session that a
call has verified: these are the objects that a later step may publish.
-/

namespace Mosp.Conduct

open Mosp.Data Mosp.Database Mosp.Index Mosp.Services
open Mosp.System hiding Action

/-- The key that a call has drawn for itself. -/
def keyOf : Phase → Option PhysicalKey
  | .initiating _ key => key
  | .storing key => some key
  | .reserved _ _ _ key => some key
  | _ => none

/-- The object of a watched key is at the provider of the bucket. -/
def Scene.Stored (mode : Mode) (scene : Scene) (bucketConnectionId : Id) (key : PhysicalKey) :
    Prop :=
  mode.guarded key → ∀ bucket ∈ scene.catalog.buckets, bucket.id = bucketConnectionId →
    scene.objects.Holds
      { providerConnectionId := bucket.providerConnectionId
        bucketName := bucket.bucketName
        physicalKey := key }

/-- No other session, location or call has the key of a session, location or call. -/
structure KeysApart (scene : Scene) : Prop where
  session : ∀ first ∈ scene.catalog.sessions, ∀ second ∈ scene.catalog.sessions,
    first.physicalKey = second.physicalKey → first.id = second.id
  location : ∀ first ∈ scene.catalog.locations, ∀ second ∈ scene.catalog.locations,
    first.physicalKey = second.physicalKey → first.id = second.id
  published : ∀ session ∈ scene.catalog.sessions, ∀ location ∈ scene.catalog.locations,
    session.physicalKey = location.physicalKey → session.state = .completed ∧
      session.bucketConnectionId = location.bucketConnectionId
  below : ∀ i phase key, scene.Shows i phase → keyOf phase = some key → key.uuid < scene.nextId
  unpublished : ∀ i phase key, scene.Shows i phase → keyOf phase = some key →
    (∀ session ∈ scene.catalog.sessions, session.physicalKey ≠ key) ∧
      ∀ location ∈ scene.catalog.locations, location.physicalKey ≠ key
  call : ∀ i j first second key, scene.Shows i first → scene.Shows j second →
    keyOf first = some key → keyOf second = some key → i = j

/-- What is at the providers. -/
structure Custody (mode : Mode) (scene : Scene) : Prop where
  apart : KeysApart scene
  available : ∀ record ∈ scene.catalog.records, record.state = .available →
    ∀ location ∈ scene.catalog.locations, record.activeObjectLocationId = some location.id →
      scene.Stored mode location.bucketConnectionId location.physicalKey
  claimed : ∀ i recordId locationId, scene.Shows i (.deleting recordId locationId) →
    mode.deletes ∧ ∃ record ∈ scene.catalog.records, record.id = recordId ∧
      record.state = .deleting ∧ record.activeObjectLocationId = some locationId ∧
      ∀ location ∈ scene.catalog.locations, location.id = locationId →
        scene.Stored mode location.bucketConnectionId location.physicalKey
  claimant : ∀ i j recordId first second, scene.Shows i (.deleting recordId first) →
    scene.Shows j (.deleting recordId second) → i = j
  opened : ∀ i j uploadId key, scene.Shows i (.verified uploadId) →
    uploadId < scene.nextId ∧ ¬scene.Shows j (.initiating uploadId key)
  verified : ∀ i uploadId, scene.Shows i (.verified uploadId) →
    ∀ session ∈ scene.catalog.sessions, session.id = uploadId → session.state = .initiated →
      scene.Stored mode session.bucketConnectionId session.physicalKey

/-- What a careful move has to respect. -/
structure Respects (mode : Mode) (before after : Scene) (action : Action) (old new : Phase) :
    Prop where
  objects : ∀ address, before.objects.Holds address → after.objects.Holds address
  draws : ∀ key, keyOf new = some key →
    keyOf old = some key ∨ before.nextId ≤ key.uuid ∧ key.uuid < after.nextId
  opens : ∀ session, action = .openSession session →
    keyOf old = some session.physicalKey ∧ keyOf new = none
  completes : ∀ session publication, action = .complete session publication →
    old = .verified session.id
  uploads : ∀ sizeBytes publication, action = .upload sizeBytes publication →
    keyOf old = some publication.location.physicalKey ∧ keyOf new = none ∧
      before.Stored mode publication.location.bucketConnectionId publication.location.physicalKey
  reverts : ∀ record, action = .revert record →
    (∃ locationId, old = .deleting record.id locationId) ∧
      ∀ recordId locationId, new ≠ .deleting recordId locationId
  finalizes : ∀ record location, action = .finalize record location →
    ∀ i recordId, ¬before.Shows i (.deleting recordId location.id)
  migrates : ∀ item record retained target, action ≠ .migrate item record retained target
  claims : ∀ recordId locationId, new = .deleting recordId locationId → old = new ∨
    mode.deletes ∧ ∃ record, action = .claim record ∧ record.id = recordId ∧
      record.activeObjectLocationId = some locationId
  verifies : ∀ uploadId, new = .verified uploadId → old = new ∨
    action = .rest ∧ uploadId < before.nextId ∧
      (∀ i key, ¬before.Shows i (.initiating uploadId key)) ∧
      ∀ session ∈ before.catalog.sessions, session.id = uploadId →
        before.Stored mode session.bucketConnectionId session.physicalKey

/-- A phase that says nothing about identifiers, bytes and objects. -/
def Inert (phase : Phase) : Prop :=
  phase = .idle ∨ ∃ itemIds, phase = .holding itemIds

theorem Inert.keyOf {phase : Phase} (inert : Inert phase) : keyOf phase = none := by
  rcases inert with rfl | ⟨_, rfl⟩
  · rfl
  · rfl

/-- A step that leaves the catalog as it is and shows no phase that says something. -/
structure Settles (before after : Scene) : Prop where
  catalog : after.catalog = before.catalog
  later : before.nextId ≤ after.nextId
  others : ∀ i phase, after.Shows i phase → before.Shows i phase ∨ Inert phase
  held : ∀ organizationId namespaceId,
    held after.phases organizationId namespaceId ≤ held before.phases organizationId namespaceId

/-- What a step has to respect that may remove the object under a key. -/
structure Removes (before after : Scene) (caller : Nat) (key : Option PhysicalKey) : Prop
    extends Settles before after where
  objects : ∀ address, before.objects.Holds address → some address.physicalKey ≠ key →
    after.objects.Holds address
  free : ∀ location ∈ before.catalog.locations, some location.physicalKey = key →
    (∀ record ∈ before.catalog.records, record.activeObjectLocationId = some location.id →
      record.state ≠ .available) ∧
    ∀ i recordId, ¬after.Shows i (.deleting recordId location.id)
  unverified : ∀ session ∈ before.catalog.sessions, some session.physicalKey = key →
    session.state = .initiated → ∀ i, ¬after.Shows i (.verified session.id)
  own : ∀ i phase, i ≠ caller → before.Shows i phase → keyOf phase = none ∨ keyOf phase ≠ key

theorem Scene.Stored.grow {mode : Mode} {before after : Scene} {bucketConnectionId : Id}
    {key : PhysicalKey} (stored : before.Stored mode bucketConnectionId key)
    (buckets : after.catalog.buckets = before.catalog.buckets)
    (objects : ∀ address, address.physicalKey = key → before.objects.Holds address →
      after.objects.Holds address) : after.Stored mode bucketConnectionId key := by
  intro guarded bucket member sameId
  rw [buckets] at member
  exact objects _ rfl (stored guarded bucket member sameId)

namespace Settles

variable {before after : Scene}

/-- A phase that says something was shown before. -/
theorem shown (settles : Settles before after) {i : Nat} {phase : Phase}
    (shown : after.Shows i phase) (busy : ¬Inert phase) : before.Shows i phase := by
  rcases settles.others i phase shown with was | inert
  · exact was
  · exact absurd inert busy

theorem tokens (settles : Settles before after) (tokens : Tokens before) : Tokens after where
  below i uploadId key shown :=
    Nat.lt_of_lt_of_le (tokens.below i uploadId key (settles.shown shown (by simp [Inert])))
      settles.later
  absent i uploadId key shown := by
    rw [settles.catalog]
    exact tokens.absent i uploadId key (settles.shown shown (by simp [Inert]))
  unique i j uploadId key other first second :=
    tokens.unique i j uploadId key other (settles.shown first (by simp [Inert]))
      (settles.shown second (by simp [Inert]))
  size i organizationId namespaceId sizeBytes key shown :=
    tokens.size i organizationId namespaceId sizeBytes key (settles.shown shown (by simp [Inert]))

theorem sound {mode : Mode} (settles : Settles before after) (sound : Sound mode before) :
    Sound mode after where
  consistent := by
    rw [settles.catalog]
    exact sound.consistent.mono settles.later
  ledger := by
    rw [settles.catalog]
    refine { sound.ledger with reservedBytes := fun organizationId namespaceId => ?_ }
    have before := sound.ledger.reservedBytes organizationId namespaceId
    have less := settles.held organizationId namespaceId
    omega
  limits := by
    rw [settles.catalog]
    exact sound.limits
  tokens := settles.tokens sound.tokens

theorem persists (settles : Settles before after) : Persists before after where
  later := settles.later
  buckets := congrArg Catalog.buckets settles.catalog
  namespaces := congrArg Catalog.namespaces settles.catalog
  session row member := .inl ⟨row, settles.catalog ▸ member, rfl⟩
  open_ row member initiated := .inl ⟨row, settles.catalog ▸ member, rfl, initiated⟩
  initiating i uploadId key shown := .inr ⟨key, settles.shown shown (by simp [Inert])⟩
  location row member := ⟨row, settles.catalog ▸ member, rfl⟩
  pointer record member _ _ pointer := ⟨record, settles.catalog ▸ member, rfl, pointer, rfl⟩
  item row member := ⟨row, settles.catalog ▸ member, rfl⟩

/-- Where no object is lost, nothing has to be respected. -/
theorem removes (settles : Settles before after) {caller : Nat}
    (objects : ∀ address, before.objects.Holds address → after.objects.Holds address) :
    Removes before after caller none where
  toSettles := settles
  objects address holds _ := objects address holds
  free _ _ sameKey := by contradiction
  unverified _ _ sameKey := by contradiction
  own i phase _ _ := by
    cases drawn : keyOf phase with
    | none => exact .inl rfl
    | some key => exact .inr (by simp)

end Settles

/-! ## Removing an object -/

namespace Removes

variable {mode : Mode} {before after : Scene} {caller : Nat} {key : Option PhysicalKey}

theorem stored (removes : Removes before after caller key) {bucketConnectionId : Id}
    {other : PhysicalKey} (stored : before.Stored mode bucketConnectionId other)
    (apart : some other ≠ key) : after.Stored mode bucketConnectionId other :=
  stored.grow (congrArg Catalog.buckets removes.catalog) fun address sameKey holds =>
    removes.objects address holds (sameKey ▸ apart)

theorem drawn (removes : Removes before after caller key) {i : Nat} {phase : Phase}
    {own : PhysicalKey} (shown : after.Shows i phase) (drawn : keyOf phase = some own) :
    before.Shows i phase := by
  apply removes.toSettles.shown shown
  intro inert
  rw [inert.keyOf] at drawn
  contradiction

theorem keysApart (removes : Removes before after caller key) (apart : KeysApart before) :
    KeysApart after where
  session := removes.catalog ▸ apart.session
  location := removes.catalog ▸ apart.location
  published := removes.catalog ▸ apart.published
  below i phase own shown drew :=
    Nat.lt_of_lt_of_le (apart.below i phase own (removes.drawn shown drew) drew) removes.later
  unpublished i phase own shown drew := by
    rw [removes.catalog]
    exact apart.unpublished i phase own (removes.drawn shown drew) drew
  call i j first second own firstShown secondShown firstDrew secondDrew :=
    apart.call i j first second own (removes.drawn firstShown firstDrew)
      (removes.drawn secondShown secondDrew) firstDrew secondDrew

theorem custody (removes : Removes before after caller key) (custody : Custody mode before) :
    Custody mode after where
  apart := removes.keysApart custody.apart
  available record member available location locationMem pointer := by
    rw [removes.catalog] at member locationMem
    apply removes.stored (custody.available record member available location locationMem pointer)
    intro sameKey
    exact (removes.free location locationMem sameKey).1 record member pointer available
  claimed i recordId locationId shown := by
    obtain ⟨deletes, record, member, sameId, deleting, pointer, stored⟩ :=
      custody.claimed i recordId locationId (removes.toSettles.shown shown (by simp [Inert]))
    rw [removes.catalog]
    refine ⟨deletes, record, member, sameId, deleting, pointer, fun location locationMem sameLocation => ?_⟩
    apply removes.stored (stored location locationMem sameLocation)
    intro sameKey
    exact (removes.free location locationMem sameKey).2 i recordId (sameLocation ▸ shown)
  claimant i j recordId first second firstShown secondShown :=
    custody.claimant i j recordId first second (removes.toSettles.shown firstShown (by simp [Inert]))
      (removes.toSettles.shown secondShown (by simp [Inert]))
  opened i j uploadId drawn shown := by
    have was := custody.opened i j uploadId drawn (removes.toSettles.shown shown (by simp [Inert]))
    exact ⟨Nat.lt_of_lt_of_le was.1 removes.later, fun token => was.2 (removes.toSettles.shown token (by simp [Inert]))⟩
  verified i uploadId shown session member sameId open_ := by
    rw [removes.catalog] at member
    apply removes.stored (custody.verified i uploadId (removes.toSettles.shown shown (by simp [Inert])) session member
      sameId open_)
    intro sameKey
    exact removes.unverified session member sameKey open_ i (sameId ▸ shown)

end Removes

/-! ## Taking an action -/

namespace Respects

variable {mode : Mode} {before after : Scene} {caller : Nat} {action : Action} {old new : Phase}

/-- A key that a call holds afterwards was its own before, or is new. -/
theorem key_origin (respects : Respects mode before after action old new)
    (move : Move caller before after action old new) {i : Nat} {phase : Phase} {key : PhysicalKey}
    (shown : after.Shows i phase) (own : keyOf phase = some key) :
    (∃ was, before.Shows i was ∧ keyOf was = some key) ∨
      i = caller ∧ before.nextId ≤ key.uuid ∧ key.uuid < after.nextId := by
  by_cases same : i = caller
  · subst same
    obtain rfl := move.shows_caller.mp shown
    rcases respects.draws key own with was | fresh
    · exact .inl ⟨old, move.own, was⟩
    · exact .inr ⟨rfl, fresh⟩
  · exact .inl ⟨phase, (move.shows_other same).mp shown, own⟩

/-- The key of a publication is the key of a session that is completed by it, or the
caller's own. -/
theorem publication_key (respects : Respects mode before after action old new)
    (move : Move caller before after action old new) {publication : Publication}
    (publishes : action.Publishes publication) :
    (∃ session ∈ before.catalog.sessions, session.state = .initiated ∧
        session.physicalKey = publication.location.physicalKey ∧
        session.bucketConnectionId = publication.location.bucketConnectionId ∧
        ∀ row ∈ after.catalog.sessions, row.id = session.id → row.state = .completed) ∨
      keyOf old = some publication.location.physicalKey ∧ keyOf new = none := by
  rcases publishes with ⟨session, rfl⟩ | ⟨sizeBytes, rfl⟩
  · obtain ⟨⟨row, rowMem, terms, open_⟩, completed, _, _, _, _, bucket, key⟩ := move.enabled
    have sameId : row.id = session.id := (congrArg UploadSession.id terms :)
    have sameKey : row.physicalKey = session.physicalKey :=
      (congrArg UploadSession.physicalKey terms :)
    have sameBucket : row.bucketConnectionId = session.bucketConnectionId :=
      (congrArg UploadSession.bucketConnectionId terms :)
    refine .inl ⟨row, rowMem, open_, sameKey.trans key.symm, sameBucket.trans bucket.symm,
      fun other otherMem otherId => ?_⟩
    rw [move.catalog] at otherMem
    rw [Table.eq_of_id_eq otherMem (Table.mem_put_self _ _) (otherId.trans sameId)]
    exact completed
  · obtain ⟨own, done, _⟩ := respects.uploads sizeBytes publication rfl
    exact .inr ⟨own, done⟩

/-- No location has the key of a publication yet. -/
theorem publication_unused (respects : Respects mode before after action old new)
    (move : Move caller before after action old new) (apart : KeysApart before)
    {publication : Publication} (publishes : action.Publishes publication) :
    ∀ location ∈ before.catalog.locations,
      location.physicalKey ≠ publication.location.physicalKey := by
  intro location member sameKey
  rcases respects.publication_key move publishes with ⟨session, sessionMem, open_, key, _⟩ | ⟨own, _⟩
  · have completed := (apart.published session sessionMem location member
      (key.trans sameKey.symm)).1
    rw [open_] at completed
    contradiction
  · exact (apart.unpublished caller old _ move.own own).2 location member sameKey

theorem keysApart (respects : Respects mode before after action old new)
    (move : Move caller before after action old new)
    (consistent : Consistent before.catalog before.nextId) (apart : KeysApart before) :
    KeysApart after where
  session first firstMem second secondMem sameKey := by
    rw [move.catalog] at firstMem secondMem
    -- The key of a session that is opened was the caller's own.
    have opened : ∀ row other : UploadSession, action = .openSession row →
        (∃ was ∈ before.catalog.sessions, sessionTerms was = sessionTerms other) →
        row.physicalKey ≠ other.physicalKey := by
      rintro row other actionEq ⟨was, wasMem, terms⟩ same
      have wasKey : was.physicalKey = other.physicalKey :=
        (congrArg UploadSession.physicalKey terms :)
      exact (apart.unpublished caller old _ move.own (respects.opens row actionEq).1).1 was wasMem
        (wasKey.trans same.symm)
    rcases Action.session_origin move.enabled firstMem with ⟨a, aMem, aTerms⟩ | firstEq
    · rcases Action.session_origin move.enabled secondMem with ⟨b, bMem, bTerms⟩ | secondEq
      · have aKey : a.physicalKey = first.physicalKey := (congrArg UploadSession.physicalKey aTerms :)
        have bKey : b.physicalKey = second.physicalKey := (congrArg UploadSession.physicalKey bTerms :)
        have same := apart.session a aMem b bMem (aKey.trans (sameKey.trans bKey.symm))
        exact (congrArg UploadSession.id aTerms :).symm.trans
          (same.trans (congrArg UploadSession.id bTerms :))
      · exact absurd sameKey.symm (opened second first secondEq ⟨a, aMem, aTerms⟩)
    · rcases Action.session_origin move.enabled secondMem with origin | secondEq
      · exact absurd sameKey (opened first second firstEq origin)
      · rw [firstEq, Action.openSession.injEq] at secondEq
        rw [secondEq]
  location first firstMem second secondMem sameKey := by
    rw [move.catalog] at firstMem secondMem
    have published : ∀ (publication : Publication) (other : ObjectLocation),
        action.Publishes publication →
        (∃ was ∈ before.catalog.locations, locationTerms was = locationTerms other) →
        other.physicalKey ≠ publication.location.physicalKey := by
      rintro publication other publishes ⟨was, wasMem, terms⟩ same
      have wasKey : was.physicalKey = other.physicalKey :=
        (congrArg ObjectLocation.physicalKey terms :)
      exact respects.publication_unused move apart publishes was wasMem (wasKey.trans same)
    rcases Action.published_origin move.enabled respects.migrates firstMem with
      ⟨a, aMem, aTerms⟩ | ⟨publication, publishes, rfl⟩
    · rcases Action.published_origin move.enabled respects.migrates secondMem with
        ⟨b, bMem, bTerms⟩ | ⟨publication, publishes, rfl⟩
      · have aKey : a.physicalKey = first.physicalKey :=
          (congrArg ObjectLocation.physicalKey aTerms :)
        have bKey : b.physicalKey = second.physicalKey :=
          (congrArg ObjectLocation.physicalKey bTerms :)
        have same := apart.location a aMem b bMem (aKey.trans (sameKey.trans bKey.symm))
        exact (congrArg ObjectLocation.id aTerms :).symm.trans
          (same.trans (congrArg ObjectLocation.id bTerms :))
      · exact absurd sameKey (published publication first publishes ⟨a, aMem, aTerms⟩)
    · rcases Action.published_origin move.enabled respects.migrates secondMem with
        origin | ⟨other, otherPublishes, rfl⟩
      · exact absurd sameKey.symm (published publication second publishes origin)
      · have same : publication = other := by
          rcases publishes with ⟨_, rfl⟩ | ⟨_, rfl⟩ <;>
            rcases otherPublishes with ⟨_, eq⟩ | ⟨_, eq⟩ <;> cases eq <;> rfl
        rw [same]
  published session sessionMem location locationMem sameKey := by
    rw [move.catalog] at locationMem
    have sessionMem' := sessionMem
    rw [move.catalog] at sessionMem'
    rcases Action.published_origin move.enabled respects.migrates locationMem with
      ⟨a, aMem, aTerms⟩ | ⟨publication, publishes, rfl⟩
    · have aKey : a.physicalKey = location.physicalKey :=
        (congrArg ObjectLocation.physicalKey aTerms :)
      rcases Action.session_origin move.enabled sessionMem' with ⟨b, bMem, bTerms⟩ | opens
      · have bKey : b.physicalKey = session.physicalKey :=
          (congrArg UploadSession.physicalKey bTerms :)
        obtain ⟨completed, bucket⟩ :=
          apart.published b bMem a aMem (bKey.trans (sameKey.trans aKey.symm))
        constructor
        · exact Action.completed_kept move.enabled bMem sessionMem'
            (congrArg UploadSession.id bTerms :) completed
        · calc
            session.bucketConnectionId = b.bucketConnectionId :=
              (congrArg UploadSession.bucketConnectionId bTerms :).symm
            _ = a.bucketConnectionId := bucket
            _ = location.bucketConnectionId :=
              (congrArg ObjectLocation.bucketConnectionId aTerms :)
      · exact absurd (aKey.trans sameKey.symm)
          ((apart.unpublished caller old _ move.own (respects.opens session opens).1).2 a aMem)
    · have notOpened : ∀ row, action ≠ .openSession row := by
        rintro row rfl
        rcases publishes with ⟨_, eq⟩ | ⟨_, eq⟩ <;> cases eq
      rcases Action.session_origin move.enabled sessionMem' with ⟨b, bMem, bTerms⟩ | opens
      · have bKey : b.physicalKey = session.physicalKey :=
          (congrArg UploadSession.physicalKey bTerms :)
        have bId : b.id = session.id := (congrArg UploadSession.id bTerms :)
        rcases respects.publication_key move publishes with
          ⟨row, rowMem, _, key, bucket, completed⟩ | ⟨own, _⟩
        · have same := apart.session b bMem row rowMem (bKey.trans (sameKey.trans key.symm))
          have sameRow := Table.eq_of_id_eq bMem rowMem same
          constructor
          · exact completed session sessionMem (bId.symm.trans same)
          · calc
              session.bucketConnectionId = b.bucketConnectionId :=
                (congrArg UploadSession.bucketConnectionId bTerms :).symm
              _ = row.bucketConnectionId := by rw [sameRow]
              _ = publication.location.bucketConnectionId := bucket
        · exact absurd (bKey.trans sameKey)
            ((apart.unpublished caller old _ move.own own).1 b bMem)
      · exact absurd opens (notOpened session)
  below i phase key shown own := by
    rcases respects.key_origin move shown own with ⟨was, wasShown, wasOwn⟩ | ⟨_, _, below⟩
    · exact Nat.lt_of_lt_of_le (apart.below i was key wasShown wasOwn) move.later
    · exact below
  unpublished i phase key shown own := by
    -- The caller gives up its own key with the step that uses it.
    have used : keyOf old = some key → keyOf new = none → False := by
      intro wasOwn done
      have ofCaller : i = caller := by
        rcases respects.key_origin move shown own with ⟨was, wasShown, sameKey⟩ | ⟨same, _⟩
        · exact apart.call i caller was old key wasShown move.own sameKey wasOwn
        · exact same
      subst ofCaller
      obtain rfl := move.shows_caller.mp shown
      rw [done] at own
      contradiction
    have session : ∀ row ∈ before.catalog.sessions, row.physicalKey ≠ key := by
      rcases respects.key_origin move shown own with ⟨was, wasShown, wasOwn⟩ | ⟨_, fresh, _⟩
      · exact (apart.unpublished i was key wasShown wasOwn).1
      · rintro row member rfl
        obtain ⟨uuid, below, keyEq⟩ := consistent.sessionKey row member
        rw [keyEq] at fresh
        exact Nat.not_le_of_lt below fresh
    have location : ∀ row ∈ before.catalog.locations, row.physicalKey ≠ key := by
      rcases respects.key_origin move shown own with ⟨was, wasShown, wasOwn⟩ | ⟨_, fresh, _⟩
      · exact (apart.unpublished i was key wasShown wasOwn).2
      · rintro row member rfl
        exact Nat.not_le_of_lt (consistent.locationKey row member) fresh
    rw [move.catalog]
    constructor
    · rintro row member rfl
      rcases Action.session_origin move.enabled member with ⟨was, wasMem, terms⟩ | opens
      · exact session was wasMem (congrArg UploadSession.physicalKey terms :)
      · obtain ⟨wasOwn, done⟩ := respects.opens row opens
        exact used wasOwn done
    · rintro row member rfl
      rcases Action.published_origin move.enabled respects.migrates member with
        ⟨was, wasMem, terms⟩ | ⟨publication, publishes, rfl⟩
      · exact location was wasMem (congrArg ObjectLocation.physicalKey terms :)
      · rcases respects.publication_key move publishes with ⟨was, wasMem, _, sameKey, _⟩ | ⟨wasOwn, done⟩
        · exact session was wasMem sameKey
        · exact used wasOwn done
  call i j first second key firstShown secondShown firstOwn secondOwn := by
    rcases respects.key_origin move firstShown firstOwn with ⟨a, aShown, aOwn⟩ | ⟨rfl, fresh, _⟩
    · rcases respects.key_origin move secondShown secondOwn with ⟨b, bShown, bOwn⟩ | ⟨rfl, fresh, _⟩
      · exact apart.call i j a b key aShown bShown aOwn bOwn
      · exact absurd fresh (Nat.not_le_of_lt (apart.below i a key aShown aOwn))
    · rcases respects.key_origin move secondShown secondOwn with ⟨b, bShown, bOwn⟩ | ⟨rfl, _⟩
      · exact absurd fresh (Nat.not_le_of_lt (apart.below j b key bShown bOwn))
      · rfl

theorem stored (respects : Respects mode before after action old new)
    (move : Move caller before after action old new) {bucketConnectionId : Id} {key : PhysicalKey}
    (stored : before.Stored mode bucketConnectionId key) :
    after.Stored mode bucketConnectionId key :=
  stored.grow move.persists.buckets fun address _ holds => respects.objects address holds

/-- The location of a record keeps its object. -/
theorem stored_location (respects : Respects mode before after action old new)
    (move : Move caller before after action old new) {was location : ObjectLocation}
    (wasMem : was ∈ before.catalog.locations) (member : location ∈ after.catalog.locations)
    (sameId : was.id = location.id)
    (stored : before.Stored mode was.bucketConnectionId was.physicalKey) :
    after.Stored mode location.bucketConnectionId location.physicalKey := by
  rw [move.catalog] at member
  have terms := Action.location_terms move.enabled wasMem member sameId
  have sameBucket : was.bucketConnectionId = location.bucketConnectionId :=
    (congrArg ObjectLocation.bucketConnectionId terms :)
  have sameKey : was.physicalKey = location.physicalKey :=
    (congrArg ObjectLocation.physicalKey terms :)
  rw [← sameBucket, ← sameKey]
  exact respects.stored move stored

theorem verified_origin (respects : Respects mode before after action old new)
    (move : Move caller before after action old new) {i : Nat} {uploadId : Id}
    (shown : after.Shows i (.verified uploadId)) :
    before.Shows i (.verified uploadId) ∨
      action = .rest ∧ uploadId < before.nextId ∧
        (∀ j key, ¬before.Shows j (.initiating uploadId key)) ∧
        ∀ session ∈ before.catalog.sessions, session.id = uploadId →
          before.Stored mode session.bucketConnectionId session.physicalKey := by
  by_cases ofCaller : i = caller
  · subst ofCaller
    have newEq := move.shows_caller.mp shown
    rcases respects.verifies uploadId newEq with same | verified
    · have own := move.own
      rw [same, newEq] at own
      exact .inl own
    · exact .inr verified
  · exact .inl ((move.shows_other ofCaller).mp shown)

theorem custody (respects : Respects mode before after action old new)
    (move : Move caller before after action old new)
    (consistent : Consistent before.catalog before.nextId) (custody : Custody mode before) :
    Custody mode after where
  apart := respects.keysApart move consistent custody.apart
  available record member available location locationMem pointer := by
    rw [move.catalog] at member
    rcases Action.available_origin move.enabled respects.migrates member available with
      inTable | ⟨publication, publishes, rfl⟩ | reverts
    · obtain ⟨_, was, wasMem, wasId, _⟩ :=
        consistent.pointer record inTable location.id pointer
      exact respects.stored_location move wasMem locationMem wasId
        (custody.available record inTable available was wasMem
          (pointer.trans (congrArg some wasId.symm)))
    · have ready := publishes.ready move.enabled
      have same : location = publication.location := by
        rw [ready.pointer, Option.some.injEq] at pointer
        rw [move.catalog] at locationMem
        exact Table.eq_of_id_eq locationMem publishes.location_mem pointer.symm
      rw [same]
      rcases publishes with ⟨session, rfl⟩ | ⟨sizeBytes, rfl⟩
      · obtain ⟨⟨row, rowMem, terms, open_⟩, _, _, _, _, _, bucket, key⟩ := move.enabled
        have verified : before.Shows caller (.verified session.id) :=
          respects.completes session publication rfl ▸ move.own
        have sameBucket : row.bucketConnectionId = session.bucketConnectionId :=
          (congrArg UploadSession.bucketConnectionId terms :)
        have sameKey : row.physicalKey = session.physicalKey :=
          (congrArg UploadSession.physicalKey terms :)
        rw [bucket, key, ← sameBucket, ← sameKey]
        exact respects.stored move (custody.verified caller session.id verified row rowMem
          (congrArg UploadSession.id terms :) open_)
      · exact respects.stored move (respects.uploads sizeBytes publication rfl).2.2
    · obtain ⟨⟨locationId, oldEq⟩, _⟩ := respects.reverts record reverts
      obtain ⟨_, was, wasMem, wasId, _, wasPointer, stored⟩ :=
        custody.claimed caller record.id locationId (oldEq ▸ move.own)
      rw [reverts] at move
      obtain ⟨row, rowMem, _, recordEq⟩ := move.enabled
      have same : was = row :=
        Table.eq_of_id_eq wasMem rowMem (wasId.trans (congrArg ObjectRecord.id recordEq :))
      have samePointer : record.activeObjectLocationId = row.activeObjectLocationId :=
        (congrArg ObjectRecord.activeObjectLocationId recordEq :)
      rw [samePointer, ← same, wasPointer, Option.some.injEq] at pointer
      obtain ⟨_, at_, atMem, atId, _⟩ := consistent.pointer was wasMem locationId wasPointer
      rw [reverts] at respects
      exact respects.stored_location move atMem locationMem (atId.trans pointer)
        (stored at_ atMem atId)
  claimed i recordId locationId shown := by
    -- A claim that was there before, and the claim of this move.
    have earlier : before.Shows i (.deleting recordId locationId) → mode.deletes ∧
        ∃ record ∈ after.catalog.records, record.id = recordId ∧ record.state = .deleting ∧
          record.activeObjectLocationId = some locationId ∧
          ∀ location ∈ after.catalog.locations, location.id = locationId →
            after.Stored mode location.bucketConnectionId location.physicalKey := by
      intro was
      obtain ⟨deletes, record, recordMem, sameId, deleting, pointer, stored⟩ :=
        custody.claimed i recordId locationId was
      refine ⟨deletes, record, ?_, sameId, deleting, pointer, fun location member locationEq => ?_⟩
      · rw [move.catalog]
        rcases Action.deleting_kept move.enabled respects.migrates recordMem deleting with
          kept | ⟨row, reverts, rowId⟩ | ⟨row, closed, finalizes, at_⟩
        · exact kept
        · obtain ⟨⟨other, oldEq⟩, done⟩ := respects.reverts row reverts
          have own : before.Shows caller (.deleting recordId other) := by
            rw [← sameId, ← rowId]
            exact oldEq ▸ move.own
          have same := custody.claimant i caller recordId locationId other was own
          subst same
          exact absurd (move.shows_caller.mp shown) (done _ _)
        · rw [pointer, Option.some.injEq] at at_
          rw [at_] at was
          exact absurd was (respects.finalizes row closed finalizes i recordId)
      · obtain ⟨_, at_, atMem, atId, _⟩ := consistent.pointer record recordMem locationId pointer
        exact respects.stored_location move atMem member (atId.trans locationEq.symm)
          (stored at_ atMem atId)
    by_cases ofCaller : i = caller
    · subst ofCaller
      rcases respects.claims recordId locationId (move.shows_caller.mp shown) with
        same | ⟨deletes, record, rfl, sameId, pointer⟩
      · apply earlier
        have own := move.own
        rw [same, move.shows_caller.mp shown] at own
        exact own
      · obtain ⟨was, wasMem, wasAvailable, recordEq⟩ := move.enabled
        have wasPointer : was.activeObjectLocationId = some locationId :=
          (congrArg ObjectRecord.activeObjectLocationId recordEq :).symm.trans pointer
        refine ⟨deletes, record, ?_, sameId, (congrArg ObjectRecord.state recordEq :), pointer,
          fun location member locationEq => ?_⟩
        · rw [move.catalog]
          exact Table.mem_put_self _ _
        · obtain ⟨_, at_, atMem, atId, _⟩ := consistent.pointer was wasMem locationId wasPointer
          exact respects.stored_location move atMem member (atId.trans locationEq.symm)
            (custody.available was wasMem wasAvailable at_ atMem
              (wasPointer.trans (congrArg some atId.symm)))
    · exact earlier ((move.shows_other ofCaller).mp shown)
  claimant i j recordId first second firstShown secondShown := by
    -- Nobody claims a record that another call has claimed.
    have alone : ∀ k locationId, new = .deleting recordId locationId →
        ∀ other, before.Shows k (.deleting recordId other) → old = new := by
      intro k locationId newEq other shown
      rcases respects.claims recordId locationId newEq with same | ⟨_, record, rfl, sameId, _⟩
      · exact same
      · obtain ⟨was, wasMem, wasAvailable, recordEq⟩ := move.enabled
        obtain ⟨_, held, heldMem, heldId, deleting, _⟩ := custody.claimed k recordId other shown
        have wasId : record.id = was.id := (congrArg ObjectRecord.id recordEq :)
        rw [Table.eq_of_id_eq heldMem wasMem (heldId.trans (sameId.symm.trans wasId)),
          wasAvailable] at deleting
        contradiction
    by_cases firstCaller : i = caller
    · by_cases secondCaller : j = caller
      · exact firstCaller.trans secondCaller.symm
      · subst firstCaller
        have secondWas := (move.shows_other secondCaller).mp secondShown
        have newEq := move.shows_caller.mp firstShown
        have same := alone j first newEq second secondWas
        have own := move.own
        rw [same, newEq] at own
        exact custody.claimant i j recordId first second own secondWas
    · have firstWas := (move.shows_other firstCaller).mp firstShown
      by_cases secondCaller : j = caller
      · subst secondCaller
        have newEq := move.shows_caller.mp secondShown
        have same := alone i second newEq first firstWas
        have own := move.own
        rw [same, newEq] at own
        exact custody.claimant i j recordId first second firstWas own
      · exact custody.claimant i j recordId first second firstWas
          ((move.shows_other secondCaller).mp secondShown)
  opened i j uploadId key shown := by
    have was : uploadId < before.nextId ∧
        ∀ j key, ¬before.Shows j (.initiating uploadId key) := by
      rcases respects.verified_origin move shown with was | ⟨_, below, opened, _⟩
      · exact ⟨(custody.opened i j uploadId key was).1,
          fun j key => (custody.opened i j uploadId key was).2⟩
      · exact ⟨below, opened⟩
    refine ⟨Nat.lt_of_lt_of_le was.1 move.later, fun token => ?_⟩
    rcases move.initiating_origin token with ⟨other, tokenWas⟩ | ⟨_, fresh, _⟩
    · exact was.2 j other tokenWas
    · exact Nat.not_le_of_lt was.1 fresh
  verified i uploadId shown session member sameId open_ := by
    rw [move.catalog] at member
    rcases respects.verified_origin move shown with was | ⟨rfl, _, _, stored⟩
    · rcases Action.initiated_origin move.enabled member open_ with
        ⟨row, rowMem, terms, rowOpen⟩ | opens
      · have sameBucket : row.bucketConnectionId = session.bucketConnectionId :=
          (congrArg UploadSession.bucketConnectionId terms :)
        have sameKey : row.physicalKey = session.physicalKey :=
          (congrArg UploadSession.physicalKey terms :)
        have rowId : row.id = session.id := (congrArg UploadSession.id terms :)
        rw [← sameBucket, ← sameKey]
        exact respects.stored move
          (custody.verified i uploadId was row rowMem (rowId.trans sameId) rowOpen)
      · obtain ⟨⟨key, oldEq⟩, _⟩ := move.opens session opens
        rw [sameId] at oldEq
        exact absurd (oldEq ▸ move.own) (custody.opened i caller uploadId key was).2
    · exact respects.stored move (stored session member sameId)

end Respects

end Mosp.Conduct
