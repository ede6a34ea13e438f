import Mosp.Index.Usage

/-!
# The catalog

What the object index is for, apart from how the services write it: records and
their locations, upload sessions, migration items, and what every namespace has
used and reserved.  The actions below are all the ways in which the catalog
moves when each transaction is one step; a transaction of a service is one of
them.
-/

namespace Mosp.Index

open Mosp.Data Mosp.Database Mosp.Services

/-- What a namespace has used and reserved. -/
@[ext]
structure Usage where
  usedBytes : Int := 0
  reservedBytes : Int := 0
  objectCount : Int := 0
  activeUploadCount : Int := 0

namespace Usage

instance : Zero Usage :=
  ⟨{}⟩

instance : Add Usage :=
  ⟨fun first second =>
    { usedBytes := first.usedBytes + second.usedBytes
      reservedBytes := first.reservedBytes + second.reservedBytes
      objectCount := first.objectCount + second.objectCount
      activeUploadCount := first.activeUploadCount + second.activeUploadCount }⟩

@[simp]
theorem add_usedBytes (first second : Usage) :
    (first + second).usedBytes = first.usedBytes + second.usedBytes :=
  rfl

@[simp]
theorem add_reservedBytes (first second : Usage) :
    (first + second).reservedBytes = first.reservedBytes + second.reservedBytes :=
  rfl

@[simp]
theorem add_objectCount (first second : Usage) :
    (first + second).objectCount = first.objectCount + second.objectCount :=
  rfl

@[simp]
theorem add_activeUploadCount (first second : Usage) :
    (first + second).activeUploadCount = first.activeUploadCount + second.activeUploadCount :=
  rfl

@[simp]
theorem zero_usedBytes : (0 : Usage).usedBytes = 0 :=
  rfl

@[simp]
theorem zero_reservedBytes : (0 : Usage).reservedBytes = 0 :=
  rfl

@[simp]
theorem zero_objectCount : (0 : Usage).objectCount = 0 :=
  rfl

@[simp]
theorem zero_activeUploadCount : (0 : Usage).activeUploadCount = 0 :=
  rfl

end Usage

/-- What a counter says. -/
def usageOf (counter : UsageCounter) : Usage :=
  { usedBytes := counter.usedBytes
    reservedBytes := counter.reservedBytes
    objectCount := counter.objectCount
    activeUploadCount := counter.activeUploadCount }

/-- The catalog.  Namespaces and buckets are configuration, which no action
changes. -/
structure Catalog where
  records : Table ObjectRecord
  locations : Table ObjectLocation
  sessions : Table UploadSession
  items : Table MigrationItem
  usage : Id → Id → Usage
  namespaces : Table VirtualNamespace
  buckets : Table BucketConnection

/-- The catalog of a database. -/
def catalogOf (db : Db) : Catalog where
  records := db.objectRecord
  locations := db.objectLocation
  sessions := db.uploadSession
  items := db.migrationItem
  usage organizationId namespaceId := usageOf (counterOf db organizationId namespaceId)
  namespaces := db.virtualNamespace
  buckets := db.bucketConnection

/-! ## What stays the same about a row -/

/-- A session without its progress. -/
def sessionTerms (session : UploadSession) : UploadSession :=
  { session with
    providerUploadFinalized := false
    state := .initiated
    completedAt := none
    updatedAt := 0 }

/-- A location without its progress. -/
def locationTerms (location : ObjectLocation) : ObjectLocation :=
  { location with state := .candidate, verifiedAt := none, updatedAt := 0 }

/-- A migration item without its progress. -/
def itemTerms (item : MigrationItem) : MigrationItem :=
  { item with
    state := .pending
    attempts := 0
    lastError := none
    nextAttemptAt := none
    updatedAt := 0 }

/-! ## Actions -/

namespace Catalog

variable (catalog : Catalog)

/-- Add to what a namespace has used and reserved. -/
def charge (organizationId namespaceId : Id) (delta : Usage) : Catalog :=
  { catalog with
    usage := fun otherOrganization otherNamespace =>
      if otherOrganization = organizationId ∧ otherNamespace = namespaceId then
        catalog.usage otherOrganization otherNamespace + delta
      else
        catalog.usage otherOrganization otherNamespace }

end Catalog

/-- How a record comes to its new active location. -/
structure Publication where
  record : ObjectRecord
  location : ObjectLocation
  /-- The record of the key before, if there was one. -/
  existing : Option ObjectRecord
  /-- The location that was active before, as it is retained. -/
  retained : Option ObjectLocation

namespace Publication

variable (publication : Publication)

/-- The record that takes up space before the publication. -/
def stored : Option ObjectRecord :=
  publication.existing.filter takesSpace

/-- What the publication adds to the used bytes. -/
def gain : Usage :=
  { usedBytes := publication.record.sizeBytes - publication.stored.elim 0 ObjectRecord.sizeBytes
    objectCount := if publication.stored.isSome then 0 else 1 }

/-- A publication that the records and locations are ready for. -/
structure Ready (catalog : Catalog) : Prop where
  available : publication.record.state = .available
  pointer : publication.record.activeObjectLocationId = some publication.location.id
  size : 0 ≤ publication.record.sizeBytes
  active : publication.location.state = .active
  owner : publication.location.objectRecordId = publication.record.id
  tenant : publication.location.organizationId = publication.record.organizationId
  freshLocation : ∀ location ∈ catalog.locations, location.id ≠ publication.location.id
  freshRecord : publication.existing = none →
    ∀ record ∈ catalog.records, record.id ≠ publication.record.id
  existing : ∀ old ∈ publication.existing, old ∈ catalog.records ∧
    old.id = publication.record.id ∧ old.organizationId = publication.record.organizationId ∧
    old.namespaceId = publication.record.namespaceId
  passed : ∀ old ∈ publication.existing, old.state ≠ .deleting
  retained : ∀ row ∈ publication.retained, row.state = .retained ∧
    ∃ old ∈ publication.existing, ∃ location ∈ catalog.locations,
      old.activeObjectLocationId = some location.id ∧ locationTerms location = locationTerms row
  leaves : ∀ old ∈ publication.existing, takesSpace old = true →
    ∀ location ∈ catalog.locations, old.activeObjectLocationId = some location.id →
      location.organizationId = old.organizationId → location.state = .active →
      ∃ row ∈ publication.retained, row.id = location.id

end Publication

/-- One move of the catalog. -/
inductive Action where
  /-- Nothing that the catalog knows of. -/
  | rest
  /-- A session makes progress. -/
  | progress (session : UploadSession)
  /-- A session is opened and its bytes are reserved. -/
  | openSession (session : UploadSession)
  /-- An open session ends without an object. -/
  | closeSession (session : UploadSession)
  /-- An ended session is removed. -/
  | prune (sessionId : Id)
  /-- An explorer upload reserves bytes. -/
  | reserve (organizationId namespaceId : Id) (sizeBytes : Int)
  /-- An explorer upload returns the bytes it has reserved. -/
  | release (organizationId namespaceId : Id) (sizeBytes : Int)
  /-- An open session ends with an object. -/
  | complete (session : UploadSession) (publication : Publication)
  /-- An explorer upload ends with an object. -/
  | upload (sizeBytes : Int) (publication : Publication)
  /-- A record goes into deletion. -/
  | claim (record : ObjectRecord)
  /-- A record comes back from deletion. -/
  | revert (record : ObjectRecord)
  /-- A record in deletion is closed. -/
  | finalize (record : ObjectRecord) (location : ObjectLocation)
  /-- A location that is not active is marked deleted. -/
  | retire (location : ObjectLocation)
  /-- A migration item makes progress. -/
  | work (item : MigrationItem)
  /-- A migration item is added. -/
  | schedule (item : MigrationItem)
  /-- A record moves to the copy that a migration item has made. -/
  | migrate (item : MigrationItem) (record : ObjectRecord) (retained target : ObjectLocation)

namespace Catalog

variable (catalog : Catalog)

/-- Write the record and the locations of a publication. -/
def publish (publication : Publication) : Catalog :=
  { catalog with
    records := catalog.records.put publication.record
    locations := (publication.retained.elim catalog.locations catalog.locations.put).put
      publication.location }

/-- What the catalog is after an action. -/
def after : Action → Catalog
  | .rest => catalog
  | .progress session => { catalog with sessions := catalog.sessions.put session }
  | .openSession session =>
      charge { catalog with sessions := catalog.sessions.put session } session.organizationId
        session.namespaceId { reservedBytes := session.reservedBytes, activeUploadCount := 1 }
  | .closeSession session =>
      charge { catalog with sessions := catalog.sessions.put session } session.organizationId
        session.namespaceId { reservedBytes := -session.reservedBytes, activeUploadCount := -1 }
  | .prune sessionId => { catalog with sessions := catalog.sessions.erase sessionId }
  | .reserve organizationId namespaceId sizeBytes =>
      catalog.charge organizationId namespaceId { reservedBytes := sizeBytes }
  | .release organizationId namespaceId sizeBytes =>
      catalog.charge organizationId namespaceId { reservedBytes := -sizeBytes }
  | .complete session publication =>
      charge (publish { catalog with sessions := catalog.sessions.put session } publication)
        session.organizationId session.namespaceId
        ({ reservedBytes := -session.reservedBytes, activeUploadCount := -1 } + publication.gain)
  | .upload sizeBytes publication =>
      (catalog.publish publication).charge publication.record.organizationId
        publication.record.namespaceId ({ reservedBytes := -sizeBytes } + publication.gain)
  | .claim record | .revert record => { catalog with records := catalog.records.put record }
  | .finalize record location =>
      charge { catalog with
        records := catalog.records.put record
        locations := catalog.locations.put location } record.organizationId
          record.namespaceId { usedBytes := -record.sizeBytes, objectCount := -1 }
  | .retire location => { catalog with locations := catalog.locations.put location }
  | .work item | .schedule item => { catalog with items := catalog.items.put item }
  | .migrate item record retained target =>
      { catalog with
        records := catalog.records.put record
        locations := (catalog.locations.put target).put retained
        items := catalog.items.put item }

end Catalog

/-- When an action can be taken.  Identifiers below `nextId` are taken. -/
def Action.Enabled (catalog : Catalog) (nextId : Id) : Action → Prop
  | .rest => True
  | .progress session => ∃ old ∈ catalog.sessions,
      sessionTerms old = sessionTerms session ∧ old.state = session.state
  | .openSession session => (∀ other ∈ catalog.sessions, other.id ≠ session.id) ∧
      session.state = .initiated ∧ 0 ≤ session.reservedBytes ∧ session.id < nextId ∧
      ∃ uuid < nextId, session.physicalKey = .object session.namespaceId uuid
  | .closeSession session => ∃ old ∈ catalog.sessions,
      sessionTerms old = sessionTerms session ∧ old.state = .initiated ∧
      (session.state = .aborted ∨ session.state = .expired)
  | .prune sessionId => ∀ session ∈ catalog.sessions, session.id = sessionId →
      session.state ≠ .initiated
  | .reserve _ _ sizeBytes | .release _ _ sizeBytes => 0 ≤ sizeBytes
  | .complete session publication => (∃ old ∈ catalog.sessions,
        sessionTerms old = sessionTerms session ∧ old.state = .initiated) ∧
      session.state = .completed ∧ publication.Ready catalog ∧
      publication.record.organizationId = session.organizationId ∧
      publication.record.namespaceId = session.namespaceId ∧
      publication.record.sizeBytes = session.reservedBytes ∧
      publication.location.bucketConnectionId = session.bucketConnectionId ∧
      publication.location.physicalKey = session.physicalKey
  | .upload sizeBytes publication => publication.Ready catalog ∧ publication.existing = none ∧
      publication.record.sizeBytes = sizeBytes ∧
      ∃ uuid < nextId, publication.location.physicalKey =
        .object publication.record.namespaceId uuid
  | .claim record => ∃ old ∈ catalog.records, old.state = .available ∧
      record = { old with state := .deleting, modifiedAt := record.modifiedAt }
  | .revert record => ∃ old ∈ catalog.records, old.state = .deleting ∧
      record = { old with state := .available, modifiedAt := record.modifiedAt }
  | .finalize record location => ∃ old ∈ catalog.records, old.state = .deleting ∧
      record = { old with
        state := .deleted, activeObjectLocationId := none, modifiedAt := record.modifiedAt } ∧
      location.state = .deleted ∧ ∃ active ∈ catalog.locations,
        old.activeObjectLocationId = some active.id ∧
        locationTerms active = locationTerms location
  | .retire location => location.state = .deleted ∧ ∃ old ∈ catalog.locations,
      old.state = .retained ∧ locationTerms old = locationTerms location
  | .work item => ∃ old ∈ catalog.items, itemTerms old = itemTerms item
  | .schedule item => (∀ other ∈ catalog.items, other.id ≠ item.id ∧
        other.targetPhysicalKey ≠ item.targetPhysicalKey) ∧
      (∀ location ∈ catalog.locations, location.physicalKey ≠ item.targetPhysicalKey) ∧
      (∃ location ∈ catalog.locations, location.id = item.sourceLocationId) ∧
      ∃ namespaceId uuid, uuid < nextId ∧
        item.targetPhysicalKey = .migration namespaceId item.migrationRunId uuid
  | .migrate item record retained target =>
      (∃ old ∈ catalog.items, itemTerms old = itemTerms item) ∧
      (∃ old ∈ catalog.records, old.id = item.objectRecordId ∧ old.state = .available ∧
        old.activeObjectLocationId = some item.sourceLocationId ∧
        record = { old with
          activeObjectLocationId := some target.id, modifiedAt := record.modifiedAt } ∧
        target.organizationId = old.organizationId) ∧
      (retained.state = .retained ∧ ∃ source ∈ catalog.locations,
        source.id = item.sourceLocationId ∧ locationTerms source = locationTerms retained) ∧
      (∀ location ∈ catalog.locations, location.id ≠ target.id) ∧
      target.state = .active ∧ target.objectRecordId = item.objectRecordId ∧
      target.bucketConnectionId = item.targetBucketConnectionId ∧
      target.physicalKey = item.targetPhysicalKey

end Mosp.Index
