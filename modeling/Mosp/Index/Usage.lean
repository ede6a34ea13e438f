import Mosp.Services.Upload
import Mathlib.Tactic.Tauto

/-!
# Usage of a namespace

What the rows of a namespace imply for its counter, and what the counter says.
-/

namespace Mosp.Index

open Mosp.Data Mosp.Sql Mosp.Database Mosp.Services

/-- Records take up space until their deletion is final. -/
def takesSpace (row : ObjectRecord) : Bool :=
  row.state == .available || row.state == .deleting

/-- A record of the namespace that takes up space. -/
def isStored (organizationId namespaceId : Id) (row : ObjectRecord) : Bool :=
  row.organizationId == organizationId && row.namespaceId == namespaceId && takesSpace row

/-- A session of the namespace that still holds its reservation. -/
def isInitiated (organizationId namespaceId : Id) (row : UploadSession) : Bool :=
  row.organizationId == organizationId && row.namespaceId == namespaceId &&
    row.state == .initiated

/-- The bytes of a record, if it takes up space. -/
def storedSize (organizationId namespaceId : Id) (row : ObjectRecord) : Int :=
  if isStored organizationId namespaceId row then row.sizeBytes else 0

/-- The bytes of a session, if it still holds them. -/
def reservedSize (organizationId namespaceId : Id) (row : UploadSession) : Int :=
  if isInitiated organizationId namespaceId row then row.reservedBytes else 0

namespace Implied

variable (db : Db) (organizationId namespaceId : Id)

def usedBytes : Int :=
  db.objectRecord.total (storedSize organizationId namespaceId)

def objectCount : Int :=
  db.objectRecord.count (isStored organizationId namespaceId)

def reservedBytes : Int :=
  db.uploadSession.total (reservedSize organizationId namespaceId)

def activeUploadCount : Int :=
  db.uploadSession.count (isInitiated organizationId namespaceId)

end Implied

/-- The counter of a namespace; one that does not exist yet counts as zero. -/
def counterOf (db : Db) (organizationId namespaceId : Id) : UsageCounter :=
  (db.usageCounter.find? (isCounterOf organizationId namespaceId)).getD
    { id := 0, organizationId, namespaceId }

/-- The counter of a namespace says what the rows of the namespace imply. -/
structure LedgerAt (db : Db) (organizationId namespaceId : Id) : Prop where
  usedBytes : (counterOf db organizationId namespaceId).usedBytes =
    Implied.usedBytes db organizationId namespaceId
  objectCount : (counterOf db organizationId namespaceId).objectCount =
    Implied.objectCount db organizationId namespaceId
  reservedBytes : (counterOf db organizationId namespaceId).reservedBytes =
    Implied.reservedBytes db organizationId namespaceId
  activeUploadCount : (counterOf db organizationId namespaceId).activeUploadCount =
    Implied.activeUploadCount db organizationId namespaceId

/-- Every counter says what the rows of its namespace imply. -/
def UsageLedger (db : Db) : Prop :=
  ∀ organizationId namespaceId, LedgerAt db organizationId namespaceId

/-- All objects, sessions and counters are of one namespace. -/
def OnlyTenant (db : Db) (organizationId namespaceId : Id) : Prop :=
  (∀ row ∈ db.objectRecord.rows,
    row.organizationId = organizationId ∧ row.namespaceId = namespaceId) ∧
  (∀ row ∈ db.uploadSession.rows,
    row.organizationId = organizationId ∧ row.namespaceId = namespaceId) ∧
  (∀ row ∈ db.usageCounter.rows,
    row.organizationId = organizationId ∧ row.namespaceId = namespaceId)

instance (db : Db) (organizationId namespaceId : Id) :
    Decidable (OnlyTenant db organizationId namespaceId) :=
  inferInstanceAs (Decidable (_ ∧ _ ∧ _))

/-- Where only one namespace has rows, the ledger is the ledger of that one. -/
theorem UsageLedger.of_tenant {db : Db} (organizationId namespaceId : Id)
    (only : OnlyTenant db organizationId namespaceId) (here : LedgerAt db organizationId namespaceId) :
    UsageLedger db := by
  intro otherOrganization otherNamespace
  by_cases same : organizationId = otherOrganization ∧ namespaceId = otherNamespace
  · obtain ⟨rfl, rfl⟩ := same
    exact here
  · obtain ⟨records, sessions, counters⟩ := only
    have elsewhere : ∀ organizationId' namespaceId',
        organizationId' = organizationId ∧ namespaceId' = namespaceId →
        ¬(organizationId' = otherOrganization ∧ namespaceId' = otherNamespace) := by
      rintro _ _ ⟨rfl, rfl⟩
      exact same
    have noCounter : db.usageCounter.find? (isCounterOf otherOrganization otherNamespace) = none := by
      refine Table.find?_none.mpr fun row member => ?_
      simpa [isCounterOf] using elsewhere _ _ (counters row member)
    have notStored : ∀ row ∈ db.objectRecord,
        isStored otherOrganization otherNamespace row = false := fun row member => by
      have other := elsewhere _ _ (records row member)
      simp only [isStored, Bool.and_eq_false_iff, beq_eq_false_iff_ne]
      tauto
    have notInitiated : ∀ row ∈ db.uploadSession,
        isInitiated otherOrganization otherNamespace row = false := fun row member => by
      have other := elsewhere _ _ (sessions row member)
      simp only [isInitiated, Bool.and_eq_false_iff, beq_eq_false_iff_ne]
      tauto
    constructor <;> simp only [counterOf, noCounter, Option.getD_none]
    · exact (Table.total_zero fun row member => by simp [storedSize, notStored row member]).symm
    · exact (Table.total_zero fun row member => by simp [notStored row member]).symm
    · exact (Table.total_zero fun row member => by simp [reservedSize, notInitiated row member]).symm
    · exact (Table.total_zero fun row member => by simp [notInitiated row member]).symm

end Mosp.Index
