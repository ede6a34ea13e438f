import Mosp.Access.Grants
import Mosp.Data.Page
import Mosp.Services.Explorer

/-!
# Listing

What the listings of the object index and of the explorer find: the records
within the bound that the caller may see.
-/

namespace Mosp.Access

open Mosp.Concurrency Mosp.Data Mosp.Database Mosp.Sql Mosp.Services Mosp.System

/-- The available records of a namespace with a wanted key, in the order of their keys, with
their active locations. -/
def availableRecords (db : Db) (organizationId namespaceId : Id) (wanted : String → Bool) :
    List (ObjectRecord × Option ObjectLocation) :=
  (objectRecord.select
    (fun row => row.organizationId == organizationId && row.namespaceId == namespaceId &&
      row.state == .available && wanted row.logicalKey)
    (fun first second => decide (first.logicalKey ≤ second.logicalKey)) db).map fun record =>
      (record, db.objectLocation.find? fun location =>
        record.activeObjectLocationId == some location.id)

/-- The available records whose key a query takes to have a prefix. -/
def matchingRecords (db : Db) (organizationId namespaceId : Id) (keyPrefix : Option String) :
    List (ObjectRecord × Option ObjectLocation) :=
  availableRecords db organizationId namespaceId fun key => keyPrefix.all (startsWithFilter key)

/-- The available records whose key has a prefix. -/
def recordsUnder (db : Db) (organizationId namespaceId : Id) (keyPrefix : Option String) :
    List (ObjectRecord × Option ObjectLocation) :=
  availableRecords db organizationId namespaceId fun key => keyPrefix.all (startsWith key)

theorem total_byKey : Std.Total fun first second : ObjectRecord =>
    decide (first.logicalKey ≤ second.logicalKey) = true :=
  ⟨fun first second => by simpa using le_total first.logicalKey second.logicalKey⟩

theorem isTrans_byKey : IsTrans ObjectRecord fun first second =>
    decide (first.logicalKey ≤ second.logicalKey) = true :=
  ⟨fun _ _ _ before after => decide_eq_true
    (le_trans (of_decide_eq_true before) (of_decide_eq_true after))⟩

/-- Wanting more of the keys leaves fewer of the records. -/
theorem availableRecords_and {db : Db} {organizationId namespaceId : Id}
    (wanted also : String → Bool) :
    availableRecords db organizationId namespaceId (fun key => wanted key && also key) =
      (availableRecords db organizationId namespaceId wanted).filter fun entry =>
        also entry.1.logicalKey := by
  have total := total_byKey
  have transitive := isTrans_byKey
  unfold availableRecords Relation.select
  rw [List.filter_map, ← insertionSort_filter, Table.filter, Table.filter, List.filter_filter]
  congr 3
  funext row
  simp only [Function.comp_apply]
  rw [Bool.and_comm (also _), ← Bool.and_assoc]

/-- A prefix that is accepted has no backslash. -/
theorem plain_of_objectListPrefixSchema {keyPrefix : String}
    (accepted : objectListPrefixSchema keyPrefix = true) : '\\' ∉ keyPrefix.toList := by
  simp only [objectListPrefixSchema, safeObjectPathSchema, assertSafeObjectPath,
    Bool.and_eq_true, Bool.not_eq_true', Bool.or_eq_false_iff] at accepted
  simpa using accepted.2.1.1.1.2

/-- A query takes a key to have every prefix that it has. -/
theorem startsWithFilter_of_startsWith {key keyPrefix : String}
    (plain : '\\' ∉ keyPrefix.toList) (starts : startsWith key keyPrefix = true) :
    startsWithFilter key keyPrefix = true :=
  like_of_prefix plain (List.isPrefixOf_iff_prefix.mp starts)

/-- The records with a prefix are among those that a query finds. -/
theorem recordsUnder_eq {db : Db} {organizationId namespaceId : Id} {keyPrefix : Option String}
    (plain : ∀ start, keyPrefix = some start → '\\' ∉ start.toList) :
    recordsUnder db organizationId namespaceId keyPrefix =
      (matchingRecords db organizationId namespaceId keyPrefix).filter fun entry =>
        keyPrefix.all (startsWith entry.1.logicalKey) := by
  rw [matchingRecords, recordsUnder,
    ← availableRecords_and _ fun key => keyPrefix.all (startsWith key)]
  congr 1
  funext key
  cases keyPrefix with
  | none => rfl
  | some start =>
      rw [Option.all_some, Option.all_some]
      cases starts : startsWith key start with
      | true => rw [startsWithFilter_of_startsWith (plain start rfl) starts, Bool.and_self]
      | false => rw [Bool.and_false]

/-- Looking among rows that were selected is looking in the table. -/
theorem find?_select {R : Type} [Row R] {relation : Relation Db Lock R} {db : Db}
    {condition wanted : R → Bool} {before : R → R → Bool}
    (selects : ∀ row ∈ relation.table db, wanted row = true → condition row = true)
    (byId : ∀ first ∈ relation.table db, ∀ second ∈ relation.table db, wanted first = true →
      wanted second = true → Row.id first = Row.id second) :
    (relation.select condition before db).find? wanted = (relation.table db).find? wanted := by
  have members : ∀ row, row ∈ relation.select condition before db ↔
      row ∈ relation.table db ∧ condition row = true := by
    intro row
    rw [Relation.select, List.mem_insertionSort, Table.mem_filter]
  cases found : (relation.select condition before db).find? wanted with
  | none =>
      symm
      rw [Table.find?_none]
      intro row member
      by_contra wants
      have wants : wanted row = true := by simpa using wants
      have selected := (members row).mpr ⟨member, selects row member wants⟩
      exact List.find?_eq_none.mp found row selected wants
  | some row =>
      have wants := List.find?_some found
      have member := ((members row).mp (List.mem_of_find?_eq_some found)).1
      exact (Table.find?_eq_some_of_id member wants fun other otherMem otherWants =>
        byId other otherMem row member otherWants wants).symm

theorem wp_findRecords {constraints : Db → Option Failure} {time : Time}
    {organizationId namespaceId : Id} {keyPrefix : Option String} {limit : Nat}
    {returns : List (ObjectRecord × Option ObjectLocation) → State Db → Prop}
    {throws : Failure → Prop} {state : State Db} :
    Tx.wp constraints time (findRecords organizationId namespaceId keyPrefix limit) returns
        throws state ↔
      returns ((matchingRecords state.db organizationId namespaceId keyPrefix).take limit)
        state := by
  unfold findRecords
  rw [Program.bind_eq, Tx.wp_bind, Tx.wp_findMany, Program.bind_eq, Tx.wp_bind, Tx.wp_findMany]
  rw [Program.pure_eq, Tx.wp_pure, matchingRecords, availableRecords, ← List.map_take, Option.elim_some]
  generalize (objectRecord.select _ _ state.db).take limit = records
  have located : ∀ record ∈ records,
      (objectLocation.select (fun location =>
        records.any fun record => record.activeObjectLocationId == some location.id)
        (fun _ _ => true) state.db).find? (fun location =>
          record.activeObjectLocationId == some location.id) =
      state.db.objectLocation.find? fun location =>
        record.activeObjectLocationId == some location.id := by
    intro record member
    apply find?_select
    · exact fun location _ active => List.any_eq_true.mpr ⟨record, member, active⟩
    · intro first _ second _ isFirst isSecond
      have same := (beq_iff_eq.mp isFirst).symm.trans (beq_iff_eq.mp isSecond)
      exact Option.some.inj same
  have same : records.map (fun record => (record, (objectLocation.select (fun location =>
        records.any fun record => record.activeObjectLocationId == some location.id)
        (fun _ _ => true) state.db).find? fun location =>
          record.activeObjectLocationId == some location.id)) =
      records.map fun record => (record, state.db.objectLocation.find? fun location =>
        record.activeObjectLocationId == some location.id) :=
    List.map_congr_left fun record member => by rw [located record member]
  rw [Option.elim_none, same]

/-! ## The object index -/

/-- What the credential asks for when it lists a key or a prefix. -/
def listCheck (identity : ApiCredentialIdentity) (namespaceId : Id) (key : String) :
    FolderAccessCheck where
  organizationId := identity.organizationId
  namespaceId
  principalType := .apiCredential
  principalId := identity.principalId
  action := .list
  key

/-- The record has an active location, and the credential may list its key. -/
def MayList (db : Db) (now : Time) (identity : ApiCredentialIdentity) (namespaceId : Id)
    (entry : ObjectRecord × Option ObjectLocation) : Prop :=
  entry.2.any (fun location => location.state == .active) = true ∧
    MayAccess db now (listCheck identity namespaceId entry.1.logicalKey)

instance (db : Db) (now : Time) (identity : ApiCredentialIdentity) (namespaceId : Id)
    (entry : ObjectRecord × Option ObjectLocation) :
    Decidable (MayList db now identity namespaceId entry) :=
  inferInstanceAs (Decidable (_ ∧ _))

variable {constraints : Db → Option Failure} {may : {β : Type} → Command β → Choice → Prop}
  {α : Type} {ends : Except Failure α → World → Prop} {world : World}
  {identity : ApiCredentialIdentity} {namespaceId : Id}

theorem ends_listAllowed (answers : Answers may)
    (entries : List (ObjectRecord × Option ObjectLocation))
    {rest : List ObjectSummary → Service α}
    (holds : EndsAlone constraints may
      (rest ((entries.filter fun entry =>
        decide (MayList world.db world.clock identity namespaceId entry)).map
          fun entry => toObjectSummary entry.1 entry.2)) ends world) :
    EndsAlone constraints may
      (Program.bind (ObjectIndexService.listAllowed identity namespaceId entries) rest) ends
      world := by
  induction entries generalizing rest with
  | nil => exact holds
  | cons entry others ih =>
      obtain ⟨record, location⟩ := entry
      unfold ObjectIndexService.listAllowed
      by_cases active : location.any (fun location => location.state == .active) = true
      · rw [if_pos active, Program.bind_eq, Program.bind_assoc]
        refine ends_canAccess answers fun allowed allowedIff => ?_
        rw [Program.bind_eq, Program.bind_assoc]
        refine ih ?_
        rw [Program.pure_eq, Program.pure_bind]
        have listed : allowed = decide (MayList world.db world.clock identity namespaceId
            (record, location)) := by
          rw [Bool.eq_iff_iff, allowedIff, decide_eq_true_eq]
          exact ⟨fun may => ⟨active, may⟩, And.right⟩
        rw [List.filter_cons, ← listed] at holds
        cases allowed with
        | true => exact holds
        | false => exact holds
      · rw [if_neg active]
        refine ih ?_
        rw [List.filter_cons, if_neg] at holds
        · exact holds
        · exact fun listed => active (of_decide_eq_true listed).1

/-- What the object index returns. -/
def indexPage (db : Db) (now : Time) (identity : ApiCredentialIdentity) (namespaceId : Id)
    (filter : ObjectListQuery) : List ObjectSummary :=
  (((matchingRecords db identity.organizationId namespaceId filter.keyPrefix).take
      filter.limit).filter fun entry => decide (MayList db now identity namespaceId entry)).map
    fun entry => toObjectSummary entry.1 entry.2

/-- The namespace that a name stands for. -/
def namespaceOf (db : Db) (organizationId : Id) (namespaceSlug : String) :
    Option VirtualNamespace :=
  db.virtualNamespace.find? fun row =>
    row.organizationId == organizationId && row.slug == namespaceSlug

theorem ends_list (answers : Answers may) {namespaceSlug : String} {filter : ObjectListQuery}
    {found : VirtualNamespace}
    (named : namespaceOf world.db identity.organizationId namespaceSlug = some found)
    (own : found.id = identity.namespaceId) (active : found.status = .active)
    (allowed : ∀ keyPrefix, filter.keyPrefix = some keyPrefix →
      MayAccess world.db world.clock (listCheck identity found.id keyPrefix))
    {ends : Except Failure (List ObjectSummary) → World → Prop}
    (holds : ends (.ok (indexPage world.db world.clock identity found.id filter)) world) :
    EndsAlone constraints may (ObjectIndexService.list identity namespaceSlug filter) ends
      world := by
  unfold ObjectIndexService.list ObjectIndexService.ownNamespace
    ObjectIndexService.resolveNamespace
  rw [Program.bind_eq, Program.bind_eq, Program.bind_assoc]
  refine EndsAlone.query (answers _) (Tx.wp_findFirst.mpr ?_)
  have here : (virtualNamespace.table world.state.db).find? (fun row =>
      row.organizationId == identity.organizationId && row.slug == namespaceSlug) =
        some found := named
  have accepted : ¬(found.id ≠ identity.namespaceId ∨ found.status ≠ .active) := by
    simp [own, active]
  simp only [here, if_neg accepted]
  rw [Program.pure_eq, Program.pure_bind, Program.bind_eq]
  have listing : EndsAlone constraints may
      (Program.bind (query (findRecords identity.organizationId found.id filter.keyPrefix
        filter.limit)) fun records =>
          ObjectIndexService.listAllowed identity found.id records) ends world := by
    refine EndsAlone.query (answers _) (wp_findRecords.mpr ?_)
    rw [← Program.bind_pure (ObjectIndexService.listAllowed _ _ _)]
    exact ends_listAllowed answers _ (.pure holds)
  unfold ObjectIndexService.canListPrefix
  cases given : filter.keyPrefix with
  | none =>
      rw [given] at listing
      exact listing
  | some keyPrefix =>
      refine ends_canAccess answers fun visible visibleIff => ?_
      rw [if_pos (visibleIff.mpr (allowed keyPrefix given))]
      rw [given] at listing
      exact listing

/-! ## The explorer -/

/-- The record has an active location and is no folder marker. -/
def isShown (entry : ObjectRecord × Option ObjectLocation) : Bool :=
  ObjectExplorerService.isActive entry &&
    !ObjectExplorerService.isFolderMarker entry.1.logicalKey

/-- What the explorer returns. -/
def explorerPage (db : Db) (organizationId namespaceId : Id) (filter : ObjectListQuery) :
    List ObjectSummary :=
  (((matchingRecords db organizationId namespaceId filter.keyPrefix).take filter.limit).filter
    isShown).map fun entry => toObjectSummary entry.1 entry.2

theorem ends_resolveNamespace (answers : Answers may) {organizationId : Id}
    {namespaceSlug : String} {found : VirtualNamespace}
    (named : namespaceOf world.db organizationId namespaceSlug = some found)
    (active : found.status = .active) {rest : VirtualNamespace → Service α}
    (holds : EndsAlone constraints may (rest found) ends world) :
    EndsAlone constraints may
      (Program.bind (ObjectExplorerService.resolveNamespace organizationId namespaceSlug) rest)
      ends world := by
  unfold ObjectExplorerService.resolveNamespace
  rw [Program.bind_eq, Program.bind_assoc]
  refine EndsAlone.query (answers _) (Tx.wp_findFirst.mpr ?_)
  have here : (virtualNamespace.table world.state.db).find? (fun row =>
      row.organizationId == organizationId && row.slug == namespaceSlug) = some found := named
  simp only [here]
  rw [if_neg (not_not.mpr active)]
  exact holds

theorem ends_explorerList (answers : Answers may) {organizationId : Id} {namespaceSlug : String}
    {filter : ObjectListQuery} {found : VirtualNamespace}
    (named : namespaceOf world.db organizationId namespaceSlug = some found)
    (active : found.status = .active) {ends : Except Failure (List ObjectSummary) → World → Prop}
    (holds : ends (.ok (explorerPage world.db organizationId found.id filter)) world) :
    EndsAlone constraints may (ObjectExplorerService.list organizationId namespaceSlug filter)
      ends world := by
  refine ends_resolveNamespace answers named active ?_
  refine EndsAlone.query (answers _) (wp_findRecords.mpr ?_)
  exact .pure holds

end Mosp.Access
