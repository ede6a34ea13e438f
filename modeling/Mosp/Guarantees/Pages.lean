import Mosp.Data.Paging
import Mosp.Services.UsageReport

/-!
# Guarantees about pages

Whoever follows the cursors of a list gets every row once and in order.
-/

namespace Mosp.Guarantees

open Mosp.Data Mosp.Database Mosp.Services

/-! ## Activity logs -/

section ActivityLogs

open OrganizationService

variable {toISOString : Time → String} {organizationId : Id} {query : ActivityLogQuery}

/-- What `activityLogQuerySchema` accepts: a limit from 1 to 100 and filters that are not
empty. -/
structure Accepts (query : ActivityLogQuery) : Prop where
  positive : 1 ≤ query.limit
  atMost : query.limit ≤ 100
  action : query.action ≠ some ""
  entityType : query.entityType ≠ some ""

/-- Activities with larger numbers were added. -/
def Appended (older newer : ActivityTables) : Prop :=
  ∃ added, newer.activityLog = older.activityLog ++ added ∧
    ∀ log ∈ added, ∀ old ∈ older.activityLog, old.id < log.id

theorem Appended.trans {first second third : ActivityTables} (before : Appended first second)
    (after : Appended second third) : Appended first third := by
  obtain ⟨added, whole, larger⟩ := before
  obtain ⟨more, wholeLater, largerLater⟩ := after
  use added ++ more
  constructor
  · rw [wholeLater, whole, List.append_assoc]
  · intro log member old inside
    rcases List.mem_append.mp member with member | member
    · exact larger log member old inside
    · exact largerLater log member old (whole ▸ List.mem_append_left _ inside)

theorem appended_zero {tables : Nat → ActivityTables}
    (grows : ∀ number, Appended (tables number) (tables (number + 1))) (number : Nat) :
    Appended (tables 0) (tables number) := by
  induction number with
  | zero => exact ⟨[], (List.append_nil _).symm, nofun⟩
  | succ number ih => exact ih.trans (grows number)

/-- The activities that a query asks for. -/
def Matches (organizationId : Id) (query : ActivityLogQuery) (log : LoggedActivity) : Prop :=
  log.organizationId = some organizationId ∧
    (∀ action ∈ query.action, log.action = action) ∧
    ∀ entityType ∈ query.entityType, log.entityType = entityType

instance : DecidablePred (Matches organizationId query) :=
  fun _ => inferInstanceAs (Decidable (_ ∧ _ ∧ _))

theorem whenGiven_none {condition : String → Bool} : whenGiven none condition = true :=
  rfl

theorem whenGiven_iff {value : Option String} {condition : String → Bool} (nonempty : value ≠ some "") :
    whenGiven value condition = true ↔ ∀ given ∈ value, condition given = true := by
  cases value with
  | none => simp [whenGiven]
  | some value =>
      have other : value ≠ "" := fun same => nonempty (congrArg some same)
      simp [whenGiven, other]

theorem bigInt_toString (number : Nat) : bigInt (toString number) = number := by
  rw [bigInt, Nat.toString_eq_ofList_toDigits, String.toList_ofList, Nat.ofDigitChars_ten_toDigits]

theorem isActivityLogCursor_toString {number : Nat} (small : number < 2 ^ 63) :
    isActivityLogCursor (toString number) = true := by
  have short : (Nat.toDigits 10 number).length ≤ 20 :=
    (Nat.length_toDigits_le_iff (by decide) (by decide)).mpr (small.trans (by decide))
  have some_ : 1 ≤ (Nat.toDigits 10 number).length :=
    List.length_pos_iff.mpr Nat.toDigits_ne_nil
  have digits : ∀ char ∈ Nat.toDigits 10 number, char.isDigit = true :=
    fun char member => Nat.isDigit_of_mem_toDigits (by decide) (by decide) member
  rw [isActivityLogCursor, Nat.toString_eq_ofList_toDigits, String.toList_ofList]
  simpa [short, some_] using digits

/-- An item shows a row, with the user who acted if the tables still have one. -/
structure ShowsLog (toISOString : Time → String) (tables : ActivityTables) (log : LoggedActivity)
    (item : ActivityLogItem) : Prop where
  id : item.id = toString log.id
  action : item.action = log.action
  entityType : item.entityType = log.entityType
  entityId : item.entityId = log.entityId
  metadata : item.metadata = log.metadata
  requestId : item.requestId = log.requestId
  createdAt : item.createdAt = toISOString log.createdAt
  actor : item.actor =
    log.actorId.bind fun actorId => tables.user.find? fun user => user.id == actorId

theorem activityLogItem_shows {tables : ActivityTables} {log : LoggedActivity} :
    ShowsLog toISOString tables log (activityLogItem toISOString tables log) :=
  ⟨rfl, rfl, rfl, rfl, rfl, rfl, rfl, rfl⟩

theorem listActivityLogs_page {tables : ActivityTables} {remaining : List LoggedActivity}
    (read : findActivityLogs tables organizationId query = remaining) :
    PageOf (fun item log => ShowsLog toISOString tables log item)
      (fun log => toString log.id) query.limit remaining
      (listActivityLogs toISOString tables organizationId query).items
      (listActivityLogs toISOString tables organizationId query).nextCursor := by
  have probe := @pageOf_probe _ _ _ _ (fun item log => ShowsLog toISOString tables log item)
    (fun log : LoggedActivity => toString log.id) query.limit remaining
    (remaining.take (query.limit + 1)) (fun log => log) (activityLogItem toISOString tables)
    (List.map_id' _) fun _ _ => activityLogItem_shows
  simpa only [listActivityLogs, read, decide_eq_true_eq] using probe

instance : Std.Total newestFirst :=
  ⟨fun first second => Nat.le_total second.id first.id⟩

instance : IsTrans LoggedActivity newestFirst :=
  ⟨fun _ _ _ first second => Nat.le_trans second first⟩

/-- No two rows have one number. -/
def DistinctLogs (tables : ActivityTables) : Prop :=
  tables.activityLog.Pairwise fun first second => first.id ≠ second.id

/-- The first call reads all rows that match. -/
def matching (tables : ActivityTables) (organizationId : Id) (query : ActivityLogQuery) :
    List LoggedActivity :=
  (tables.activityLog.filter fun log => Matches organizationId query log).insertionSort newestFirst

theorem mem_matching {tables : ActivityTables} {log : LoggedActivity} :
    log ∈ matching tables organizationId query ↔
      log ∈ tables.activityLog ∧ Matches organizationId query log := by
  simp [matching]

theorem matching_strict {tables : ActivityTables} (distinct : DistinctLogs tables) :
    (matching tables organizationId query).Pairwise fun first second =>
      newestFirst first second ∧ ¬newestFirst second first := by
  apply strict_insertionSort
  apply (distinct.sublist List.filter_sublist).imp
  rintro first second differ ⟨before, back⟩
  exact differ (Nat.le_antisymm back before)

/-- A row that the query of a call selects. -/
theorem selected_eq (accepts : Accepts query) {cursor : Option String} {log : LoggedActivity} :
    (log.organizationId == some organizationId &&
        whenGiven cursor (fun cursor => log.id < bigInt cursor) &&
        whenGiven query.action (fun action => log.action == action) &&
        whenGiven query.entityType fun entityType => log.entityType == entityType) =
      (decide (Matches organizationId query log) &&
        whenGiven cursor fun cursor => log.id < bigInt cursor) := by
  rw [Bool.eq_iff_iff]
  simp only [Bool.and_eq_true, beq_iff_eq, decide_eq_true_eq, whenGiven_iff accepts.action,
    whenGiven_iff accepts.entityType]
  unfold Matches
  tauto

theorem findActivityLogs_eq (accepts : Accepts query) {tables : ActivityTables}
    {cursor : Option String} :
    findActivityLogs tables organizationId { query with cursor } =
      (tables.activityLog.filter fun log => decide (Matches organizationId query log) &&
        whenGiven cursor fun cursor => log.id < bigInt cursor).insertionSort newestFirst := by
  rw [findActivityLogs]
  exact congrArg _ (List.filter_congr fun log _ => selected_eq accepts)

theorem findActivityLogs_first (accepts : Accepts query) {tables : ActivityTables} :
    findActivityLogs tables organizationId
      { query with cursor := none } = matching tables organizationId query := by
  simp only [findActivityLogs_eq accepts, matching, whenGiven_none, Bool.and_true]

/-- A later call reads the rows that follow, even if there are new ones. -/
theorem findActivityLogs_next (accepts : Accepts query) {older tables : ActivityTables}
    (distinct : DistinctLogs older) (appended : Appended older tables)
    {before rest : List LoggedActivity} {last : LoggedActivity}
    (whole : matching older organizationId query = before ++ last :: rest) :
    findActivityLogs tables organizationId
      { query with cursor := some (toString last.id) } = rest := by
  have strict := @matching_strict organizationId query older distinct
  obtain ⟨added, grown, larger⟩ := appended
  have listed : last ∈ older.activityLog :=
    (mem_matching.mp (whole ▸ by simp : last ∈ matching older organizationId query)).1
  have nonempty : toString last.id ≠ "" := by
    rw [Nat.toString_eq_ofList_toDigits]
    intro empty
    have digits := congrArg String.toList empty
    rw [String.toList_ofList] at digits
    exact Nat.toDigits_ne_nil digits
  have condition (log : LoggedActivity) :
      whenGiven (some (toString last.id)) (fun cursor => log.id < bigInt cursor) =
        decide (newestFirst last log ∧ ¬newestFirst log last) := by
    rw [Bool.eq_iff_iff, whenGiven_iff fun empty => nonempty (Option.some.inj empty)]
    simp only [Option.mem_def, Option.some.injEq, forall_eq', bigInt_toString, decide_eq_true_eq]
    exact Nat.lt_iff_le_and_not_ge
  have later : added.filter (fun log => decide (Matches organizationId query log) &&
      decide (newestFirst last log ∧ ¬newestFirst log last)) = [] := by
    rw [List.filter_eq_nil_iff]
    intro log member
    have above := larger log member last listed
    simp only [Bool.and_eq_true, decide_eq_true_eq]
    exact fun selected => absurd selected.2.1 (Nat.not_le.mpr above)
  simp only [findActivityLogs_eq accepts, condition]
  rw [grown, List.filter_append, later, List.append_nil]
  have asymm (first second : LoggedActivity)
      (before : newestFirst first second ∧ ¬newestFirst second first) :
      ¬(newestFirst second first ∧ ¬newestFirst first second) :=
    fun back => back.2 before.1
  have after := filter_after asymm (whole ▸ strict)
  apply insertionSort_eq
  · have sorted := List.perm_insertionSort newestFirst
      (older.activityLog.filter fun log => Matches organizationId query log)
    have kept := sorted.filter fun log => decide (newestFirst last log ∧ ¬newestFirst log last)
    rw [List.filter_filter] at kept
    rw [← after, ← whole]
    simpa only [matching, Bool.and_comm] using kept
  · exact (List.pairwise_cons.mp (List.pairwise_append.mp (whole ▸ strict)).2.1).2

/-- What comes of following the cursors of the activity logs. -/
structure EveryLog (toISOString : Time → String) (organizationId : Id) (query : ActivityLogQuery)
    (tables : Nat → ActivityTables) (logs : List LoggedActivity) (pages : List ActivityLogPage) :
    Prop where
  descending : logs.Pairwise fun first second => second.id < first.id
  matching : ∀ log, log ∈ logs ↔
    log ∈ (tables 0).activityLog ∧ Matches organizationId query log
  ends : ∀ fuel, logs.length < fuel →
    follow (fun number cursor =>
        listActivityLogs toISOString (tables number) organizationId { query with cursor })
      ActivityLogPage.nextCursor fuel 0 none = some pages
  shown : List.Forall₂
    (fun item log => ∃ number, ShowsLog toISOString (tables number) log item)
    (pages.flatMap ActivityLogPage.items) logs
  /-- The numbers of the rows are positive 64-bit integers, and so every cursor is accepted. -/
  cursors : (∀ log ∈ (tables 0).activityLog, log.id < 2 ^ 63) →
    ∀ page ∈ pages, ∀ cursor ∈ page.nextCursor, isActivityLogCursor cursor = true

theorem everyLog (accepts : Accepts query) {tables : Nat → ActivityTables}
    (distinct : DistinctLogs (tables 0))
    (grows : ∀ number, Appended (tables number) (tables (number + 1))) :
    ∃ logs pages, EveryLog toISOString organizationId query tables logs pages := by
  have first := @listActivityLogs_page toISOString organizationId { query with cursor := none }
    (tables 0) _ (findActivityLogs_first accepts)
  have answers (number : Nat) (before : List LoggedActivity) (last : LoggedActivity)
      (rest : List LoggedActivity)
      (whole : Guarantees.matching (tables 0) organizationId query = before ++ last :: rest) :=
    @listActivityLogs_page toISOString organizationId
      { query with cursor := some (toString last.id) } (tables (number + 1)) rest
      (findActivityLogs_next accepts distinct (appended_zero grows (number + 1)) whole)
  obtain ⟨pages, ends, shown, cursors⟩ := @follow_pages _ _ _ _
    (fun number cursor =>
      listActivityLogs toISOString (tables number) organizationId { query with cursor })
    ActivityLogPage.nextCursor ActivityLogPage.items
    (fun number item log => ShowsLog toISOString (tables number) log item)
    (fun log => toString log.id) query.limit accepts.positive _ answers 0 none _
    (List.suffix_refl _) first
  use Guarantees.matching (tables 0) organizationId query, pages
  constructor
  · exact (matching_strict distinct).imp fun before => Nat.not_le.mp before.2
  · exact fun log => mem_matching
  · exact ends
  · exact shown
  · intro small page member cursor named
    obtain ⟨log, listed, rfl⟩ := cursors page member cursor named
    exact isActivityLogCursor_toString (small log (mem_matching.mp listed).1)

end ActivityLogs

/-! ## Usage -/

section Usage

open UsageService

variable {uuidText : Id → String} {toISOString : Time → String} {organizationId : Id}
  {limit : Nat}

/-- A summary reports on a namespace: with the numbers of its counter, or zeros if there is
none. -/
structure Reports (uuidText : Id → String) (toISOString : Time → String) (tables : UsageTables)
    (organizationId id : Id) (summary : NamespaceUsageSummary) : Prop where
  namespaceId : summary.namespaceId = uuidText id
  row : ∃ row ∈ tables.virtualNamespace, row.organizationId = organizationId ∧ row.id = id ∧
    summary.name = row.name ∧ summary.slug = row.slug ∧
    summary.status = statusText row.status ∧ summary.quotaBytes = toString row.quotaBytes
  usage :
    (∃ counter ∈ tables.usageCounter, counter.organizationId = organizationId ∧
      counter.namespaceId = id ∧ summary.updatedAt = some (toISOString counter.updatedAt) ∧
      summary.toUsageTotals =
        { usedBytes := toString counter.usedBytes
          reservedBytes := toString counter.reservedBytes
          objectCount := toString counter.objectCount
          activeUploadCount := counter.activeUploadCount
          requestCount := toString counter.requestCount
          ingressBytes := toString counter.ingressBytes
          egressBytes := toString counter.egressBytes }) ∨
    (∀ counter ∈ tables.usageCounter,
      ¬(counter.organizationId = organizationId ∧ counter.namespaceId = id)) ∧
      summary.updatedAt = none ∧
      summary.toUsageTotals =
        { usedBytes := "0", reservedBytes := "0", objectCount := "0", activeUploadCount := 0
          requestCount := "0", ingressBytes := "0", egressBytes := "0" }

theorem namespaceUsage_reports {tables : UsageTables} {row : VirtualNamespace}
    (member : row ∈ tables.virtualNamespace) (own : row.organizationId = organizationId) :
    Reports uuidText toISOString tables organizationId row.id
      (namespaceUsage uuidText toISOString tables row) := by
  constructor
  · rfl
  · exact ⟨row, member, own, rfl, rfl, rfl, rfl, rfl⟩
  · cases found : counterOf tables row with
    | none =>
        right
        refine ⟨fun counter inside both => ?_, ?_, ?_⟩
        · have other := List.find?_eq_none.mp found counter inside
          simp [isCounterOf, own, both] at other
        · simp only [namespaceUsage, found, Option.map_none]
        · simp only [namespaceUsage, found]
          rfl
    | some counter =>
        left
        have same := List.find?_some found
        simp only [isCounterOf, Bool.and_eq_true, beq_iff_eq, own] at same
        refine ⟨counter, List.mem_of_find?_eq_some found, same.1, same.2, ?_, ?_⟩
        · simp only [namespaceUsage, found, Option.map_some]
        · simp only [namespaceUsage, found]
          rfl

instance : Std.Total ascending :=
  ⟨fun first second => Nat.le_total first.id second.id⟩

instance : IsTrans VirtualNamespace ascending :=
  ⟨fun _ _ _ first second => Nat.le_trans first second⟩

/-- The namespaces of an organization, in ascending order. -/
def namespacesOf (tables : UsageTables) (organizationId : Id) : List VirtualNamespace :=
  (tables.virtualNamespace.filter fun row => row.organizationId == organizationId).insertionSort
    ascending

theorem mem_namespacesOf {tables : UsageTables} {row : VirtualNamespace} :
    row ∈ namespacesOf tables organizationId ↔
      row ∈ tables.virtualNamespace ∧ row.organizationId = organizationId := by
  simp [namespacesOf]

theorem ascending_ids {tables : UsageTables}
    (distinct : (tables.virtualNamespace.map VirtualNamespace.id).Nodup) :
    ((namespacesOf tables organizationId).map VirtualNamespace.id).Pairwise (· < ·) := by
  rw [List.pairwise_map]
  have strict := @strict_insertionSort _ ascending _
    (tables.virtualNamespace.filter fun row => row.organizationId == organizationId) _ _ (by
      apply ((List.pairwise_map.mp distinct).sublist List.filter_sublist).imp
      rintro first second differ ⟨before, back⟩
      exact differ (Nat.le_antisymm before back))
  exact strict.imp fun before => Nat.not_le.mp before.2

theorem list_page {tables : UsageTables} {cursor : Option String} {remaining : List Id}
    (read : (findNamespaces uuidText tables organizationId cursor).map VirtualNamespace.id =
      remaining)
    (own : ∀ row ∈ findNamespaces uuidText tables organizationId cursor,
      row ∈ tables.virtualNamespace ∧ row.organizationId = organizationId) :
    PageOf (fun summary id => Reports uuidText toISOString tables organizationId id summary)
      uuidText limit remaining
      (list uuidText toISOString tables organizationId { cursor, limit }).namespaces
      (list uuidText toISOString tables organizationId { cursor, limit }).nextCursor := by
  have probe := @pageOf_probe _ _ _ _
    (fun summary id => Reports uuidText toISOString tables organizationId id summary) uuidText limit
    remaining ((findNamespaces uuidText tables organizationId cursor).take (limit + 1)) VirtualNamespace.id
    (namespaceUsage uuidText toISOString tables) (by rw [List.map_take, read])
    fun row member =>
      have listed := own row (List.mem_of_mem_take member)
      namespaceUsage_reports listed.1 listed.2
  simpa only [list, decide_eq_true_eq] using probe

/-- A later call reads the namespaces that follow. -/
theorem findNamespaces_next (injective : Function.Injective uuidText)
    (nonempty : ∀ id, uuidText id ≠ "") {tables : UsageTables} {before rest : List Id} {last : Id}
    (distinct : (tables.virtualNamespace.map VirtualNamespace.id).Nodup)
    (whole : (namespacesOf tables organizationId).map VirtualNamespace.id =
      before ++ last :: rest) :
    (findNamespaces uuidText tables organizationId (some (uuidText last))).map VirtualNamespace.id =
        rest ∧
      ∀ row ∈ findNamespaces uuidText tables organizationId (some (uuidText last)),
        row ∈ tables.virtualNamespace ∧ row.organizationId = organizationId := by
  have strict := whole ▸ @ascending_ids organizationId _ distinct
  obtain ⟨front, others, split, rfl, ends⟩ := List.map_eq_append_iff.mp whole
  obtain ⟨row, later, rfl, rfl, rfl⟩ := List.map_eq_cons_iff.mp ends
  have skipped : ∀ other ∈ front, (uuidText other.id != uuidText row.id) = true := by
    intro other member
    rw [bne_iff_ne, injective.ne_iff]
    exact Nat.ne_of_lt ((List.pairwise_append.mp strict).2.2 _ (List.mem_map_of_mem member) _
      List.mem_cons_self)
  have follows :
      findNamespaces uuidText tables organizationId (some (uuidText row.id)) = later := by
    have given : (some (uuidText row.id)).filter (· != "") = some (uuidText row.id) := by
      simp [nonempty]
    change fromCursor uuidText _ (namespacesOf tables organizationId) = later
    rw [fromCursor, given, split]
    dsimp only
    rw [List.dropWhile_append_of_pos skipped]
    simp
  rw [follows]
  constructor
  · rfl
  · intro other member
    exact mem_namespacesOf.mp (split ▸ by simp [member] : other ∈ namespacesOf tables _)

/-- The identifiers of an organization's namespaces stay the same. -/
def SameNamespaces (organizationId : Id) (tables : Nat → UsageTables) : Prop :=
  ∀ number id,
    (∃ row ∈ (tables number).virtualNamespace, row.organizationId = organizationId ∧ row.id = id) ↔
      ∃ row ∈ (tables 0).virtualNamespace, row.organizationId = organizationId ∧ row.id = id

theorem mem_ids {tables : UsageTables} {id : Id} :
    id ∈ (namespacesOf tables organizationId).map VirtualNamespace.id ↔
      ∃ row ∈ tables.virtualNamespace, row.organizationId = organizationId ∧ row.id = id := by
  simp [mem_namespacesOf, and_assoc]

theorem SameNamespaces.ids {tables : Nat → UsageTables}
    (same : SameNamespaces organizationId tables)
    (distinct : ∀ number, ((tables number).virtualNamespace.map VirtualNamespace.id).Nodup)
    (number : Nat) :
    (namespacesOf (tables number) organizationId).map VirtualNamespace.id =
      (namespacesOf (tables 0) organizationId).map VirtualNamespace.id := by
  have now := @ascending_ids organizationId _ (distinct number)
  have first := @ascending_ids organizationId _ (distinct 0)
  have perm := (List.perm_ext_iff_of_nodup (now.imp Nat.ne_of_lt) (first.imp Nat.ne_of_lt)).mpr
    fun id => by rw [mem_ids, mem_ids, same number id]
  exact perm.eq_of_pairwise (fun _ _ _ _ before after => absurd after (Nat.lt_asymm before)) now
    first

/-- What comes of following the cursors of the usage list. -/
structure EveryNamespace (uuidText : Id → String) (toISOString : Time → String)
    (organizationId : Id) (limit : Nat) (tables : Nat → UsageTables) (ids : List Id)
    (pages : List UsagePage) : Prop where
  ascending : ids.Pairwise (· < ·)
  all : ∀ id, id ∈ ids ↔
    ∃ row ∈ (tables 0).virtualNamespace, row.organizationId = organizationId ∧ row.id = id
  ends : ∀ fuel, ids.length < fuel →
    follow (fun number cursor =>
        list uuidText toISOString (tables number) organizationId { cursor, limit })
      UsagePage.nextCursor fuel 0 none = some pages
  shown : List.Forall₂
    (fun summary id =>
      ∃ number, Reports uuidText toISOString (tables number) organizationId id summary)
    (pages.flatMap UsagePage.namespaces) ids

theorem everyNamespace (injective : Function.Injective uuidText)
    (nonempty : ∀ id, uuidText id ≠ "") (positive : 1 ≤ limit) {tables : Nat → UsageTables}
    (distinct : ∀ number, ((tables number).virtualNamespace.map VirtualNamespace.id).Nodup)
    (same : SameNamespaces organizationId tables) :
    ∃ ids pages,
      EveryNamespace uuidText toISOString organizationId limit tables ids pages := by
  have first := @list_page uuidText toISOString organizationId limit (tables 0) none _ rfl
    fun row member => mem_namespacesOf.mp member
  have answers (number : Nat) (before : List Id) (last : Id) (rest : List Id)
      (whole : (namespacesOf (tables 0) organizationId).map VirtualNamespace.id =
        before ++ last :: rest) :
      PageOf (fun summary id =>
          Reports uuidText toISOString (tables (number + 1)) organizationId id summary)
        uuidText limit rest
        (list uuidText toISOString (tables (number + 1)) organizationId
          { cursor := some (uuidText last), limit }).namespaces
        (list uuidText toISOString (tables (number + 1)) organizationId
          { cursor := some (uuidText last), limit }).nextCursor := by
    have next := findNamespaces_next injective nonempty (distinct (number + 1))
      ((same.ids distinct (number + 1)).trans whole)
    exact list_page next.1 next.2
  obtain ⟨pages, ends, shown, -⟩ := @follow_pages _ _ _ _
    (fun number cursor =>
      list uuidText toISOString (tables number) organizationId { cursor, limit })
    UsagePage.nextCursor UsagePage.namespaces
    (fun number summary id =>
      Reports uuidText toISOString (tables number) organizationId id summary)
    uuidText limit positive _ answers 0 none _ (List.suffix_refl _) first
  use (namespacesOf (tables 0) organizationId).map VirtualNamespace.id, pages
  constructor
  · exact ascending_ids (distinct 0)
  · exact fun id => mem_ids
  · exact ends
  · exact shown

end Usage

/-- The pages of the activity logs show the rows of the first call, and those of the usage list
the namespaces, all of them once and in order. -/
theorem pages_show_everything (uuidText : Id → String) (toISOString : Time → String)
    (organizationId : Id) (query : ActivityLogQuery) (accepts : Accepts query)
    (injective : Function.Injective uuidText) (nonempty : ∀ id, uuidText id ≠ "") :
    (∀ activities : Nat → ActivityTables, DistinctLogs (activities 0) →
      (∀ number, Appended (activities number) (activities (number + 1))) →
      ∃ logs pages, EveryLog toISOString organizationId query activities logs pages) ∧
    ∀ usage : Nat → UsageTables,
      (∀ number, ((usage number).virtualNamespace.map VirtualNamespace.id).Nodup) →
      SameNamespaces organizationId usage →
      ∃ ids pages,
        EveryNamespace uuidText toISOString organizationId query.limit usage ids pages := by
  constructor
  · intro activities distinct grows
    exact everyLog accepts distinct grows
  · intro usage distinct same
    exact everyNamespace injective nonempty accepts.positive distinct same

namespace Pages

/-- Two activities are there, and a third one follows. -/
def activities (number : Nat) : ActivityTables where
  activityLog := [
    { id := 1, organizationId := some 7, action := "a", entityType := "t", entityId := none
      requestId := "r" },
    { id := 2, organizationId := some 7, action := "a", entityType := "t", entityId := none
      requestId := "r" }] ++
    if number = 0 then [] else [
      { id := 3, organizationId := some 7, action := "a", entityType := "t", entityId := none
        requestId := "r" }]
  user := []

def usage : UsageTables where
  virtualNamespace := [
    { id := 5, organizationId := 7, name := "n", slug := "n", status := .active
      quotaBytes := 10 }]
  usageCounter := []

end Pages

open Pages in
/-- With a limit of one, the pages of both lists can be followed to their ends. -/
theorem pages_show_everything_example :
    (∃ logs pages, EveryLog toString 7 { limit := 1 } activities logs pages) ∧
      ∃ ids pages, EveryNamespace (fun id => "u" ++ toString id) toString 7 1 (fun _ => usage)
        ids pages := by
  have accepts : Accepts { limit := 1 } := ⟨by decide, by decide, nofun, nofun⟩
  have injective : Function.Injective fun id : Id => "u" ++ toString id := by
    intro first second same
    have digits := congrArg bigInt ((String.append_right_inj "u").mp same)
    rwa [bigInt_toString, bigInt_toString] at digits
  have nonempty (id : Id) : "u" ++ toString id ≠ "" := by
    simp
  have both := pages_show_everything (fun id => "u" ++ toString id) toString 7 { limit := 1 }
    accepts injective nonempty
  constructor
  · apply both.1 activities
    · unfold DistinctLogs
      decide
    · intro number
      cases number with
      | zero =>
          refine ⟨[_], rfl, ?_⟩
          decide
      | succ number => exact ⟨[], by simp [activities], nofun⟩
  · apply both.2 fun _ => usage
    · exact fun _ => by decide
    · exact fun _ _ => Iff.rfl

end Mosp.Guarantees
