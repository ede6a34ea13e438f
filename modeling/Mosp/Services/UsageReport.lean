import Mosp.Data.Csv
import Mosp.Services.ActivityLogs
import Mosp.Services.Usage

/-!
# Usage reports

The pages of `UsageService` and their export as comma-separated values.
-/

namespace Mosp.Services

open Mosp.Database

structure UsageTotals where
  activeUploadCount : Int
  egressBytes : String
  ingressBytes : String
  objectCount : String
  requestCount : String
  reservedBytes : String
  usedBytes : String
deriving DecidableEq

structure NamespaceUsageSummary extends UsageTotals where
  namespaceId : String
  name : String
  quotaBytes : String
  slug : String
  status : String
  updatedAt : Option String
deriving DecidableEq

structure UsagePage where
  namespaces : List NamespaceUsageSummary
  nextCursor : Option String
  totals : UsageTotals
deriving DecidableEq

/-! ## The list -/

structure UsageQuery where
  cursor : Option String := none
  limit : Nat := 50

/-- A counter with the time of its last change. -/
structure DatedCounter extends UsageCounter where
  updatedAt : Time := 0

/-- The tables that a call reads. -/
structure UsageTables where
  virtualNamespace : List VirtualNamespace
  usageCounter : List DatedCounter

/-- The numbers of a counter, or sums of them. -/
structure UsageValues where
  usedBytes : Option Int
  reservedBytes : Option Int
  objectCount : Option Int
  activeUploadCount : Option Int
  requestCount : Option Int
  ingressBytes : Option Int
  egressBytes : Option Int

def statusText : NamespaceStatus → String
  | .active => "ACTIVE"
  | .disabled => "DISABLED"

namespace UsageService

def totalsFrom (values : Option UsageValues) : UsageTotals :=
  let text (field : UsageValues → Option Int) : String :=
    toString ((values.bind field).getD 0)
  { usedBytes := text UsageValues.usedBytes
    reservedBytes := text UsageValues.reservedBytes
    objectCount := text UsageValues.objectCount
    activeUploadCount := (values.bind UsageValues.activeUploadCount).getD 0
    requestCount := text UsageValues.requestCount
    ingressBytes := text UsageValues.ingressBytes
    egressBytes := text UsageValues.egressBytes }

def valuesOf (counter : DatedCounter) : UsageValues where
  usedBytes := some counter.usedBytes
  reservedBytes := some counter.reservedBytes
  objectCount := some counter.objectCount
  activeUploadCount := some counter.activeUploadCount
  requestCount := some counter.requestCount
  ingressBytes := some counter.ingressBytes
  egressBytes := some counter.egressBytes

/-- `_sum` of an aggregate: nothing where there are no rows. -/
def sumsOf (counters : List DatedCounter) : UsageValues :=
  let sum (field : DatedCounter → Int) : Option Int :=
    if counters.isEmpty then none else some (counters.map field).sum
  { usedBytes := sum fun counter => counter.usedBytes
    reservedBytes := sum fun counter => counter.reservedBytes
    objectCount := sum fun counter => counter.objectCount
    activeUploadCount := sum fun counter => counter.activeUploadCount
    requestCount := sum fun counter => counter.requestCount
    ingressBytes := sum fun counter => counter.ingressBytes
    egressBytes := sum fun counter => counter.egressBytes }

variable (uuidText : Id → String) (toISOString : Time → String)

def counterOf (tables : UsageTables) (row : VirtualNamespace) : Option DatedCounter :=
  tables.usageCounter.find? fun counter =>
    isCounterOf row.organizationId row.id counter.toUsageCounter

def namespaceUsage (tables : UsageTables) (row : VirtualNamespace) : NamespaceUsageSummary :=
  let counter := counterOf tables row
  { totalsFrom (counter.map valuesOf) with
    namespaceId := uuidText row.id
    name := row.name
    slug := row.slug
    status := statusText row.status
    quotaBytes := toString row.quotaBytes
    updatedAt := counter.map fun counter => toISOString counter.updatedAt }

/-- The lowest identifier comes first. -/
def ascending (first second : VirtualNamespace) : Prop :=
  first.id ≤ second.id

instance : DecidableRel ascending :=
  fun first second => inferInstanceAs (Decidable (first.id ≤ second.id))

/-- `cursor` with `skip: 1`: what follows the row of the cursor. -/
def fromCursor (cursor : Option String) (rows : List VirtualNamespace) : List VirtualNamespace :=
  match cursor.filter (· != "") with
  | none => rows
  | some cursor => (rows.dropWhile fun row => uuidText row.id != cursor).drop 1

/-- The namespaces of the query, in its order. -/
def findNamespaces (tables : UsageTables) (organizationId : Id) (cursor : Option String) :
    List VirtualNamespace :=
  fromCursor uuidText cursor ((tables.virtualNamespace.filter fun row =>
    row.organizationId == organizationId).insertionSort ascending)

def list (tables : UsageTables) (organizationId : Id) (query : UsageQuery) : UsagePage :=
  let namespaces :=
    (findNamespaces uuidText tables organizationId query.cursor).take (query.limit + 1)
  let totals := sumsOf (tables.usageCounter.filter fun counter =>
    counter.organizationId == organizationId)
  let hasMore := decide (namespaces.length > query.limit)
  let page := if hasMore then namespaces.take query.limit else namespaces
  { namespaces := page.map (namespaceUsage uuidText toISOString tables)
    nextCursor := if hasMore then page.getLast?.map fun row => uuidText row.id else none
    totals := totalsFrom (some totals) }

end UsageService

/-! ## The export -/

/-- `value.replaceAll(letter, replacement)` for a single letter -/
def replaceAll (value : String) (letter : Char) (replacement : String) : String :=
  String.ofList (value.toList.flatMap fun char =>
    if char = letter then replacement.toList else [char])

def csvCell (value : String) : String :=
  if value.toList.any fun char => ['"', ',', '\n', '\r'].contains char then
    "\"" ++ replaceAll value '"' "\"\"" ++ "\""
  else
    value

namespace UsageService

def csvHeader : List String :=
  ["namespace_id", "namespace_name", "namespace_slug", "status", "quota_bytes", "used_bytes",
    "reserved_bytes", "object_count", "active_upload_count", "request_count", "ingress_bytes",
    "egress_bytes", "updated_at"]

/-- The cells of a namespace. -/
def csvRow (summary : NamespaceUsageSummary) : List String :=
  [summary.namespaceId, summary.name, summary.slug, summary.status, summary.quotaBytes,
    summary.usedBytes, summary.reservedBytes, summary.objectCount,
    toString summary.activeUploadCount, summary.requestCount, summary.ingressBytes,
    summary.egressBytes, summary.updatedAt.getD ""]

def toCsv (page : UsagePage) : String :=
  let rows := page.namespaces.map csvRow
  "\n".intercalate ((csvHeader :: rows).map fun row => ",".intercalate (row.map csvCell)) ++ "\n"

end UsageService

end Mosp.Services
