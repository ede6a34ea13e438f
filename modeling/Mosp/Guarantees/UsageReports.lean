import Mosp.Services.UsageReport

/-!
# Guarantees about usage reports

An exported page can be read back.
-/

namespace Mosp.Guarantees

open Mosp.Data Mosp.Services

/-! ## Comma-separated values -/

/-- Commas between fields, line feeds after records. -/
def rfc4180 : Csv.Dialect Char where
  quote := '"'
  separator := ','
  lineFeed := '\n'
  carriageReturn := '\r'
  distinct := by decide

/-- Read a text as records of texts. -/
def parseCsv (text : String) : Option (List (List String)) :=
  (rfc4180.parse text.toList).map fun records => records.map (List.map String.ofList)

theorem csvCell_toList (value : String) : (csvCell value).toList = rfc4180.cell value.toList := by
  unfold csvCell Csv.Dialect.cell
  by_cases special : value.toList.any rfc4180.isSpecial
  · rw [if_pos special, if_pos (by exact special)]
    simp only [replaceAll, Csv.Dialect.doubled, rfc4180, String.toList_append,
      String.toList_ofList]
    rfl
  · rw [if_neg special, if_neg (by exact special)]

/-- The text of an export, in letters. -/
theorem toCsv_toList (page : UsagePage) :
    (UsageService.toCsv page).toList = rfc4180.document
      ((UsageService.csvHeader :: page.namespaces.map UsageService.csvRow).map
        (List.map String.toList)) := by
  have line (row : List String) : (",".intercalate (row.map csvCell)).toList =
      rfc4180.line (row.map String.toList) := by
    rw [String.toList_intercalate, List.map_map, Csv.Dialect.line, List.map_map]
    exact congrArg _ (List.map_congr_left fun value _ => csvCell_toList value)
  rw [UsageService.toCsv, String.toList_append, String.toList_intercalate, List.map_map,
    Csv.Dialect.document, List.map_map]
  exact congrArg (fun lines => ['\n'].intercalate lines ++ ['\n'])
    (List.map_congr_left fun row _ => line row)

/-- The cells of a page are read back as they were rendered. -/
theorem parseCsv_toCsv (page : UsagePage) :
    parseCsv (UsageService.toCsv page) =
      some (UsageService.csvHeader :: page.namespaces.map UsageService.csvRow) := by
  have filled : ∀ record ∈ (UsageService.csvHeader :: page.namespaces.map
      UsageService.csvRow).map (List.map String.toList), record ≠ [] := by
    intro record member
    obtain ⟨row, rowMem, rfl⟩ := List.mem_map.mp member
    rcases List.mem_cons.mp rowMem with rfl | rowMem
    · decide
    · obtain ⟨summary, -, rfl⟩ := List.mem_map.mp rowMem
      exact List.cons_ne_nil _ _
  rw [parseCsv, toCsv_toList, Csv.Dialect.parse_document (by simp) filled]
  simp [Function.comp_def]

/-- An exported page is read back as a header and one record of thirteen fields for each
namespace, so pages with the same export have the same cells. -/
theorem usage_csv_read_back :
    (∀ page, ∃ records, parseCsv (UsageService.toCsv page) = some records ∧
      records =
        ["namespace_id", "namespace_name", "namespace_slug", "status", "quota_bytes", "used_bytes",
          "reserved_bytes", "object_count", "active_upload_count", "request_count",
          "ingress_bytes", "egress_bytes", "updated_at"] ::
        page.namespaces.map (fun summary =>
          [summary.namespaceId, summary.name, summary.slug, summary.status, summary.quotaBytes,
            summary.usedBytes, summary.reservedBytes, summary.objectCount,
            toString summary.activeUploadCount, summary.requestCount, summary.ingressBytes,
            summary.egressBytes, summary.updatedAt.getD ""]) ∧
      records.length = 1 + page.namespaces.length ∧
      ∀ record ∈ records, record.length = 13) ∧
    ∀ first second, UsageService.toCsv first = UsageService.toCsv second ↔
      first.namespaces.map UsageService.csvRow = second.namespaces.map UsageService.csvRow := by
  constructor
  · intro page
    refine ⟨_, parseCsv_toCsv page, rfl, ?_, ?_⟩
    · rw [List.length_cons, List.length_map, Nat.add_comm]
    · intro record member
      rcases List.mem_cons.mp member with rfl | member
      · rfl
      · obtain ⟨summary, -, rfl⟩ := List.mem_map.mp member
        rfl
  · intro first second
    constructor
    · intro same
      have read := parseCsv_toCsv first
      rw [same, parseCsv_toCsv second] at read
      exact (List.cons.inj (Option.some.inj read)).2.symm
    · intro same
      simp only [UsageService.toCsv, same]

end Mosp.Guarantees
