import Mathlib.Data.List.Basic
import Mathlib.Data.List.Nodup

/-!
# Comma-separated values

Records of fields written as one word over any alphabet, and a reader for such words.  A
field in quotes may hold every letter; a quote in it is written twice.  The reader goes
through the word once, and what it has read of the current field is its state.
-/

namespace Mosp.Data.Csv

variable {α : Type*} [DecidableEq α]

/-- The letters that are not plain text. -/
structure Dialect (α : Type*) where
  quote : α
  separator : α
  lineFeed : α
  carriageReturn : α
  distinct : [quote, separator, lineFeed, carriageReturn].Nodup

namespace Dialect

variable (dialect : Dialect α)

def isSpecial (letter : α) : Bool :=
  [dialect.quote, dialect.separator, dialect.lineFeed, dialect.carriageReturn].contains letter

omit [DecidableEq α] in
theorem separator_ne_quote : dialect.separator ≠ dialect.quote := by
  intro same
  simpa [same] using dialect.distinct

omit [DecidableEq α] in
theorem lineFeed_ne_quote : dialect.lineFeed ≠ dialect.quote := by
  intro same
  simpa [same] using dialect.distinct

omit [DecidableEq α] in
theorem lineFeed_ne_separator : dialect.lineFeed ≠ dialect.separator := by
  intro same
  simpa [same] using dialect.distinct

/-! ## Writing -/

/-- A field with its quotes written twice. -/
def doubled (field : List α) : List α :=
  field.flatMap fun letter =>
    if letter = dialect.quote then [dialect.quote, dialect.quote] else [letter]

/-- A field goes in quotes where it holds a special letter. -/
def cell (field : List α) : List α :=
  if field.any dialect.isSpecial then
    dialect.quote :: (dialect.doubled field ++ [dialect.quote])
  else
    field

/-- The fields of a record, with separators between them. -/
def line (record : List (List α)) : List α :=
  [dialect.separator].intercalate (record.map dialect.cell)

/-- The records, with line feeds between them and after the last one. -/
def document (records : List (List (List α))) : List α :=
  [dialect.lineFeed].intercalate (records.map dialect.line) ++ [dialect.lineFeed]

/-! ## Reading -/

/-- What has been read of the current field. -/
inductive Mode (α : Type*) where
  | start
  | plain (text : List α)
  | quoted (text : List α)
  /-- A quote in a quoted field: its end, or the first of two. -/
  | closing (text : List α)

/-- Read the rest of a document, with the fields before the current one. -/
def parseFrom : Mode α → List (List α) → List α → Option (List (List (List α)))
  | .start, [], [] => some []
  | .start, fields, [] => some [fields ++ [[]]]
  | .plain text, fields, [] => some [fields ++ [text]]
  | .closing text, fields, [] => some [fields ++ [text]]
  | .quoted _, _, [] => none
  | .start, fields, letter :: rest =>
      if letter = dialect.quote then parseFrom (.quoted []) fields rest
      else if letter = dialect.separator then parseFrom .start (fields ++ [[]]) rest
      else if letter = dialect.lineFeed then
        (parseFrom .start [] rest).map ((fields ++ [[]]) :: ·)
      else if letter = dialect.carriageReturn then none
      else parseFrom (.plain [letter]) fields rest
  | .plain text, fields, letter :: rest =>
      if letter = dialect.quote then none
      else if letter = dialect.separator then parseFrom .start (fields ++ [text]) rest
      else if letter = dialect.lineFeed then
        (parseFrom .start [] rest).map ((fields ++ [text]) :: ·)
      else if letter = dialect.carriageReturn then none
      else parseFrom (.plain (text ++ [letter])) fields rest
  | .quoted text, fields, letter :: rest =>
      if letter = dialect.quote then parseFrom (.closing text) fields rest
      else parseFrom (.quoted (text ++ [letter])) fields rest
  | .closing text, fields, letter :: rest =>
      if letter = dialect.quote then parseFrom (.quoted (text ++ [letter])) fields rest
      else if letter = dialect.separator then parseFrom .start (fields ++ [text]) rest
      else if letter = dialect.lineFeed then
        (parseFrom .start [] rest).map ((fields ++ [text]) :: ·)
      else none

/-- The records of a document; the line feed of the last one may be missing. -/
def parse (document : List α) : Option (List (List (List α))) :=
  dialect.parseFrom .start [] document

/-! ## Fields are read back -/

/-- What follows a field: the next field of the record, or the next record. -/
inductive Follows (fields : List (List α)) (field rest : List α) :
    List α → Option (List (List (List α))) → Prop where
  | separator : Follows fields field rest (dialect.separator :: rest)
      (dialect.parseFrom .start (fields ++ [field]) rest)
  | lineFeed : Follows fields field rest (dialect.lineFeed :: rest)
      ((dialect.parse rest).map ((fields ++ [field]) :: ·))

variable {dialect} {fields : List (List α)} {field rest next : List α}
  {records : Option (List (List (List α)))}

theorem isSpecial_iff {letter : α} : dialect.isSpecial letter = true ↔
    letter = dialect.quote ∨ letter = dialect.separator ∨ letter = dialect.lineFeed ∨
      letter = dialect.carriageReturn := by
  simp [isSpecial]

theorem parseFrom_plain (text : List α) (ordinary : field.any dialect.isSpecial = false)
    (follows : dialect.Follows fields (text ++ field) rest next records) :
    dialect.parseFrom (.plain text) fields (field ++ next) = records := by
  induction field generalizing text with
  | nil =>
      rw [List.append_nil] at follows
      cases follows with
      | separator => simp [parseFrom, dialect.separator_ne_quote]
      | lineFeed =>
          simp [parseFrom, parse, dialect.lineFeed_ne_quote, dialect.lineFeed_ne_separator]
  | cons letter field ih =>
      simp only [List.any_cons, Bool.or_eq_false_iff] at ordinary
      have plain := (not_congr isSpecial_iff).mp (Bool.eq_false_iff.mp ordinary.1)
      simp only [not_or] at plain
      rw [List.cons_append, parseFrom, if_neg plain.1, if_neg plain.2.1, if_neg plain.2.2.1,
        if_neg plain.2.2.2]
      apply ih (text ++ [letter]) ordinary.2
      rwa [List.append_assoc, List.singleton_append]

theorem parseFrom_quoted (text : List α)
    (follows : dialect.Follows fields (text ++ field) rest next records) :
    dialect.parseFrom (.quoted text) fields
      (dialect.doubled field ++ dialect.quote :: next) = records := by
  induction field generalizing text with
  | nil =>
      rw [List.append_nil] at follows
      cases follows with
      | separator => simp [doubled, parseFrom, dialect.separator_ne_quote]
      | lineFeed =>
          simp [doubled, parseFrom, parse, dialect.lineFeed_ne_quote,
            dialect.lineFeed_ne_separator]
  | cons letter field ih =>
      have later := ih (text ++ [letter]) (by rwa [List.append_assoc, List.singleton_append])
      by_cases quote : letter = dialect.quote
      · subst quote
        simpa [doubled, parseFrom] using later
      · simpa [doubled, parseFrom, quote] using later

/-- A field is read back, whatever letters it holds. -/
theorem parseFrom_cell (follows : dialect.Follows fields field rest next records) :
    dialect.parseFrom .start fields (dialect.cell field ++ next) = records := by
  by_cases special : field.any dialect.isSpecial
  · rw [cell, if_pos special, List.cons_append, List.append_assoc, parseFrom, if_pos rfl]
    exact parseFrom_quoted [] follows
  · rw [cell, if_neg special]
    rw [Bool.not_eq_true] at special
    cases field with
    | nil =>
        cases follows with
        | separator => simp [parseFrom, dialect.separator_ne_quote]
        | lineFeed =>
            simp [parseFrom, parse, dialect.lineFeed_ne_quote, dialect.lineFeed_ne_separator]
    | cons letter field =>
        simp only [List.any_cons, Bool.or_eq_false_iff] at special
        have plain := (not_congr isSpecial_iff).mp (Bool.eq_false_iff.mp special.1)
        simp only [not_or] at plain
        rw [List.cons_append, parseFrom, if_neg plain.1, if_neg plain.2.1, if_neg plain.2.2.1,
          if_neg plain.2.2.2]
        exact parseFrom_plain [letter] special.2 follows

/-! ## Records are read back -/

theorem parseFrom_line {record : List (List α)} (nonempty : record ≠ []) (rest : List α) :
    dialect.parseFrom .start fields (dialect.line record ++ dialect.lineFeed :: rest) =
      (dialect.parse rest).map ((fields ++ record) :: ·) := by
  induction record generalizing fields with
  | nil => contradiction
  | cons field record ih =>
      cases record with
      | nil =>
          rw [line, List.map_singleton, List.intercalate_singleton]
          exact parseFrom_cell .lineFeed
      | cons other record =>
          have later := @ih (fields ++ [field]) (List.cons_ne_nil _ _)
          rw [List.append_assoc, List.singleton_append] at later
          rw [← later, line, List.map_cons, List.map_cons, List.intercalate_cons_cons,
            List.append_assoc, List.append_assoc, List.singleton_append]
          exact parseFrom_cell .separator

/-- The reader gives back the records that were written. -/
theorem parse_document {records : List (List (List α))} (some_ : records ≠ [])
    (nonempty : ∀ record ∈ records, record ≠ []) :
    dialect.parse (dialect.document records) = some records := by
  induction records with
  | nil => contradiction
  | cons record records ih =>
      have first := nonempty record List.mem_cons_self
      cases records with
      | nil =>
          rw [document, List.map_singleton, List.intercalate_singleton, parse,
            parseFrom_line first]
          rfl
      | cons other records =>
          have later := ih (List.cons_ne_nil _ _) fun each member =>
            nonempty each (List.mem_cons_of_mem _ member)
          rw [document, List.map_cons, List.map_cons, List.intercalate_cons_cons,
            List.append_assoc, List.append_assoc, List.singleton_append, parse,
            parseFrom_line first]
          rw [document, List.map_cons] at later
          rw [later]
          rfl

end Dialect

end Mosp.Data.Csv
