import Mosp.Concurrency.Program
import Mosp.Data.Table
import Mathlib.Data.List.Sort

/-!
# Statements and transaction bodies

A statement reads a database and says what it returns, which rows it writes
and what it locks; it does not say when the writes become visible.  A
transaction body is a program of statements.  Running the body in one piece
and running it statement by statement next to other transactions are two
readings of the same program.

The operations of a `Relation` and a `Model` are the calls of the
object-relational client: they search by an arbitrary condition, and updates
stamp the row with the time of the statement.
-/

namespace Mosp.Sql

open Mosp.Concurrency Mosp.Data

/-- A database `D` is changed by single row writes `W`; `K` names what can be
locked. -/
class Database (D : Type) (W K : outParam Type) where
  write : D → W → D
  locks : W → List K

/-- Errors that the database itself raises. -/
class DatabaseError (ε : Type) where
  /-- The row to be updated or deleted does not exist. -/
  notFound : ε
  /-- A row with this primary key exists. -/
  duplicate : ε

/-- What one statement returns, writes and locks. -/
structure Effect (W K β : Type) where
  value : β
  writes : List W := []
  locks : List K := []

/-- One step of a transaction body.  Statements are evaluated at a time. -/
inductive Instruction (D W K ε : Type) : Type → Type 1 where
  | statement {β : Type} (evaluate : Nat → D → Except ε (Effect W K β)) : Instruction D W K ε β
  | randomUUID : Instruction D W K ε Nat
  | now : Instruction D W K ε Nat

/-- A transaction body. -/
abbrev Tx (D W K ε L α : Type) : Type 1 :=
  Program (Instruction D W K ε) L ε α

namespace Tx

variable {D W K ε L α : Type}

/-- A body of one statement. -/
def statement (evaluate : Nat → D → Except ε (Effect W K α)) : Tx D W K ε L α :=
  .perform (.statement evaluate) (fun _ => none) .pure

/-- A statement that only reads. -/
def read (value : D → α) : Tx D W K ε L α :=
  statement fun _ db => .ok { value := value db }

/-- An identifier that was never handed out before. -/
def randomUUID : Tx D W K ε L Nat :=
  .perform .randomUUID (fun _ => none) .pure

/-- The time at the client. -/
def now : Tx D W K ε L Nat :=
  .perform .now (fun _ => none) .pure

end Tx

/-- A table of the database that can be read and whose rows can be locked. -/
structure Relation (D K R : Type) [Row R] where
  table : D → Table R
  rowLock : Nat → K

/-- A table that can be written, with the columns the client fills in. -/
structure Model (D W K R : Type) [Row R] extends Relation D K R where
  put : R → W
  /-- Columns that are filled in when the row is created. -/
  created : Nat → R → R := fun _ row => row
  /-- Columns that are filled in when the row is updated. -/
  updated : Nat → R → R := fun _ row => row

/-- A table whose rows can be deleted. -/
structure ErasableModel (D W K R : Type) [Row R] extends Model D W K R where
  erase : Nat → W

variable {D W K ε L R : Type} [Row R]

namespace Relation

variable (relation : Relation D K R)

/-- The rows that satisfy a condition, in the order of a comparison. -/
def select (condition : R → Bool) (before : R → R → Bool) (db : D) : List R :=
  ((relation.table db).filter condition).insertionSort (before · ·)

def findFirst (condition : R → Bool) : Tx D W K ε L (Option R) :=
  .read fun db => (relation.table db).find? condition

def findFirstOrThrow [DatabaseError ε] (condition : R → Bool) : Tx D W K ε L R :=
  .statement fun _ db =>
    match (relation.table db).find? condition with
    | none => .error DatabaseError.notFound
    | some row => .ok { value := row }

/-- At most `take` of the rows that satisfy a condition. -/
def findMany (condition : R → Bool) (before : R → R → Bool := fun _ _ => true)
    (take : Option Nat := none) : Tx D W K ε L (List R) :=
  .read fun db =>
    let rows := relation.select condition before db
    take.elim rows fun count => rows.take count

def count (condition : R → Bool) : Tx D W K ε L Nat :=
  .read fun db => ((relation.table db).filter condition).length

/-- `SELECT … FOR UPDATE`. -/
def selectForUpdate (condition : R → Bool) : Tx D W K ε L (List R) :=
  .statement fun _ db =>
    let rows := (relation.table db).filter condition
    .ok { value := rows, locks := rows.map fun row => relation.rowLock (Row.id row) }

end Relation

namespace Model

variable [DatabaseError ε] (model : Model D W K R)

def create (row : R) : Tx D W K ε L R :=
  .statement fun now db =>
    let row := model.created now row
    match (model.table db).get? (Row.id row) with
    | some _ => .error DatabaseError.duplicate
    | none => .ok { value := row, writes := [model.put row] }

def createMany (rows : List R) : Tx D W K ε L Unit :=
  .statement fun now db =>
    let rows := rows.map (model.created now)
    if rows.any (fun row => ((model.table db).get? (Row.id row)).isSome) ||
        !decide ((rows.map Row.id).Nodup) then
      .error DatabaseError.duplicate
    else
      .ok { value := (), writes := rows.map model.put }

/-- Update the one row that satisfies a condition. -/
def update (condition : R → Bool) (data : R → R) : Tx D W K ε L R :=
  .statement fun now db =>
    match (model.table db).find? condition with
    | none => .error DatabaseError.notFound
    | some row =>
        let row := model.updated now (data row)
        .ok { value := row, writes := [model.put row] }

/-- Update every row that satisfies a condition and return how many there are. -/
def updateMany (condition : R → Bool) (data : R → R) : Tx D W K ε L Nat :=
  .statement fun now db =>
    let rows := (model.table db).filter condition
    .ok
      { value := rows.length
        writes := rows.map fun row => model.put (model.updated now (data row)) }

/-- Update the row that satisfies a condition, or create one. -/
def upsert (condition : R → Bool) (create : R) (update : R → R) : Tx D W K ε L R :=
  .statement fun now db =>
    match (model.table db).find? condition with
    | some row =>
        let row := model.updated now (update row)
        .ok { value := row, writes := [model.put row] }
    | none =>
        let row := model.created now create
        match (model.table db).get? (Row.id row) with
        | some _ => .error DatabaseError.duplicate
        | none => .ok { value := row, writes := [model.put row] }

end Model

namespace ErasableModel

variable (model : ErasableModel D W K R)

def delete [DatabaseError ε] (condition : R → Bool) : Tx D W K ε L Unit :=
  .statement fun _ db =>
    match (model.table db).find? condition with
    | none => .error DatabaseError.notFound
    | some row => .ok { value := (), writes := [model.erase (Row.id row)] }

def deleteMany (condition : R → Bool) : Tx D W K ε L Nat :=
  .statement fun _ db =>
    let rows := (model.table db).filter condition
    .ok { value := rows.length, writes := rows.map fun row => model.erase (Row.id row) }

end ErasableModel

end Mosp.Sql
