import Mosp.Database.Rows
import Mathlib.Data.List.Sort
import Mathlib.Data.Nat.Digits.Defs

/-!
# Activity logs

`OrganizationService.listActivityLogs` over the rows that a call sees, and the check of its
cursor.  `toISOString` comes from the platform.
-/

namespace Mosp.Services

open Mosp.Database

/-! ## Values -/

/-- A condition that is added if a value is given: the empty text counts as none. -/
def whenGiven (value : Option String) (condition : String → Bool) : Bool :=
  match value with
  | none => true
  | some value => value == "" || condition value

/-- `BigInt(text)` of decimal digits -/
def bigInt (text : String) : Nat :=
  Nat.ofDigitChars 10 text.toList 0

/-- `/^\d{1,20}$/` -/
def isActivityLogCursor (cursor : String) : Bool :=
  1 ≤ cursor.toList.length && cursor.toList.length ≤ 20 && cursor.toList.all Char.isDigit

structure ActivityLogQuery where
  cursor : Option String := none
  limit : Nat := 50
  action : Option String := none
  entityType : Option String := none

/-- A logged activity with its metadata as JSON text. -/
structure LoggedActivity extends ActivityLog where
  metadata : Option String := none

structure Actor where
  id : Id
  email : String
deriving DecidableEq

/-- The tables that a call reads. -/
structure ActivityTables where
  activityLog : List LoggedActivity
  user : List Actor

structure ActivityLogItem where
  action : String
  actor : Option Actor
  createdAt : String
  entityId : Option Id
  entityType : String
  id : String
  metadata : Option String
  requestId : String
deriving DecidableEq

structure ActivityLogPage where
  items : List ActivityLogItem
  nextCursor : Option String
deriving DecidableEq

/-! ## Pages -/

namespace OrganizationService

variable (toISOString : Time → String)

/-- The user who acted, if there still is one. -/
def actorOf (tables : ActivityTables) (log : LoggedActivity) : Option Actor :=
  log.actorId.bind fun actorId => tables.user.find? fun user => user.id == actorId

def activityLogItem (tables : ActivityTables) (log : LoggedActivity) : ActivityLogItem where
  action := log.action
  actor := actorOf tables log
  createdAt := toISOString log.createdAt
  entityId := log.entityId
  entityType := log.entityType
  id := toString log.id
  metadata := log.metadata
  requestId := log.requestId

/-- The latest activity comes first. -/
def newestFirst (first second : LoggedActivity) : Prop :=
  second.id ≤ first.id

instance : DecidableRel newestFirst :=
  fun first second => inferInstanceAs (Decidable (second.id ≤ first.id))

/-- The rows of the query, in its order. -/
def findActivityLogs (tables : ActivityTables) (organizationId : Id) (input : ActivityLogQuery) :
    List LoggedActivity :=
  (tables.activityLog.filter fun log =>
    log.organizationId == some organizationId &&
      whenGiven input.cursor (fun cursor => log.id < bigInt cursor) &&
      whenGiven input.action (fun action => log.action == action) &&
      whenGiven input.entityType fun entityType =>
        log.entityType == entityType).insertionSort newestFirst

def listActivityLogs (tables : ActivityTables) (organizationId : Id) (input : ActivityLogQuery) :
    ActivityLogPage :=
  let logs := (findActivityLogs tables organizationId input).take (input.limit + 1)
  let hasMore := decide (logs.length > input.limit)
  let page := if hasMore then logs.take input.limit else logs
  { items := page.map (activityLogItem toISOString tables)
    nextCursor := if hasMore then page.getLast?.map fun log => toString log.id else none }

end OrganizationService

end Mosp.Services
