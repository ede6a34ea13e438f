import Mosp.Sql.Statement

/-!
# A transaction in one piece

The first reading of a transaction body: all statements run at one instant, and
an error leaves the database as it was.  After every statement that writes, the
constraints of the schema are consulted; an error they report ends the
transaction like any other.

`Tx.wp` is the weakest precondition of a body.  Its rules, one for each
operation of a model, turn a statement about a body into a statement about the
rows it reads.
-/

namespace Mosp.Sql

open Mosp.Concurrency Mosp.Data

/-- A database and the supply of identifiers. -/
structure State (D : Type) where
  db : D
  nextId : Nat

namespace State

variable {D W K : Type} [Database D W K]

/-- The state after some writes. -/
def write (state : State D) (writes : List W) : State D :=
  { state with db := writes.foldl Database.write state.db }

/-- The state after one identifier was handed out. -/
def issue (state : State D) : State D :=
  { state with nextId := state.nextId + 1 }

@[simp]
theorem write_nextId (state : State D) (writes : List W) :
    (state.write writes).nextId = state.nextId :=
  rfl

@[simp]
theorem write_nil (state : State D) : state.write ([] : List W) = state :=
  rfl

@[simp]
theorem write_single (state : State D) (write : W) :
    (state.write [write]).db = Database.write state.db write :=
  rfl

theorem write_append (state : State D) (first second : List W) :
    state.write (first ++ second) = (state.write first).write second := by
  simp [write]

@[simp]
theorem write_db (state : State D) (writes : List W) :
    (state.write writes).db = writes.foldl Database.write state.db :=
  rfl

@[simp]
theorem issue_db (state : State D) : state.issue.db = state.db :=
  rfl

@[simp]
theorem issue_nextId (state : State D) : state.issue.nextId = state.nextId + 1 :=
  rfl

end State

namespace Tx

variable {D W K ε L α β : Type} [Database D W K]

/-- Run a body at time `time`.  `check` is consulted after each statement that
writes. -/
def run (check : D → Option ε) (time : Nat) :
    Tx D W K ε L α → State D → Except ε (α × State D)
  | .pure value, state => .ok (value, state)
  | .throw error, _ => .error error
  | .perform (.statement evaluate) _ next, state =>
      match evaluate time state.db with
      | .error error => .error error
      | .ok effect =>
          if effect.writes.isEmpty then
            run check time (next effect.value) state
          else
            match check (state.write effect.writes).db with
            | some error => .error error
            | none => run check time (next effect.value) (state.write effect.writes)
  | .perform .randomUUID _ next, state => run check time (next state.nextId) state.issue
  | .perform .now _ next, state => run check time (next time) state

variable (check : D → Option ε) (time : Nat)

/-- The body ends in `returns`, or with an error in `throws`. -/
def wp (body : Tx D W K ε L α) (returns : α → State D → Prop) (throws : ε → Prop)
    (state : State D) : Prop :=
  match run check time body state with
  | .ok (value, after) => returns value after
  | .error error => throws error

/-- What has to hold after some writes: either the constraints report an error
or the body goes on. -/
def Written (throws : ε → Prop) (state : State D) (writes : List W)
    (goes : State D → Prop) : Prop :=
  if writes.isEmpty then goes state
  else match check (state.write writes).db with
    | some error => throws error
    | none => goes (state.write writes)

variable {check time} {returns returns' : α → State D → Prop} {throws throws' : ε → Prop}
  {state : State D}

theorem wp_pure {value : α} :
    wp check time (.pure value : Tx D W K ε L α) returns throws state ↔ returns value state :=
  Iff.rfl

theorem wp_throw {error : ε} :
    wp check time (.throw error : Tx D W K ε L α) returns throws state ↔ throws error :=
  Iff.rfl

theorem run_bind (body : Tx D W K ε L β) (rest : β → Tx D W K ε L α) (state : State D) :
    run check time (body.bind rest) state =
      match run check time body state with
      | .ok (value, after) => run check time (rest value) after
      | .error error => .error error := by
  induction body generalizing state with
  | pure value => rfl
  | throw error => rfl
  | perform instruction note next ih =>
      cases instruction with
      | statement evaluate =>
          simp only [Program.perform_bind, run]
          split
          · rfl
          · split
            · exact ih _ _
            · split
              · rfl
              · exact ih _ _
      | randomUUID => exact ih _ _
      | now => exact ih _ _

theorem wp_bind {body : Tx D W K ε L β} {rest : β → Tx D W K ε L α} :
    wp check time (body.bind rest) returns throws state ↔
      wp check time body (fun value after => wp check time (rest value) returns throws after)
        throws state := by
  simp only [wp, run_bind]
  cases run check time body state <;> rfl

theorem wp_mono {body : Tx D W K ε L α}
    (holds : wp check time body returns throws state)
    (weaker : ∀ value after, returns value after → returns' value after)
    (weaker' : ∀ error, throws error → throws' error) :
    wp check time body returns' throws' state := by
  unfold wp at holds ⊢
  split
  · rename_i value after ran
    rw [ran] at holds
    exact weaker _ _ holds
  · rename_i error ran
    rw [ran] at holds
    exact weaker' _ holds

/-- A body that succeeded ended where its precondition says. -/
theorem wp_of_run {body : Tx D W K ε L α} {value : α} {after : State D}
    (holds : wp check time body returns throws state)
    (ran : run check time body state = .ok (value, after)) : returns value after := by
  unfold wp at holds
  rwa [ran] at holds

/-- For a body that may fail at any point, the constraints add nothing. -/
theorem Written.of_goes {writes : List W} {goes : State D → Prop}
    (holds : goes (state.write writes)) : Written check (fun _ : ε => True) state writes goes := by
  unfold Written
  split
  · rename_i empty
    rw [List.isEmpty_iff.mp empty] at holds
    exact holds
  · split
    · trivial
    · exact holds

/-- Where the constraints hold after the writes, the body goes on. -/
theorem Written.of_valid {writes : List W} {goes : State D → Prop}
    (valid : check (state.write writes).db = none) (holds : goes (state.write writes)) :
    Written check throws state writes goes := by
  unfold Written
  split
  · rename_i empty
    rw [List.isEmpty_iff.mp empty] at holds
    exact holds
  · rw [valid]
    exact holds

/-- Where the constraints fail after the writes, the body ends. -/
theorem Written.of_violation {writes : List W} {goes : State D → Prop} (nonempty : writes ≠ [])
    (violated : check (state.write writes).db ≠ none) :
    Written check (fun _ : ε => True) state writes goes := by
  unfold Written
  rw [if_neg (by simpa using nonempty)]
  cases checked : check (state.write writes).db with
  | none => exact absurd checked violated
  | some error => trivial

theorem wp_statement {evaluate : Nat → D → Except ε (Effect W K α)} :
    wp check time (statement evaluate : Tx D W K ε L α) returns throws state ↔
      match evaluate time state.db with
      | .error error => throws error
      | .ok effect => Written check throws state effect.writes (returns effect.value) := by
  simp only [wp, statement, run, Written]
  cases evaluate time state.db with
  | error error => rfl
  | ok effect =>
      by_cases empty : effect.writes.isEmpty
      · simp only [empty, if_true]
      · simp only [empty]
        cases check (state.write effect.writes).db <;> rfl

theorem wp_read {value : D → α} :
    wp check time (read value : Tx D W K ε L α) returns throws state ↔
      returns (value state.db) state :=
  Iff.rfl

theorem wp_randomUUID {returns : Nat → State D → Prop} :
    wp check time (randomUUID : Tx D W K ε L Nat) returns throws state ↔
      returns state.nextId state.issue :=
  Iff.rfl

theorem wp_now {returns : Nat → State D → Prop} :
    wp check time (now : Tx D W K ε L Nat) returns throws state ↔ returns time state :=
  Iff.rfl

theorem wp_ite {condition : Prop} [Decidable condition] {first second : Tx D W K ε L α} :
    wp check time (if condition then first else second) returns throws state ↔
      (condition → wp check time first returns throws state) ∧
        (¬condition → wp check time second returns throws state) := by
  split <;> simp [*]

theorem wp_throwIf {condition : Prop} [Decidable condition] {error : ε}
    {returns : Unit → State D → Prop} :
    wp check time (Program.throwIf condition error : Tx D W K ε L Unit) returns throws state ↔
      (condition → throws error) ∧ (¬condition → returns () state) := by
  unfold Program.throwIf
  split <;> simp [wp_pure, wp_throw, *]

theorem wp_runIf {condition : Prop} [Decidable condition] {body : Tx D W K ε L Unit}
    {returns : Unit → State D → Prop} :
    wp check time (Program.runIf condition body) returns throws state ↔
      (condition → wp check time body returns throws state) ∧
        (¬condition → returns () state) := by
  unfold Program.runIf
  split <;> simp [wp_pure, *]

/-- A note changes nothing about a body that runs in one piece. -/
theorem run_noting (body : Tx D W K ε L α) (note : Except ε α → Option L)
    (state : State D) :
    run check time (body.noting note) state = run check time body state := by
  induction body generalizing state with
  | pure value => rfl
  | throw error => rfl
  | perform instruction _ next ih =>
      cases instruction with
      | statement evaluate =>
          simp only [Program.noting, run, ih]
      | randomUUID => exact ih _ _
      | now => exact ih _ _

theorem wp_noting {body : Tx D W K ε L α} {note : Except ε α → Option L} :
    wp check time (body.noting note) returns throws state ↔
      wp check time body returns throws state := by
  unfold wp
  rw [run_noting]

/-! ## The operations of a model -/

section

variable {R : Type} [Row R] [DatabaseError ε] {relation : Relation D K R} {model : Model D W K R}
  {condition : R → Bool} {data : R → R}

omit [DatabaseError ε] in
theorem wp_findFirst {returns : Option R → State D → Prop} :
    wp check time (relation.findFirst condition : Tx D W K ε L _) returns throws state ↔
      returns ((relation.table state.db).find? condition) state :=
  Iff.rfl

omit [DatabaseError ε] in
theorem wp_findMany {before : R → R → Bool} {take : Option Nat}
    {returns : List R → State D → Prop} :
    wp check time (relation.findMany condition before take : Tx D W K ε L _) returns throws state ↔
      returns (take.elim (relation.select condition before state.db) fun count =>
        (relation.select condition before state.db).take count) state :=
  Iff.rfl

omit [DatabaseError ε] in
theorem wp_count {returns : Nat → State D → Prop} :
    wp check time (relation.count condition : Tx D W K ε L _) returns throws state ↔
      returns ((relation.table state.db).filter condition).length state :=
  Iff.rfl

omit [DatabaseError ε] in
theorem wp_selectForUpdate {returns : List R → State D → Prop} :
    wp check time (relation.selectForUpdate condition : Tx D W K ε L _) returns throws state ↔
      returns ((relation.table state.db).filter condition) state :=
  Iff.rfl

theorem wp_findFirstOrThrow {returns : R → State D → Prop} :
    wp check time (relation.findFirstOrThrow condition : Tx D W K ε L _) returns throws state ↔
      match (relation.table state.db).find? condition with
      | none => throws DatabaseError.notFound
      | some row => returns row state := by
  unfold Relation.findFirstOrThrow
  rw [wp_statement]
  cases (relation.table state.db).find? condition <;> exact Iff.rfl

theorem wp_create {row : R} {returns : R → State D → Prop} :
    wp check time (model.create row : Tx D W K ε L _) returns throws state ↔
      match (model.table state.db).get? (Row.id (model.created time row)) with
      | some _ => throws DatabaseError.duplicate
      | none => Written check throws state [model.put (model.created time row)]
          (returns (model.created time row)) := by
  unfold Model.create
  rw [wp_statement]
  cases found : (model.table state.db).get? (Row.id (model.created time row)) <;>
    simp only [found]

/-- Creating a row under a key that no row has. -/
theorem wp_create_new {row : R} {returns : R → State D → Prop}
    (fresh : ∀ other ∈ model.table state.db, Row.id other ≠ Row.id (model.created time row))
    (written : Written check throws state [model.put (model.created time row)]
      (returns (model.created time row))) :
    wp check time (model.create row : Tx D W K ε L _) returns throws state := by
  rw [wp_create, Table.get?_none.mpr fresh]
  exact written

/-- Creating rows under keys that no row has. -/
theorem wp_createMany {rows : List R} {returns : Unit → State D → Prop}
    (duplicate : throws DatabaseError.duplicate)
    (written : (∀ row ∈ rows.map (model.created time), ∀ other ∈ model.table state.db,
        Row.id other ≠ Row.id row) →
      ((rows.map (model.created time)).map Row.id).Nodup →
      Written check throws state ((rows.map (model.created time)).map model.put) (returns ())) :
    wp check time (model.createMany rows : Tx D W K ε L _) returns throws state := by
  unfold Model.createMany
  rw [wp_statement]
  by_cases refused : ((rows.map (model.created time)).any (fun row =>
      ((model.table state.db).get? (Row.id row)).isSome) ||
      !decide (((rows.map (model.created time)).map Row.id).Nodup)) = true
  · simp only [if_pos refused]
    exact duplicate
  · simp only [if_neg refused]
    simp only [Bool.or_eq_true, List.any_eq_true, Bool.not_eq_true', decide_eq_false_iff_not,
      not_or, not_exists, not_and, Decidable.not_not] at refused
    apply written _ refused.2
    intro row member
    apply Table.get?_none.mp
    exact Option.not_isSome_iff_eq_none.mp (refused.1 row member)

/-- Creating rows whose keys are known to be new. -/
theorem wp_createMany_new {rows : List R} {returns : Unit → State D → Prop}
    (fresh : ∀ row ∈ rows.map (model.created time), ∀ other ∈ model.table state.db,
      Row.id other ≠ Row.id row)
    (ids : ((rows.map (model.created time)).map Row.id).Nodup)
    (written : Written check throws state ((rows.map (model.created time)).map model.put)
      (returns ())) :
    wp check time (model.createMany rows : Tx D W K ε L _) returns throws state := by
  unfold Model.createMany
  rw [wp_statement]
  have accepted : ((rows.map (model.created time)).any (fun row =>
      ((model.table state.db).get? (Row.id row)).isSome) ||
      !decide (((rows.map (model.created time)).map Row.id).Nodup)) = false := by
    rw [Bool.or_eq_false_iff, List.any_eq_false, decide_eq_true ids]
    refine ⟨fun row member => ?_, rfl⟩
    rw [Table.get?_none.mpr (fresh row member)]
    exact Bool.false_ne_true
  simp only [accepted, Bool.false_eq_true, if_false]
  exact written

theorem wp_update {returns : R → State D → Prop} :
    wp check time (model.update condition data : Tx D W K ε L _) returns throws state ↔
      match (model.table state.db).find? condition with
      | none => throws DatabaseError.notFound
      | some row => Written check throws state [model.put (model.updated time (data row))]
          (returns (model.updated time (data row))) := by
  unfold Model.update
  rw [wp_statement]
  cases (model.table state.db).find? condition <;> rfl

/-- Updating by the key of a row that is there. -/
theorem wp_update_byId {row : R} {returns : R → State D → Prop}
    (member : row ∈ model.table state.db) (holds : condition row = true)
    (byId : ∀ other ∈ model.table state.db, condition other = true → Row.id other = Row.id row)
    (written : Written check throws state [model.put (model.updated time (data row))]
      (returns (model.updated time (data row)))) :
    wp check time (model.update condition data : Tx D W K ε L _) returns throws state := by
  rw [wp_update, Table.find?_eq_some_of_id member holds byId]
  exact written

theorem wp_upsert {create : R} {returns : R → State D → Prop} :
    wp check time (model.upsert condition create data : Tx D W K ε L _) returns throws state ↔
      match (model.table state.db).find? condition with
      | some row => Written check throws state [model.put (model.updated time (data row))]
          (returns (model.updated time (data row)))
      | none =>
          match (model.table state.db).get? (Row.id (model.created time create)) with
          | some _ => throws DatabaseError.duplicate
          | none => Written check throws state [model.put (model.created time create)]
              (returns (model.created time create)) := by
  unfold Model.upsert
  rw [wp_statement]
  cases found : (model.table state.db).find? condition
  · cases exists_ : (model.table state.db).get? (Row.id (model.created time create)) <;>
      simp only [exists_]
  · simp only

omit [DatabaseError ε] in
theorem wp_updateMany {returns : Nat → State D → Prop} :
    wp check time (model.updateMany condition data : Tx D W K ε L _) returns throws state ↔
      Written check throws state
        (((model.table state.db).filter condition).map fun row =>
          model.put (model.updated time (data row)))
        (returns ((model.table state.db).filter condition).length) := by
  unfold Model.updateMany
  rw [wp_statement]

omit [DatabaseError ε] in
/-- An update whose condition fixes the key changes one row or none. -/
theorem wp_updateMany_byId {returns : Nat → State D → Prop} (id : Nat)
    (byId : ∀ row, condition row = true → Row.id row = id)
    (changed : ∀ row ∈ model.table state.db, condition row = true →
      Written check throws state [model.put (model.updated time (data row))] (returns 1))
    (unchanged : (∀ row ∈ model.table state.db, condition row = false) → returns 0 state) :
    wp check time (model.updateMany condition data : Tx D W K ε L _) returns throws state := by
  rw [wp_updateMany]
  rcases Table.filter_byId fun row (_ : row ∈ model.table state.db) => byId row with
    empty | ⟨row, member, holds, filterEq⟩
  · rw [empty]
    refine unchanged fun row member => ?_
    by_contra holds
    have kept := Table.mem_filter.mpr ⟨member, by simpa using holds⟩
    rw [empty] at kept
    exact List.not_mem_nil kept
  · rw [filterEq]
    exact changed row member holds

theorem wp_delete {model : ErasableModel D W K R} {returns : Unit → State D → Prop} :
    wp check time (model.delete condition : Tx D W K ε L _) returns throws state ↔
      match (model.table state.db).find? condition with
      | none => throws DatabaseError.notFound
      | some row => Written check throws state [model.erase (Row.id row)] (returns ()) := by
  unfold ErasableModel.delete
  rw [wp_statement]
  cases (model.table state.db).find? condition <;> rfl

omit [DatabaseError ε] in
theorem wp_deleteMany {model : ErasableModel D W K R} {returns : Nat → State D → Prop} :
    wp check time (model.deleteMany condition : Tx D W K ε L _) returns throws state ↔
      Written check throws state
        (((model.table state.db).filter condition).map fun row => model.erase (Row.id row))
        (returns ((model.table state.db).filter condition).length) := by
  unfold ErasableModel.deleteMany
  rw [wp_statement]

end

end Tx

end Mosp.Sql
