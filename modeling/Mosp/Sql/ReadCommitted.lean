import Mosp.Concurrency.Pool
import Mosp.Sql.Transaction

/-!
# Transactions next to each other

The second reading of a transaction body: its statements run one at a time, at
the isolation level READ COMMITTED.  A statement sees what is committed when it
runs and what its own transaction has written.  It waits while another
transaction holds a lock that it needs, and is evaluated when it goes on, so an
update looks at its condition again.  The writes of a transaction become
visible together, when it commits; a rollback drops them.

A statement names the rows it reads by their current contents only, so a row
that comes to match while the statement waits is seen as well.
-/

namespace Mosp.Sql

open Mosp.Concurrency

/-- What is committed, what each transaction has written and not committed,
and who holds which lock.  `outside` is what the programs reach besides the
database. -/
structure Store (D W K X : Type) where
  committed : State D
  pending : Nat → List W := fun _ => []
  owner : K → Option Nat := fun _ => none
  clock : Nat := 0
  outside : X

namespace Store

variable {D W K X : Type} [Database D W K]

/-- What a transaction sees. -/
def visible (store : Store D W K X) (self : Nat) : State D :=
  store.committed.write (store.pending self)

/-- Whether no other transaction holds a lock. -/
def free (store : Store D W K X) (self : Nat) (lock : K) : Bool :=
  (store.owner lock).all (· == self)

/-- The store after a statement of the transaction. -/
def record [DecidableEq K] (store : Store D W K X) (self : Nat) (writes : List W)
    (locks : List K) : Store D W K X :=
  { store with
    pending := fun other =>
      if other = self then store.pending self ++ writes else store.pending other
    owner := fun lock => if lock ∈ locks then some self else store.owner lock }

/-- End a transaction: its writes and its locks are gone. -/
def rollback (store : Store D W K X) (self : Nat) : Store D W K X :=
  { store with
    pending := fun other => if other = self then [] else store.pending other
    owner := fun lock => if store.owner lock = some self then none else store.owner lock }

/-- End a transaction after its writes have become visible. -/
def commit (store : Store D W K X) (self : Nat) : Store D W K X :=
  ({ store with committed := store.visible self } : Store D W K X).rollback self

/-- Hand out one identifier. -/
def issue (store : Store D W K X) : Store D W K X :=
  { store with committed := store.committed.issue }

end Store

/-- The locks that a statement needs. -/
def Effect.needs {W K β : Type} (D : Type) [Database D W K] (effect : Effect W K β) : List K :=
  effect.locks ++ effect.writes.flatMap (Database.locks D)

/-- The commands of transactions that run statement by statement, next to
commands `C` that do not reach the database. -/
inductive Exchange (C : Type → Type 1) (D W K ε : Type) : Type → Type 1 where
  | start : Exchange C D W K ε Unit
  | statement {β : Type} (evaluate : Nat → D → Except ε (Effect W K β)) :
      Exchange C D W K ε (Except ε β)
  | commit : Exchange C D W K ε (Except ε Unit)
  | rollback : Exchange C D W K ε Unit
  | randomUUID : Exchange C D W K ε Nat
  | now : Exchange C D W K ε Nat
  | outside {β : Type} (command : C β) : Exchange C D W K ε β

/-- What the scheduler decides about one command. -/
structure Outcome (ε ι : Type) where
  /-- The command fails with this error. -/
  failure : Option ε := none
  outside : ι

/-- Whether a command is a statement that the database carries out. -/
def Exchange.acts {C : Type → Type 1} {D W K ε ι β : Type} (exchange : Exchange C D W K ε β)
    (outcome : Outcome ε ι) : Bool :=
  match exchange with
  | .statement _ => outcome.failure.isNone
  | _ => false

section

variable {C : Type → Type 1} {D W K ε X ι : Type} [Database D W K] [DecidableEq K]

/-- Answer one statement; `none` while it waits for a lock. -/
def Store.execute {β : Type} (check : D → Option ε) (self : Nat)
    (evaluate : Nat → D → Except ε (Effect W K β)) (failure : Option ε)
    (store : Store D W K X) : Option (Except ε β × Store D W K X) :=
  match failure with
  | some error => some (.error error, store)
  | none =>
      match evaluate store.clock (store.visible self).db with
      | .error error => some (.error error, store)
      | .ok effect =>
          if (effect.needs D).all (store.free self) then
            match if effect.writes.isEmpty then none
              else check ((store.visible self).write effect.writes).db with
            | some error => some (.error error, store)
            | none => some (.ok effect.value, store.record self effect.writes (effect.needs D))
          else
            none

/-- Answer a command. -/
def Exchange.exec (check : D → Option ε)
    (answer : {β : Type} → C β → ι → Nat → X → β × X) (self : Nat) {β : Type}
    (exchange : Exchange C D W K ε β) (outcome : Outcome ε ι) (store : Store D W K X) :
    Option (β × Store D W K X) :=
  match exchange with
  | .start => some ((), store.rollback self)
  | .statement evaluate => store.execute check self evaluate outcome.failure
  | .commit =>
      match outcome.failure with
      | some error => some (.error error, store.rollback self)
      | none => some (.ok (), store.commit self)
  | .rollback => some ((), store.rollback self)
  | .randomUUID => some (store.committed.nextId, store.issue)
  | .now => some (store.clock, store)
  | .outside command =>
      let (value, after) := answer command outcome.outside store.clock store.outside
      some (value, { store with outside := after })

/-- The machine of the statements.  A process that stops loses its
transactions. -/
def readCommitted (check : D → Option ε)
    (answer : {β : Type} → C β → ι → Nat → X → β × X) (L : Type) :
    Machine (Exchange C D W K ε) L ε (Store D W K X) (Outcome ε ι) where
  exec self exchange outcome store := exchange.exec check answer self outcome store
  release self store := store.rollback self

end

namespace Tx

variable {C : Type → Type 1} {D W K ε L α : Type}

/-- The statements of a body, and what ends the transaction.  `note` is shown
when it has ended. -/
def statements (note : Except ε α → Option L) :
    Tx D W K ε L α → Program (Exchange C D W K ε) L ε (Except ε α)
  | .pure value =>
      .perform .commit (fun ended => note (ended.map fun _ => value)) fun ended =>
        .pure (ended.map fun _ => value)
  | .throw error =>
      .perform .rollback (fun _ => note (.error error)) fun _ => .pure (.error error)
  | .perform (.statement evaluate) shown next =>
      .perform (.statement evaluate) (fun answer => answer.toOption.bind shown) fun answer =>
        match answer with
        | .ok value => statements note (next value)
        | .error error =>
            .perform .rollback (fun _ => note (.error error)) fun _ => .pure (.error error)
  | .perform .randomUUID shown next =>
      .perform .randomUUID shown fun value => statements note (next value)
  | .perform .now shown next =>
      .perform .now shown fun value => statements note (next value)

/-- A transaction. -/
def isolated (body : Tx D W K ε L α) (note : Except ε α → Option L) :
    Program (Exchange C D W K ε) L ε (Except ε α) :=
  .perform .start (fun _ => none) fun _ => body.statements note

/-- A transaction whose error is thrown. -/
def transact (body : Tx D W K ε L α) (note : Except ε α → Option L) :
    Program (Exchange C D W K ε) L ε α :=
  (body.isolated note).bind .ofExcept

end Tx

end Mosp.Sql
