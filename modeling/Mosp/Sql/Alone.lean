import Mosp.Concurrency.Alone
import Mosp.Sql.ReadCommitted

/-!
# A transaction on its own

Where no other transaction is open, the two readings of a transaction body
agree: run statement by statement it ends as it does in one piece, apart from
the identifiers that a failed transaction has used up.
-/

namespace Mosp.Sql

open Mosp.Concurrency

variable {C : Type → Type 1} {D W K ε L X ι α β : Type} [Database D W K] [DecidableEq K]

/-- No transaction is open. -/
def Store.rest (state : State D) (clock : Nat) (outside : X) : Store D W K X :=
  { committed := state, clock, outside }

/-- Only one transaction is open. -/
structure Store.Only (caller : Nat) (store : Store D W K X) : Prop where
  pending : ∀ other, other ≠ caller → store.pending other = []
  owner : ∀ lock, store.owner lock = none ∨ store.owner lock = some caller

namespace Store

section

variable {D W K X : Type} {self : Nat} {store : Store D W K X}

theorem rollback_rest (state : State D) (clock : Nat) (outside : X) :
    (rest state clock outside : Store D W K X).rollback self = rest state clock outside := by
  simp [rest, rollback]

theorem only_rest (state : State D) (clock : Nat) (outside : X) :
    (rest state clock outside : Store D W K X).Only self :=
  ⟨fun _ _ => rfl, fun _ => .inl rfl⟩

/-- The only transaction ends. -/
theorem Only.rollback (only : store.Only self) :
    store.rollback self = rest store.committed store.clock store.outside := by
  have pending : (fun other => if other = self then [] else store.pending other) = fun _ => [] := by
    funext other
    split
    · rfl
    · exact only.pending other ‹_›
  have owner : (fun lock => if store.owner lock = some self then none else store.owner lock) =
      fun _ => none := by
    funext lock
    split
    · rfl
    · exact (only.owner lock).resolve_right ‹_›
  simp only [Store.rollback, pending, owner, rest]

theorem Only.free (only : store.Only self) (lock : K) : store.free self lock = true := by
  rcases only.owner lock with none_ | own <;> simp [Store.free, *]

theorem Only.issue (only : store.Only self) : store.issue.Only self :=
  ⟨only.pending, only.owner⟩

end

variable {self : Nat} {store : Store D W K X}

omit [DecidableEq K] in
theorem Only.commit (only : store.Only self) :
    store.commit self = rest (store.visible self) store.clock store.outside := by
  have shown : Only self ({ store with committed := store.visible self } : Store D W K X) :=
    ⟨only.pending, only.owner⟩
  exact shown.rollback

omit [Database D W K] in
theorem Only.record (only : store.Only self) (writes : List W) (locks : List K) :
    (store.record self writes locks).Only self where
  pending other distinct := by
    simp only [Store.record, if_neg distinct]
    exact only.pending other distinct
  owner lock := by
    by_cases member : lock ∈ locks
    · exact .inr (if_pos member)
    · simp only [Store.record, if_neg member]
      exact only.owner lock

theorem visible_record (writes : List W) (locks : List K) :
    (store.record self writes locks).visible self = (store.visible self).write writes := by
  simp only [visible, record, if_true, State.write_append]

/-- What the constraints say after some writes. -/
def refusal {ε : Type} (check : D → Option ε) (state : State D) (writes : List W) : Option ε :=
  if writes.isEmpty then none else check (state.write writes).db

/-- A statement of the only transaction does not wait. -/
theorem Only.execute {ε β : Type} {check : D → Option ε}
    {evaluate : Nat → D → Except ε (Effect W K β)} {effect : Effect W K β} (only : store.Only self)
    (evaluated : evaluate store.clock (store.visible self).db = .ok effect) :
    store.execute check self evaluate none =
      some (match refusal check (store.visible self) effect.writes with
        | some error => (.error error, store)
        | none => (.ok effect.value, store.record self effect.writes (effect.needs D))) := by
  have free : (effect.needs D).all (store.free self) = true :=
    List.all_eq_true.mpr fun lock _ => only.free lock
  simp only [Store.execute, evaluated, free, if_true, refusal]
  generalize (if effect.writes.isEmpty = true then none
    else check ((store.visible self).write effect.writes).db) = refused
  cases refused <;> rfl

end Store

namespace Tx

variable {check : D → Option ε} {answer : {β : Type} → C β → ι → Nat → X → β × X}
  {may : {β : Type} → Exchange C D W K ε β → Outcome ε ι → Prop} {self : Nat}
  {note : Except ε α → Option L} {store : Store D W K X} {outside : X} {clock : Nat}

omit [DecidableEq K] in
theorem wp_perform_statement {evaluate : Nat → D → Except ε (Effect W K β)} {shown : β → Option L}
    {next : β → Tx D W K ε L α} {time : Nat} {returns : α → State D → Prop} {throws : ε → Prop}
    {state : State D} :
    wp check time (.perform (.statement evaluate) shown next : Tx D W K ε L α) returns throws state ↔
      match evaluate time state.db with
      | .error error => throws error
      | .ok effect => Written check throws state effect.writes fun after =>
          wp check time (next effect.value) returns throws after := by
  have split : (.perform (.statement evaluate) shown next : Tx D W K ε L α) =
      .perform (.statement evaluate) shown next := rfl
  simp only [wp, run, Written]
  cases evaluate time state.db with
  | error error => rfl
  | ok effect =>
      by_cases empty : effect.writes.isEmpty
      · simp only [empty, if_true]
      · simp only [empty]
        cases check (state.write effect.writes).db <;> rfl

omit [DecidableEq K] in
theorem written_refused {throws : ε → Prop} {state : State D} {writes : List W}
    {goes : State D → Prop} {error : ε} (written : Written check throws state writes goes)
    (refused : Store.refusal check state writes = some error) : throws error := by
  unfold Written at written
  unfold Store.refusal at refused
  by_cases empty : writes.isEmpty = true
  · rw [if_pos empty] at refused
    contradiction
  · rw [if_neg empty] at refused written
    rw [refused] at written
    exact written

omit [DecidableEq K] in
theorem written_accepted {throws : ε → Prop} {state : State D} {writes : List W}
    {goes : State D → Prop} (written : Written check throws state writes goes)
    (accepted : Store.refusal check state writes = none) : goes (state.write writes) := by
  unfold Written at written
  unfold Store.refusal at accepted
  by_cases empty : writes.isEmpty = true
  · rw [if_pos empty] at written
    rw [List.isEmpty_iff.mp empty]
    exact written
  · rw [if_neg empty] at accepted written
    rw [accepted] at written
    exact written

/-- The rest of a transaction ends as it does in one piece. -/
theorem ends_statements {body : Tx D W K ε L α}
    {ends : Except ε (Except ε α) → Store D W K X → Prop} (only : store.Only self)
    (fails : ∀ {β : Type} (command : Exchange C D W K ε β) outcome error, may command outcome →
      outcome.failure = some error →
      ∀ nextId, ends (.ok (.error error)) (.rest ⟨store.committed.db, nextId⟩ store.clock store.outside))
    (holds : wp check store.clock body
      (fun value after => ends (.ok (.ok value)) (.rest after store.clock store.outside))
      (fun error => ∀ nextId, ends (.ok (.error error))
        (.rest ⟨store.committed.db, nextId⟩ store.clock store.outside)) (store.visible self)) :
    (body.statements note : Program (Exchange C D W K ε) L ε (Except ε α)).Ends
      (readCommitted check answer L) may self ends store := by
  induction body generalizing store with
  | pure value =>
      intro outcome chosen
      cases failed : outcome.failure with
      | none =>
          refine ⟨.ok (), store.commit self, by simp [readCommitted, Exchange.exec, failed], ?_⟩
          rw [only.commit]
          exact holds
      | some error =>
          refine ⟨.error error, store.rollback self,
            by simp [readCommitted, Exchange.exec, failed], ?_⟩
          rw [only.rollback]
          exact fails _ outcome error chosen failed _
  | throw error =>
      intro outcome chosen
      refine ⟨(), store.rollback self, rfl, ?_⟩
      rw [only.rollback]
      exact holds _
  | perform instruction shown next ih =>
      cases instruction with
      | statement evaluate =>
          rw [statements]
          intro outcome chosen
          have rolledBack (error : ε) (ended : ends (.ok (.error error))
              (.rest store.committed store.clock store.outside)) :
              (Program.perform .rollback (fun _ => note (.error error)) fun _ => .pure (.error error) :
                Program (Exchange C D W K ε) L ε (Except ε α)).Ends
                  (readCommitted check answer L) may self ends store := by
            refine fun _ _ => ⟨(), store.rollback self, rfl, ?_⟩
            rw [only.rollback]
            exact ended
          cases failed : outcome.failure with
          | some error =>
              refine ⟨.error error, store,
                by simp [readCommitted, Exchange.exec, Store.execute, failed], ?_⟩
              exact rolledBack error (fails _ outcome error chosen failed _)
          | none =>
              rw [wp_perform_statement] at holds
              cases evaluated : evaluate store.clock (store.visible self).db with
              | error error =>
                  refine ⟨.error error, store,
                    by simp [readCommitted, Exchange.exec, Store.execute, failed, evaluated], ?_⟩
                  rw [evaluated] at holds
                  exact rolledBack error (holds _)
              | ok effect =>
                  rw [evaluated] at holds
                  have executed : store.execute check self evaluate none = _ := only.execute evaluated
                  cases refused : Store.refusal check (store.visible self) effect.writes with
                  | some error =>
                      rw [refused] at executed
                      refine ⟨.error error, store, by
                        simpa only [readCommitted, Exchange.exec, failed] using executed, ?_⟩
                      exact rolledBack error (written_refused holds refused _)
                  | none =>
                      rw [refused] at executed
                      refine ⟨.ok effect.value, store.record self effect.writes (effect.needs D), by
                        simpa only [readCommitted, Exchange.exec, failed] using executed, ?_⟩
                      apply ih effect.value (only.record _ _) fails
                      rw [Store.visible_record]
                      exact written_accepted holds refused
      | randomUUID =>
          intro outcome _
          refine ⟨store.committed.nextId, store.issue, rfl, ?_⟩
          exact ih _ only.issue fails holds
      | now =>
          intro outcome _
          exact ⟨store.clock, store, rfl, ih _ only fails holds⟩

/-- A transaction ends as it does in one piece. -/
theorem ends_transact {body : Tx D W K ε L α} {state : State D}
    {ends : Except ε α → Store D W K X → Prop}
    (fails : ∀ {β : Type} (command : Exchange C D W K ε β) outcome error, may command outcome →
      outcome.failure = some error →
      ∀ nextId, ends (.error error) (.rest ⟨state.db, nextId⟩ clock outside))
    (holds : wp check clock body (fun value after => ends (.ok value) (.rest after clock outside))
      (fun error => ∀ nextId, ends (.error error) (.rest ⟨state.db, nextId⟩ clock outside)) state) :
    (body.transact note : Program (Exchange C D W K ε) L ε α).Ends (readCommitted check answer L) may
      self ends (.rest state clock outside) := by
  rw [transact, Program.ends_bind]
  intro outcome _
  refine ⟨(), Store.rest state clock outside, congrArg some (Prod.ext rfl ?_), ?_⟩
  · exact Store.rollback_rest state clock outside
  · apply ends_statements (Store.only_rest state clock outside)
    · exact fun command choice error chosen failed nextId => fails command choice error chosen failed nextId
    · exact holds

omit [DecidableEq K] in
theorem written_valid {throws : ε → Prop} {state : State D} {writes : List W}
    {goes goes' : State D → Prop} (valid : check state.db = none)
    (written : Written check throws state writes goes)
    (goesOn : ∀ after, check after.db = none → goes after → goes' after) :
    Written check throws state writes goes' := by
  unfold Written at written ⊢
  by_cases empty : writes.isEmpty = true
  · rw [if_pos empty] at written ⊢
    exact goesOn _ valid written
  · rw [if_neg empty] at written ⊢
    cases checked : check (state.write writes).db with
    | some error =>
        rw [checked] at written
        exact written
    | none =>
        rw [checked] at written
        exact goesOn _ checked written

omit [DecidableEq K] in
/-- A body that ends leaves the constraints as they have to be. -/
theorem wp_valid {body : Tx D W K ε L α} {time : Nat} {returns : α → State D → Prop}
    {throws : ε → Prop} {state : State D} (valid : check state.db = none)
    (holds : wp check time body returns throws state) :
    wp check time body (fun value after => returns value after ∧ check after.db = none) throws
      state := by
  induction body generalizing state with
  | pure value => exact ⟨holds, valid⟩
  | throw error => exact holds
  | perform instruction shown next ih =>
      cases instruction with
      | statement evaluate =>
          rw [wp_perform_statement] at holds ⊢
          cases evaluated : evaluate time state.db with
          | error error =>
              rw [evaluated] at holds
              exact holds
          | ok effect =>
              rw [evaluated] at holds
              exact written_valid valid holds fun after checked reached => ih _ checked reached
      | randomUUID => exact ih _ valid holds
      | now => exact ih _ valid holds

end Tx

end Mosp.Sql
