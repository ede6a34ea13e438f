import Mosp.Sql.Protocol

/-!
# Rules for the statements of a transaction

One rule for each command, in terms of what the call knows before and after it.
A body is judged by what it returns: the writes, the locks and the development
of the committed database are taken care of by the rules.
-/

namespace Mosp.Sql

open Mosp.Concurrency

section

variable {C : Type → Type 1} {D W K ε L X ι α β : Type} [Database D W K] [DecidableEq K]

/-- A statement fails and changes nothing, or it has the locks that it needs. -/
theorem Store.execute_cases {check : D → Option ε} {self : Nat}
    {evaluate : Nat → D → Except ε (Effect W K β)} {failure : Option ε}
    {store after : Store D W K X} {answered : Except ε β}
    (executed : store.execute check self evaluate failure = some (answered, after)) :
    (∃ error, answered = .error error ∧ after = store) ∨
      ∃ effect, failure = none ∧ evaluate store.clock (store.visible self).db = .ok effect ∧
        (effect.needs D).all (store.free self) = true ∧
        (effect.writes ≠ [] → check ((store.visible self).write effect.writes).db = none) ∧
        answered = .ok effect.value ∧
        after = store.record self effect.writes (effect.needs D) := by
  unfold Store.execute at executed
  split at executed
  · obtain ⟨rfl, rfl⟩ := Prod.mk.inj (Option.some.inj executed)
    exact .inl ⟨_, rfl, rfl⟩
  split at executed
  · obtain ⟨rfl, rfl⟩ := Prod.mk.inj (Option.some.inj executed)
    exact .inl ⟨_, rfl, rfl⟩
  rename_i effect evaluated
  split at executed
  swap
  · contradiction
  rename_i free
  split at executed
  · obtain ⟨rfl, rfl⟩ := Prod.mk.inj (Option.some.inj executed)
    exact .inl ⟨_, rfl, rfl⟩
  · rename_i passed
    obtain ⟨rfl, rfl⟩ := Prod.mk.inj (Option.some.inj executed)
    refine .inr ⟨effect, rfl, evaluated, free, fun writes => ?_, rfl, rfl⟩
    rwa [if_neg (by simpa using writes)] at passed

variable [Guarded D] [Inhabited L]

namespace Protocol

variable (check : D → Option ε) (answer : {β : Type} → C β → ι → Nat → X → β × X)
  (protocol : Protocol D L) (self : Nat)

/-- A program that runs between the transactions of a call. -/
def Runs (phase : L) (fact : State D → Prop) (program : Program (Exchange C D W K ε) L ε α)
    (returns : α → View L (State D) → Prop) (throws : ε → View L (State D) → Prop) : Prop :=
  Contract.Triple (readCommitted check answer L) (protocol.contract (X := X)) self
    (fun view => Stands self phase fact (seen view)) program
    (fun value view => returns value (seen view)) (fun error view => throws error (seen view))

/-- A body that runs to its end from what the call knows. -/
def Transacts (note : Except ε α → Option L) (returns : Except ε α → View L (State D) → Prop)
    (phase : L) (pending : List W) (locks : List K) (fact : State D → Prop)
    (body : Tx D W K ε L α) : Prop :=
  Contract.Triple (readCommitted check answer L) (protocol.contract (X := X)) self
    (Knows self phase pending locks fact) (body.statements note)
    (fun result view => returns result (seen view)) (fun _ _ => False)

/-- Giving up keeps what is good, and ends in what the body returns. -/
def Abandons (note : Except ε α → Option L) (returns : Except ε α → View L (State D) → Prop)
    (phase : L) (fact : State D → Prop) : Prop :=
  ∀ error (view : View L (State D)), protocol.Good view → Stands self phase fact view →
    protocol.Moves view (view.answer self (note (.error error)) view.shared) ∧
      returns (.error error) (view.answer self (note (.error error)) view.shared)

variable {check answer protocol self} {note : Except ε α → Option L}
  {returns : Except ε α → View L (State D) → Prop} {phase : L} {pending : List W}
  {locks : List K} {fact : State D → Prop}

omit [Database D W K] [DecidableEq K] [Guarded D] [Inhabited L] in
theorem Knows.stands {view : View L (Store D W K X)}
    (knows : Knows self phase pending locks fact view) : Stands self phase fact (seen view) :=
  ⟨knows.phase, knows.fact⟩

omit [DecidableEq K] [Guarded D] [Inhabited L] in
theorem answer_phase {σ : Type} {view : View L σ} (phaseAt : view.phases[self]? = some phase)
    (noted : Option L) (shared : σ) :
    (view.answer self noted shared).phases[self]? = some (noted.getD phase) := by
  cases noted with
  | none => simpa using phaseAt
  | some noted =>
      have inside := (List.getElem?_eq_some_iff.mp phaseAt).1
      simp [inside]

/-- A rollback. -/
theorem runs_rollback (stays : protocol.Stays locks fact)
    (abandons : protocol.Abandons self note returns phase fact) (error : ε) :
    Contract.Triple (readCommitted check answer L) (protocol.contract (X := X)) self
      (Knows self phase pending locks fact)
      (.perform .rollback (fun _ => note (.error error)) fun _ => .pure (.error error))
      (fun result view => returns result (seen view)) (fun _ _ => False) := by
  refine Contract.Triple.perform (Knows.stable stays) fun before knows inv _ _ _ _ exec => ?_
  obtain ⟨rfl, rfl⟩ := Prod.mk.inj (Option.some.inj exec)
  obtain ⟨moves, returned⟩ := abandons error (seen before) inv.2 knows.stands
  simp only [readCommitted, List.map_nil, View.fork_nil]
  refine ⟨⟨inv.1.rollback self, moves.good⟩, fun other distinct => ?_, by simp, returned⟩
  exact keeps_rollback distinct before _ moves.shows

/-- The body throws. -/
theorem Transacts.throw (stays : protocol.Stays locks fact)
    (abandons : protocol.Abandons self note returns phase fact) (error : ε) :
    protocol.Transacts check answer self note returns phase pending locks fact
      (.throw error : Tx D W K ε L α) :=
  runs_rollback stays abandons error

/-- The body ends and its writes become visible. -/
theorem Transacts.pure (stays : protocol.Stays locks fact)
    (abandons : protocol.Abandons self note returns phase fact) (value : α)
    (commits : ∀ view : View L (State D), protocol.Good view → Stands self phase fact view →
      let after := view.answer self (note (.ok value)) (view.shared.write pending)
      protocol.Moves view after ∧ protocol.Develops view.shared after.shared ∧
        returns (.ok value) after) :
    protocol.Transacts check answer self note returns phase pending locks fact
      (.pure value : Tx D W K ε L α) := by
  refine Contract.Triple.perform (Knows.stable stays)
    fun before knows inv choice _ ended shared exec => ?_
  simp only [readCommitted, List.map_nil, View.fork_nil]
  simp only [readCommitted, Exchange.exec] at exec
  cases failure : choice.failure with
  | some error =>
      rw [failure] at exec
      obtain ⟨rfl, rfl⟩ := Prod.mk.inj (Option.some.inj exec)
      obtain ⟨moves, returned⟩ := abandons error (seen before) inv.2 knows.stands
      refine ⟨⟨inv.1.rollback self, moves.good⟩, fun other distinct => ?_, by simp, returned⟩
      exact keeps_rollback distinct before _ moves.shows
  | none =>
      rw [failure] at exec
      obtain ⟨rfl, rfl⟩ := Prod.mk.inj (Option.some.inj exec)
      obtain ⟨moves, develops, returned⟩ := commits (seen before) inv.2 knows.stands
      have visible : before.shared.visible self = before.shared.committed.write pending := by
        rw [Store.visible, knows.pending]
      simp only [seen_shared, View.answer_shared, ← visible] at moves develops returned
      refine ⟨⟨inv.1.commit self, moves.good⟩, fun other distinct => ?_, by simp, returned⟩
      exact keeps_commit distinct before _ inv.1 develops moves.shows

/-- One statement.  It sees the committed database and the writes of the body, and what it
writes passes the constraints. -/
theorem Transacts.checkedStatement {evaluate : Nat → D → Except ε (Effect W K β)}
    {shown : β → Option L} {next : β → Tx D W K ε L α} (stays : protocol.Stays locks fact)
    (abandons : protocol.Abandons self note returns phase fact)
    (runs : ∀ (view : View L (State D)) time effect, protocol.Good view →
      protocol.Permits self view → Stands self phase fact view →
      evaluate time (view.shared.write pending).db = .ok effect →
      (effect.writes ≠ [] →
        check ((view.shared.write pending).write effect.writes).db = none) →
      protocol.Moves view (view.answer self (shown effect.value) view.shared) ∧
        ∃ after : State D → Prop, after view.shared ∧
          protocol.Transacts check answer self note returns ((shown effect.value).getD phase)
            (pending ++ effect.writes) (locks ++ effect.needs D) after (next effect.value)) :
    protocol.Transacts check answer self note returns phase pending locks fact
      (.perform (.statement evaluate) shown next) := by
  unfold Transacts Tx.statements
  refine Contract.Triple.perform (Knows.stable stays)
    fun before knows inv choice allowed answered shared exec => ?_
  simp only [readCommitted, List.map_nil, View.fork_nil]
  have visible : before.shared.visible self = before.shared.committed.write pending := by
    rw [Store.visible, knows.pending]
  rcases Store.execute_cases exec with ⟨error, rfl, rfl⟩ |
    ⟨effect, unfailing, evaluated, free, passed, rfl, rfl⟩
  · refine ⟨⟨inv.1, inv.2⟩, fun other distinct =>
      keeps_same before none (protocol.shows_refl _), by simp, ?_⟩
    exact runs_rollback stays abandons error _ knows
  rw [visible] at evaluated passed
  obtain ⟨moves, after, holds, continues⟩ :=
    runs (seen before) before.shared.clock effect inv.2
      (allowed (by simp [Exchange.acts, unfailing])) knows.stands evaluated passed
  have covered : ∀ write ∈ effect.writes, ∀ lock ∈ Database.locks D write,
      lock ∈ effect.needs D := by
    intro write member lock lockMember
    exact List.mem_append_right _ (List.mem_flatMap.mpr ⟨write, member, lockMember⟩)
  refine ⟨⟨inv.1.record free covered, moves.good⟩, fun other distinct =>
    keeps_record distinct before _ free moves.shows, by simp, ?_⟩
  refine continues _ ⟨answer_phase knows.phase _ _, ?_, ?_, holds⟩
  · simp [knows.pending]
  · intro lock member
    refine Store.record_owner_self ?_
    cases List.mem_append.mp member with
    | inl old => exact .inl (knows.locks lock old)
    | inr new => exact .inr new

/-- One statement, whose constraints are of no interest. -/
theorem Transacts.statement {evaluate : Nat → D → Except ε (Effect W K β)}
    {shown : β → Option L} {next : β → Tx D W K ε L α} (stays : protocol.Stays locks fact)
    (abandons : protocol.Abandons self note returns phase fact)
    (runs : ∀ (view : View L (State D)) time effect, protocol.Good view →
      protocol.Permits self view → Stands self phase fact view →
      evaluate time (view.shared.write pending).db = .ok effect →
      protocol.Moves view (view.answer self (shown effect.value) view.shared) ∧
        ∃ after : State D → Prop, after view.shared ∧
          protocol.Transacts check answer self note returns ((shown effect.value).getD phase)
            (pending ++ effect.writes) (locks ++ effect.needs D) after (next effect.value)) :
    protocol.Transacts check answer self note returns phase pending locks fact
      (.perform (.statement evaluate) shown next) :=
  .checkedStatement stays abandons fun view time effect good permits stands evaluated _ =>
    runs view time effect good permits stands evaluated

/-- The body draws an identifier. -/
theorem Transacts.randomUUID {shown : Nat → Option L} {next : Nat → Tx D W K ε L α}
    (stays : protocol.Stays locks fact)
    (runs : ∀ view : View L (State D), protocol.Good view → Stands self phase fact view →
      protocol.Moves view (view.answer self (shown view.shared.nextId) view.shared.issue) ∧
        ∃ after : State D → Prop, after view.shared.issue ∧
          protocol.Transacts check answer self note returns
            ((shown view.shared.nextId).getD phase) pending locks after
            (next view.shared.nextId)) :
    protocol.Transacts check answer self note returns phase pending locks fact
      (.perform .randomUUID shown next) := by
  unfold Transacts Tx.statements
  refine Contract.Triple.perform (Knows.stable stays)
    fun before knows inv _ _ _ _ exec => ?_
  simp only [readCommitted, List.map_nil, View.fork_nil]
  obtain ⟨rfl, rfl⟩ := Prod.mk.inj (Option.some.inj exec)
  obtain ⟨moves, after, holds, continues⟩ := runs (seen before) inv.2 knows.stands
  refine ⟨⟨inv.1, moves.good⟩, fun other distinct => keeps_issue before _ moves.shows, by simp, ?_⟩
  exact continues _ ⟨answer_phase knows.phase _ _, knows.pending, knows.locks, holds⟩

/-- The body looks at the clock of the client. -/
theorem Transacts.now {shown : Nat → Option L} {next : Nat → Tx D W K ε L α}
    (stays : protocol.Stays locks fact)
    (runs : ∀ (view : View L (State D)) time, protocol.Good view → Stands self phase fact view →
      protocol.Moves view (view.answer self (shown time) view.shared) ∧
        protocol.Transacts check answer self note returns ((shown time).getD phase) pending locks
          fact (next time)) :
    protocol.Transacts check answer self note returns phase pending locks fact
      (.perform .now shown next) := by
  unfold Transacts Tx.statements
  refine Contract.Triple.perform (Knows.stable stays)
    fun before knows inv _ _ _ _ exec => ?_
  simp only [readCommitted, List.map_nil, View.fork_nil]
  obtain ⟨rfl, rfl⟩ := Prod.mk.inj (Option.some.inj exec)
  obtain ⟨moves, continues⟩ := runs (seen before) before.shared.clock inv.2 knows.stands
  refine ⟨⟨inv.1, moves.good⟩, fun other distinct => keeps_same before _ moves.shows, by simp, ?_⟩
  exact continues _ ⟨answer_phase knows.phase _ _, knows.pending, knows.locks, knows.fact⟩

/-- The rules speak of a statement and the rest of the body. -/
theorem Transacts.of_bind {body : Tx D W K ε L α}
    (transacts : protocol.Transacts check answer self note returns phase pending locks fact
      (body.bind .pure)) :
    protocol.Transacts check answer self note returns phase pending locks fact body :=
  body.bind_pure ▸ transacts

/-! ## The operations of a model -/

section

variable {R : Type} [Mosp.Data.Row R]

/-- A statement that only reads, and the phase it shows. -/
theorem Transacts.readNoting {value : D → β} {shown : Except ε β → Option L}
    {rest : β → Tx D W K ε L α} (stays : protocol.Stays locks fact)
    (abandons : protocol.Abandons self note returns phase fact)
    (runs : ∀ view : View L (State D), protocol.Good view → protocol.Permits self view →
      Stands self phase fact view →
      let found := value (view.shared.write pending).db
      protocol.Moves view (view.answer self (shown (.ok found)) view.shared) ∧
        ∃ after : State D → Prop, after view.shared ∧
          protocol.Transacts check answer self note returns ((shown (.ok found)).getD phase)
            pending locks after (rest found)) :
    protocol.Transacts check answer self note returns phase pending locks fact
      (Program.bind (Program.noting shown (Tx.read value)) rest) := by
  refine Transacts.statement stays abandons fun view time effect good permits stands evaluated => ?_
  obtain rfl := Except.ok.inj evaluated
  obtain ⟨kept, after, holds, continues⟩ := runs view good permits stands
  refine ⟨kept, after, holds, ?_⟩
  simpa [Effect.needs, Program.noting] using continues

/-- A statement that only reads. -/
theorem Transacts.read {value : D → β} {rest : β → Tx D W K ε L α}
    (stays : protocol.Stays locks fact)
    (abandons : protocol.Abandons self note returns phase fact)
    (runs : ∀ view : View L (State D), protocol.Good view → protocol.Permits self view →
      Stands self phase fact view →
      ∃ after : State D → Prop, after view.shared ∧
        protocol.Transacts check answer self note returns phase pending locks after
          (rest (value (view.shared.write pending).db))) :
    protocol.Transacts check answer self note returns phase pending locks fact
      (Program.bind (Tx.read value) rest) := by
  refine Transacts.statement stays abandons fun view time effect good permits stands evaluated => ?_
  obtain rfl := Except.ok.inj evaluated
  obtain ⟨after, holds, continues⟩ := runs view good permits stands
  refine ⟨moves_refl good, after, holds, ?_⟩
  simpa [Effect.needs] using continues

/-- A row that has to be there. -/
theorem Transacts.findFirstOrThrow [DatabaseError ε] {relation : Relation D K R}
    {condition : R → Bool} {rest : R → Tx D W K ε L α} (stays : protocol.Stays locks fact)
    (abandons : protocol.Abandons self note returns phase fact)
    (runs : ∀ (view : View L (State D)) row, protocol.Good view → protocol.Permits self view →
      Stands self phase fact view →
      (relation.table (view.shared.write pending).db).find? condition = some row →
        ∃ after : State D → Prop, after view.shared ∧
          protocol.Transacts check answer self note returns phase pending locks after
            (rest row)) :
    protocol.Transacts check answer self note returns phase pending locks fact
      (Program.bind (relation.findFirstOrThrow condition) rest) := by
  refine Transacts.statement stays abandons fun view time effect good permits stands evaluated => ?_
  split at evaluated
  · contradiction
  rename_i row found
  obtain rfl := Except.ok.inj evaluated
  obtain ⟨after, holds, continues⟩ := runs view row good permits stands found
  refine ⟨moves_refl good, after, holds, ?_⟩
  simpa [Effect.needs] using continues

/-- A row that is created passes the constraints. -/
theorem Transacts.createChecked [DatabaseError ε] {model : Model D W K R} {row : R}
    {rest : R → Tx D W K ε L α} (stays : protocol.Stays locks fact)
    (abandons : protocol.Abandons self note returns phase fact)
    (runs : ∀ (view : View L (State D)) time, protocol.Good view → protocol.Permits self view →
      Stands self phase fact view →
      let created := model.created time row
      (model.table (view.shared.write pending).db).get? (Mosp.Data.Row.id created) = none →
      check ((view.shared.write pending).write [model.put created]).db = none →
        ∃ after : State D → Prop, after view.shared ∧
          protocol.Transacts check answer self note returns phase
            (pending ++ [model.put created]) (locks ++ Database.locks D (model.put created)) after
            (rest created)) :
    protocol.Transacts check answer self note returns phase pending locks fact
      (Program.bind (model.create row) rest) := by
  refine Transacts.checkedStatement stays abandons
    fun view time effect good permits stands evaluated passed => ?_
  simp only at evaluated
  split at evaluated
  · contradiction
  rename_i absent
  obtain rfl := Except.ok.inj evaluated
  obtain ⟨after, holds, continues⟩ := runs view time good permits stands absent (passed (by simp))
  refine ⟨moves_refl good, after, holds, ?_⟩
  simpa [Effect.needs] using continues

theorem Transacts.create [DatabaseError ε] {model : Model D W K R} {row : R} {rest : R → Tx D W K ε L α}
    (stays : protocol.Stays locks fact)
    (abandons : protocol.Abandons self note returns phase fact)
    (runs : ∀ (view : View L (State D)) time, protocol.Good view → protocol.Permits self view →
      Stands self phase fact view →
      let created := model.created time row
      (model.table (view.shared.write pending).db).get? (Mosp.Data.Row.id created) = none →
        ∃ after : State D → Prop, after view.shared ∧
          protocol.Transacts check answer self note returns phase
            (pending ++ [model.put created]) (locks ++ Database.locks D (model.put created)) after
            (rest created)) :
    protocol.Transacts check answer self note returns phase pending locks fact
      (Program.bind (model.create row) rest) :=
  .createChecked stays abandons fun view time good permits stands absent _ =>
    runs view time good permits stands absent

theorem Transacts.update [DatabaseError ε] {model : Model D W K R} {condition : R → Bool}
    {data : R → R} {rest : R → Tx D W K ε L α}
    (stays : protocol.Stays locks fact)
    (abandons : protocol.Abandons self note returns phase fact)
    (runs : ∀ (view : View L (State D)) time row, protocol.Good view →
      protocol.Permits self view → Stands self phase fact view →
      (model.table (view.shared.write pending).db).find? condition = some row →
        let updated := model.updated time (data row)
        ∃ after : State D → Prop, after view.shared ∧
          protocol.Transacts check answer self note returns phase
            (pending ++ [model.put updated]) (locks ++ Database.locks D (model.put updated)) after
            (rest updated)) :
    protocol.Transacts check answer self note returns phase pending locks fact
      (Program.bind (model.update condition data) rest) := by
  refine Transacts.statement stays abandons fun view time effect good permits stands evaluated => ?_
  simp only at evaluated
  split at evaluated
  · contradiction
  rename_i row found
  obtain rfl := Except.ok.inj evaluated
  obtain ⟨after, holds, continues⟩ := runs view time row good permits stands found
  refine ⟨moves_refl good, after, holds, ?_⟩
  simpa [Effect.needs] using continues

theorem Transacts.updateMany {model : Model D W K R} {condition : R → Bool} {data : R → R}
    {rest : Nat → Tx D W K ε L α} (stays : protocol.Stays locks fact)
    (abandons : protocol.Abandons self note returns phase fact)
    (runs : ∀ (view : View L (State D)) time, protocol.Good view → protocol.Permits self view →
      Stands self phase fact view →
      let rows := (model.table (view.shared.write pending).db).filter condition
      let writes := rows.map fun row => model.put (model.updated time (data row))
      ∃ after : State D → Prop, after view.shared ∧
        protocol.Transacts check answer self note returns phase (pending ++ writes)
          (locks ++ writes.flatMap (Database.locks D)) after (rest rows.length)) :
    protocol.Transacts check answer self note returns phase pending locks fact
      (Program.bind (model.updateMany condition data) rest) := by
  refine Transacts.statement stays abandons fun view time effect good permits stands evaluated => ?_
  obtain rfl := Except.ok.inj evaluated
  obtain ⟨after, holds, continues⟩ := runs view time good permits stands
  refine ⟨moves_refl good, after, holds, ?_⟩
  simpa [Effect.needs] using continues

end

/-! ## Between transactions -/

variable {throws : ε → View L (State D) → Prop} {ended : α → View L (State D) → Prop}

/-- A whole transaction. -/
theorem Runs.isolated {body : Tx D W K ε L α} (stays : protocol.Stays [] fact)
    (transacts : protocol.Transacts check answer self note returns phase [] [] fact body) :
    protocol.Runs check answer self phase fact (body.isolated note) returns throws := by
  refine Contract.Triple.perform (Stands.stable stays) fun before stands inv _ _ _ _ exec => ?_
  obtain ⟨rfl, rfl⟩ := Prod.mk.inj (Option.some.inj exec)
  simp only [readCommitted, List.map_nil, View.fork_nil]
  refine ⟨⟨inv.1.rollback self, inv.2⟩, fun other distinct =>
    keeps_rollback distinct before none (protocol.shows_refl _), by simp, ?_⟩
  refine Contract.wp_mono (transacts _ ⟨stands.phase, ?_, by simp, stands.fact⟩)
    (fun _ _ returned => returned) fun _ _ thrown => thrown.elim
  simp

/-- A command that does not reach the database. -/
theorem Runs.outside {command : C β} {shown : β → Option L}
    {next : β → Program (Exchange C D W K ε) L ε α} (stays : protocol.Stays [] fact)
    (runs : ∀ (view : View L (State D)) value, protocol.Good view → Stands self phase fact view →
      protocol.Moves view (view.answer self (shown value) view.shared) ∧
        ∃ after : State D → Prop, after view.shared ∧
          protocol.Runs check answer self ((shown value).getD phase) after (next value) ended
            throws) :
    protocol.Runs check answer self phase fact (.perform (.outside command) shown next) ended
      throws := by
  refine Contract.Triple.perform (Stands.stable stays)
    fun before stands inv choice _ value shared exec => ?_
  simp only [readCommitted, List.map_nil, View.fork_nil]
  obtain ⟨rfl, rfl⟩ := Prod.mk.inj (Option.some.inj exec)
  obtain ⟨moves, after, holds, continues⟩ := runs (seen before) _ inv.2 stands
  refine ⟨⟨inv.1, moves.good⟩, fun other distinct => ⟨rfl, fun _ held => held,
    fun _ _ => Guarded.same_refl _ _, protocol.develops_refl _, moves.shows⟩, by simp, ?_⟩
  exact continues _ ⟨answer_phase stands.phase _ _, holds⟩

/-- The call draws an identifier. -/
theorem Runs.randomUUID {shown : Nat → Option L}
    {next : Nat → Program (Exchange C D W K ε) L ε α} (stays : protocol.Stays [] fact)
    (runs : ∀ view : View L (State D), protocol.Good view → Stands self phase fact view →
      protocol.Moves view (view.answer self (shown view.shared.nextId) view.shared.issue) ∧
        ∃ after : State D → Prop, after view.shared.issue ∧
          protocol.Runs check answer self ((shown view.shared.nextId).getD phase) after
            (next view.shared.nextId) ended throws) :
    protocol.Runs check answer self phase fact (.perform .randomUUID shown next) ended
      throws := by
  refine Contract.Triple.perform (Stands.stable stays) fun before stands inv _ _ _ _ exec => ?_
  simp only [readCommitted, List.map_nil, View.fork_nil]
  obtain ⟨rfl, rfl⟩ := Prod.mk.inj (Option.some.inj exec)
  obtain ⟨moves, after, holds, continues⟩ := runs (seen before) inv.2 stands
  refine ⟨⟨inv.1, moves.good⟩, fun other distinct => keeps_issue before _ moves.shows, by simp, ?_⟩
  exact continues _ ⟨answer_phase stands.phase _ _, holds⟩

/-- The call looks at its clock and shows something. -/
theorem Runs.nowNoting {shown : Nat → Option L} {next : Nat → Program (Exchange C D W K ε) L ε α}
    (stays : protocol.Stays [] fact)
    (runs : ∀ (view : View L (State D)) time, protocol.Good view → Stands self phase fact view →
      protocol.Moves view (view.answer self (shown time) view.shared) ∧
        protocol.Runs check answer self ((shown time).getD phase) fact (next time) ended throws) :
    protocol.Runs check answer self phase fact (.perform .now shown next) ended throws := by
  refine Contract.Triple.perform (Stands.stable stays) fun before stands inv _ _ _ _ exec => ?_
  simp only [readCommitted, List.map_nil, View.fork_nil]
  obtain ⟨rfl, rfl⟩ := Prod.mk.inj (Option.some.inj exec)
  obtain ⟨moves, continues⟩ := runs (seen before) before.shared.clock inv.2 stands
  refine ⟨⟨inv.1, moves.good⟩, fun other distinct => keeps_same before _ moves.shows, by simp, ?_⟩
  exact continues _ ⟨answer_phase stands.phase _ _, stands.fact⟩

/-- The call looks at its clock. -/
theorem Runs.now {next : Nat → Program (Exchange C D W K ε) L ε α}
    (stays : protocol.Stays [] fact)
    (runs : ∀ time, protocol.Runs check answer self phase fact (next time) ended throws) :
    protocol.Runs check answer self phase fact (.perform .now (fun _ => none) next) ended
      throws :=
  .nowNoting stays fun _ time good _ => ⟨moves_refl good, runs time⟩

/-- The call looks at its clock, and goes on. -/
theorem Runs.now_bind {rest : Nat → Program (Exchange C D W K ε) L ε α}
    (stays : protocol.Stays [] fact)
    (runs : ∀ time, protocol.Runs check answer self phase fact (rest time) ended throws) :
    protocol.Runs check answer self phase fact
      (Program.bind (.perform .now (fun _ => none) .pure) rest) ended throws :=
  .now stays runs

/-- A computation that may fail, and what goes on with its result. -/
theorem Runs.ofExcept_bind {value : Except ε β} {rest : β → Program (Exchange C D W K ε) L ε α}
    (runs : ∀ result, protocol.Runs check answer self phase fact (rest result) ended throws)
    (fails : ∀ error view, Stands self phase fact view → throws error view) :
    protocol.Runs check answer self phase fact ((Program.ofExcept value).bind rest) ended
      throws := by
  cases value with
  | ok result => exact runs result
  | error error => exact fun view stands => fails error (seen view) stands

theorem Runs.bind {middle : β → View L (State D) → Prop}
    {program : Program (Exchange C D W K ε) L ε β} {rest : β → Program (Exchange C D W K ε) L ε α}
    (first : protocol.Runs check answer self phase fact program middle throws)
    (second : ∀ value (view : View L (State D)), middle value view →
      ∃ (phase : L) (fact : State D → Prop), Stands self phase fact view ∧
        protocol.Runs check answer self phase fact (rest value) ended throws) :
    protocol.Runs check answer self phase fact (program.bind rest) ended throws := by
  refine Contract.Triple.bind first fun value view reached => ?_
  obtain ⟨phase, fact, stands, runs⟩ := second value (seen view) reached
  exact runs view stands

theorem Runs.pure {value : α}
    (ends : ∀ view, Stands self phase fact view → ended value view) :
    protocol.Runs (C := C) (X := X) check answer self phase fact (.pure value) ended throws :=
  fun view stands => ends (seen view) stands

theorem Runs.throw {error : ε}
    (ends : ∀ view, Stands self phase fact view → throws error view) :
    protocol.Runs (C := C) (X := X) check answer self phase fact (.throw error) ended throws :=
  fun view stands => ends (seen view) stands

/-- A transaction, and what goes on when it has committed. -/
theorem Runs.transact {body : Tx D W K ε L β}
    {rest : β → Program (Exchange C D W K ε) L ε α} {note : Except ε β → Option L}
    {phaseAfter : Except ε β → L} {factAfter : Except ε β → State D → Prop}
    (stays : protocol.Stays [] fact)
    (transacts : protocol.Transacts check answer self note
      (fun result => Stands self (phaseAfter result) (factAfter result)) phase [] [] fact body)
    (continues : ∀ value, protocol.Runs check answer self (phaseAfter (.ok value))
      (factAfter (.ok value)) (rest value) ended throws)
    (fails : ∀ error view,
      Stands self (phaseAfter (.error error)) (factAfter (.error error)) view →
        throws error view) :
    protocol.Runs check answer self phase fact ((body.transact note).bind rest) ended throws := by
  unfold Tx.transact
  rw [Program.bind_assoc]
  refine Runs.bind (Runs.isolated stays transacts) fun result view stands => ?_
  refine ⟨_, _, stands, ?_⟩
  cases result with
  | ok value => exact continues value
  | error error => exact Runs.throw (fails error)

end Protocol

end

end Mosp.Sql
