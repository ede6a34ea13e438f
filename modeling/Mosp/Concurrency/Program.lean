import Mathlib.Tactic.TypeStar

/-!
# Sequential programs over atomic commands

A program is a tree of atomic commands: it returns, throws, or performs one
command and continues with the answer.  Nothing here fixes what a command
does; a machine interprets the commands one at a time, so that several
programs can be interleaved between any two of them.

A command may carry a note.  When the command answers, the note replaces the
publicly visible phase of the call that performed it.  Phases are read by
statements about runs and by no program.
-/

namespace Mosp.Concurrency

universe u

/-- A sequential program over commands `C`, with phases `L`, errors `ε` and
result `α`. -/
inductive Program (C : Type → Type u) (L ε α : Type) : Type (max 1 u) where
  | pure (value : α) : Program C L ε α
  | throw (error : ε) : Program C L ε α
  | perform {β : Type} (command : C β) (note : β → Option L)
      (next : β → Program C L ε α) : Program C L ε α

namespace Program

variable {C : Type → Type u} {L ε α β γ : Type}

/-- Run one program and continue with its result; an error skips the rest. -/
def bind : Program C L ε α → (α → Program C L ε β) → Program C L ε β
  | .pure value, rest => rest value
  | .throw error, _ => .throw error
  | .perform command note next, rest =>
      .perform command note fun answer => (next answer).bind rest

/-- Run one program and hand an error to the handler. -/
def catchWith : Program C L ε α → (ε → Program C L ε α) → Program C L ε α
  | .pure value, _ => .pure value
  | .throw error, handler => handler error
  | .perform command note next, handler =>
      .perform command note fun answer => (next answer).catchWith handler

instance : Monad (Program C L ε) where
  pure := .pure
  bind := bind

instance : MonadExceptOf ε (Program C L ε) where
  throw := .throw
  tryCatch := catchWith

/-- Ignore the result and every error of a program. -/
def swallow (program : Program C L ε α) : Program C L ε Unit :=
  (program.bind fun _ => .pure ()).catchWith fun _ => .pure ()

/-- Run the cleanup after the program, whether it returns or throws.  An error
of the cleanup replaces the outcome of the program. -/
def ensuring (program : Program C L ε α) (cleanup : Program C L ε Unit) : Program C L ε α :=
  (program.catchWith fun error => cleanup.bind fun _ => .throw error).bind fun value =>
    cleanup.bind fun _ => .pure value

/-- Show a phase from the moment the program ends: the note goes to the last
command it performs. -/
def noting (note : Except ε α → Option L) : Program C L ε α → Program C L ε α
  | .pure value => .pure value
  | .throw error => .throw error
  | .perform command old next =>
      .perform command
        (fun answer => match next answer with
          | .pure value => note (.ok value)
          | .throw error => note (.error error)
          | _ => old answer)
        fun answer => (next answer).noting note

/-- Throw an error under a condition. -/
def throwIf (condition : Prop) [Decidable condition] (error : ε) : Program C L ε Unit :=
  if condition then .throw error else .pure ()

/-- Run a program under a condition. -/
def runIf (condition : Prop) [Decidable condition] (program : Program C L ε Unit) :
    Program C L ε Unit :=
  if condition then program else .pure ()

/-- Lift a pure computation that may fail. -/
def ofExcept : Except ε α → Program C L ε α
  | .ok value => .pure value
  | .error error => .throw error

/-- Run a program for every element of a list, in order. -/
def forEach (items : List α) (body : α → Program C L ε Unit) : Program C L ε Unit :=
  match items with
  | [] => .pure ()
  | item :: rest => (body item).bind fun _ => forEach rest body

@[simp]
theorem pure_eq (value : α) : (Pure.pure value : Program C L ε α) = .pure value :=
  rfl

@[simp]
theorem bind_eq (program : Program C L ε α) (rest : α → Program C L ε β) :
    program >>= rest = program.bind rest :=
  rfl

@[simp]
theorem map_eq (function : α → β) (program : Program C L ε α) :
    function <$> program = program.bind fun value => .pure (function value) :=
  rfl

@[simp]
theorem throw_eq (error : ε) : (MonadExcept.throw error : Program C L ε α) = .throw error :=
  rfl

@[simp]
theorem tryCatch_eq (program : Program C L ε α) (handler : ε → Program C L ε α) :
    tryCatch program handler = program.catchWith handler :=
  rfl

@[simp]
theorem pure_bind (value : α) (rest : α → Program C L ε β) :
    (Program.pure value : Program C L ε α).bind rest = rest value :=
  rfl

@[simp]
theorem throw_bind (error : ε) (rest : α → Program C L ε β) :
    (Program.throw error : Program C L ε α).bind rest = .throw error :=
  rfl

@[simp]
theorem perform_bind (command : C γ) (note : γ → Option L) (next : γ → Program C L ε α)
    (rest : α → Program C L ε β) :
    (Program.perform command note next).bind rest =
      .perform command note fun answer => (next answer).bind rest :=
  rfl

theorem bind_pure (program : Program C L ε α) : program.bind .pure = program := by
  induction program with
  | pure value => rfl
  | throw error => rfl
  | perform command note next ih => exact congrArg (perform command note) (funext ih)

theorem bind_assoc {δ : Type} (program : Program C L ε γ) (rest : γ → Program C L ε α)
    (last : α → Program C L ε δ) :
    (program.bind rest).bind last = program.bind fun value => (rest value).bind last := by
  induction program with
  | pure value => rfl
  | throw error => rfl
  | perform command note next ih => exact congrArg (perform command note) (funext ih)

end Program

end Mosp.Concurrency
