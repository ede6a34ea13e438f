import Mosp.Concurrency.Pool

/-!
# A program on its own

What a program does when no other call takes a step.  The scheduler still
chooses how its commands turn out.  A program always ends, so what holds of all
its ends says everything about it.
-/

namespace Mosp.Concurrency

universe u

namespace Program

variable {C : Type → Type u} {L ε σ ι α β : Type}

section

variable (machine : Machine C L ε σ ι) (may : {β : Type} → C β → ι → Prop) (self : Nat)

/-- Every command of the program can run, whatever is chosen for it within what
may be chosen, and the program ends where `ends` holds. -/
def Ends : Program C L ε α → (Except ε α → σ → Prop) → σ → Prop
  | .pure value, ends, shared => ends (.ok value) shared
  | .throw error, ends, shared => ends (.error error) shared
  | .perform command _ next, ends, shared => ∀ choice, may command choice →
      ∃ answer after, machine.exec self command choice shared = some (answer, after) ∧
        Ends (next answer) ends after

end

variable {machine : Machine C L ε σ ι} {may : {β : Type} → C β → ι → Prop} {self : Nat}
  {ends ends' : Except ε α → σ → Prop} {shared : σ}

theorem Ends.mono {program : Program C L ε α} (holds : program.Ends machine may self ends shared)
    (weaker : ∀ result after, ends result after → ends' result after) :
    program.Ends machine may self ends' shared := by
  induction program generalizing shared with
  | pure value => exact weaker _ _ holds
  | throw error => exact weaker _ _ holds
  | perform command note next ih =>
      intro choice chosen
      obtain ⟨answer, after, exec, rest⟩ := holds choice chosen
      exact ⟨answer, after, exec, ih answer rest⟩

/-- A program ends in one way for each choice. -/
theorem Ends.both {program : Program C L ε α} (first : program.Ends machine may self ends shared)
    (second : program.Ends machine may self ends' shared) :
    program.Ends machine may self (fun result after => ends result after ∧ ends' result after)
      shared := by
  induction program generalizing shared with
  | pure value => exact ⟨first, second⟩
  | throw error => exact ⟨first, second⟩
  | perform command note next ih =>
      intro choice chosen
      obtain ⟨answer, after, exec, rest⟩ := first choice chosen
      obtain ⟨other, later, execAgain, restAgain⟩ := second choice chosen
      obtain ⟨rfl, rfl⟩ := Prod.mk.inj (Option.some.inj (exec.symm.trans execAgain))
      exact ⟨answer, after, exec, ih answer rest restAgain⟩

/-- A program that can be run has an end. -/
theorem Ends.exists {program : Program C L ε α}
    (possible : ∀ {β : Type} (command : C β), ∃ choice, may command choice)
    (holds : program.Ends machine may self ends shared) : ∃ result after, ends result after := by
  induction program generalizing shared with
  | pure value => exact ⟨_, _, holds⟩
  | throw error => exact ⟨_, _, holds⟩
  | perform command note next ih =>
      obtain ⟨choice, chosen⟩ := possible command
      obtain ⟨answer, after, exec, rest⟩ := holds choice chosen
      exact ih answer rest

theorem ends_bind {program : Program C L ε β} {rest : β → Program C L ε α} :
    (program.bind rest).Ends machine may self ends shared ↔
      program.Ends machine may self (fun result after =>
        match result with
        | .ok value => (rest value).Ends machine may self ends after
        | .error error => ends (.error error) after) shared := by
  induction program generalizing shared with
  | pure value => exact Iff.rfl
  | throw error => exact Iff.rfl
  | perform command note next ih => simp only [perform_bind, Ends, ih]

theorem ends_catchWith {program : Program C L ε α} {handler : ε → Program C L ε α} :
    (program.catchWith handler).Ends machine may self ends shared ↔
      program.Ends machine may self (fun result after =>
        match result with
        | .ok value => ends (.ok value) after
        | .error error => (handler error).Ends machine may self ends after) shared := by
  induction program generalizing shared with
  | pure value => exact Iff.rfl
  | throw error => exact Iff.rfl
  | perform command note next ih => simp only [catchWith, Ends, ih]

theorem ends_ofExcept {value : Except ε α} :
    (ofExcept value).Ends machine may self ends shared ↔ ends value shared := by
  cases value <;> exact Iff.rfl

/-- Notes change nothing about what a program does. -/
theorem ends_noting {program : Program C L ε α} {note : Except ε α → Option L} :
    (program.noting note).Ends machine may self ends shared ↔
      program.Ends machine may self ends shared := by
  induction program generalizing shared with
  | pure value => exact Iff.rfl
  | throw error => exact Iff.rfl
  | perform command old next ih => simp only [noting, Ends, ih]

/-- Ignoring the outcome. -/
theorem ends_swallow {program : Program C L ε β} {ends : Except ε Unit → σ → Prop}
    (holds : program.Ends machine may self (fun _ after => ends (.ok ()) after) shared) :
    program.swallow.Ends machine may self ends shared := by
  unfold swallow
  rw [ends_catchWith, ends_bind]
  refine holds.mono fun result after reached => ?_
  cases result <;> exact reached

/-! ## One run -/

/-- Run a program with these choices, if there are enough of them. -/
def follow (machine : Machine C L ε σ ι) (self : Nat) :
    Program C L ε α → List ι → σ → Option (Except ε α × σ)
  | .pure value, _, shared => some (.ok value, shared)
  | .throw error, _, shared => some (.error error, shared)
  | .perform _ _ _, [], _ => none
  | .perform command _ next, choice :: rest, shared =>
      (machine.exec self command choice shared).bind fun answered =>
        (next answered.1).follow machine self rest answered.2

/-- A run ends where the program always ends. -/
theorem Ends.follow {program : Program C L ε α} {choices : List ι} {result : Except ε α}
    {after : σ} (holds : program.Ends machine (fun _ _ => True) self ends shared)
    (ran : program.follow machine self choices shared = some (result, after)) :
    ends result after := by
  induction program generalizing choices shared with
  | pure value =>
      obtain ⟨rfl, rfl⟩ := Prod.mk.inj (Option.some.inj ran)
      exact holds
  | throw error =>
      obtain ⟨rfl, rfl⟩ := Prod.mk.inj (Option.some.inj ran)
      exact holds
  | perform command note next ih =>
      cases choices with
      | nil => contradiction
      | cons choice rest =>
          obtain ⟨answer, between, exec, goesOn⟩ := holds choice trivial
          simp only [Program.follow, exec, Option.bind_some] at ran
          exact ih answer goesOn ran

end Program

end Mosp.Concurrency
