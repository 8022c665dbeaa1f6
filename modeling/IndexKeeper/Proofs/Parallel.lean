import IndexKeeper.Interaction

/-!
# Programs in parallel

Two programs are parallel if they ask the same questions, in the same order, whatever the answers
are, and end with related values.  Parallel programs cannot be told apart by what answers them: from
one state they run through the same states and ask the same (`Parallel.run`).  What a program makes
of an input that it only carries along is told by a relation on the values at its end.
-/

namespace IndexKeeper.Program

variable {ε : Type} {answer : ε → Type} {σ α α' β β' : Type}

/-- Two programs ask the same whatever they are answered, and end with related values. -/
inductive Parallel (R : α → α' → Prop) : Program ε answer α → Program ε answer α' → Prop
  | done {a : α} {a' : α'} (h : R a a') : Parallel R (.done a) (.done a')
  | ask (q : ε) {next : answer q → Program ε answer α} {next' : answer q → Program ε answer α'}
      (h : ∀ r, Parallel R (next r) (next' r)) : Parallel R (.ask q next) (.ask q next')

/-- A program is parallel to itself. -/
theorem Parallel.refl (p : Program ε answer α) : Parallel Eq p p := by
  induction p with
  | done a => exact .done rfl
  | ask q next ih => exact .ask q ih

/-- Parallel programs stay so if related values lead to parallel programs. -/
theorem Parallel.bind {R : α → α' → Prop} {S : β → β' → Prop} {p : Program ε answer α}
    {p' : Program ε answer α'} {f : α → Program ε answer β} {f' : α' → Program ε answer β'}
    (h : Parallel R p p') (hf : ∀ a a', R a a' → Parallel S (f a) (f' a')) :
    Parallel S (p >>= f) (p' >>= f') := by
  induction h with
  | done h => exact hf _ _ h
  | ask q h ih => exact .ask q ih

/-- What follows one and the same program may differ. -/
theorem Parallel.bind_left {S : β → β' → Prop} (p : Program ε answer α)
    {f : α → Program ε answer β} {f' : α → Program ε answer β'}
    (hf : ∀ a, Parallel S (f a) (f' a)) : Parallel S (p >>= f) (p >>= f') := by
  refine (Parallel.refl p).bind ?_
  rintro a _ rfl
  exact hf a

/-- Two runs that asked the same and left the same state, with related values. -/
structure SameRun (R : α → α' → Prop) (run : Run ε σ α) (run' : Run ε σ α') : Prop where
  asked : run.asked = run'.asked
  state : run.state = run'.state
  value : R run.value run'.value

/-- Parallel programs have the same runs. -/
theorem Parallel.run {R : α → α' → Prop} {p : Program ε answer α} {p' : Program ε answer α'}
    (h : Parallel R p p') (respond : σ → (q : ε) → answer q × σ) (s : σ) :
    SameRun R (Program.run respond p s) (Program.run respond p' s) := by
  induction h generalizing s with
  | done h => exact ⟨rfl, rfl, h⟩
  | ask q h ih =>
    obtain ⟨hasked, hstate, hvalue⟩ := ih (respond s q).1 (respond s q).2
    rw [run_ask, run_ask]
    exact ⟨congrArg (q :: ·) hasked, hstate, hvalue⟩

end IndexKeeper.Program
