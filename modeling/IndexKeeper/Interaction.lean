/-!
# Interactions

A program that asks questions of its surroundings and goes on with the answers.  What the questions
are, and what type each has its answer in, is a parameter; a program is the tree of everything it
may ask, so statements about all possible answers are statements about one value.

A program ends after finitely many questions.  `run` answers them from a state and records them;
`realize` answers each question by a program over other questions.
-/

namespace IndexKeeper

/-- A program that asks questions `ε`, each answered in its type, and ends with a value. -/
inductive Program (ε : Type) (answer : ε → Type) (α : Type)
  | done (value : α)
  | ask (question : ε) (next : answer question → Program ε answer α)

namespace Program

variable {ε ε' : Type} {answer : ε → Type} {answer' : ε' → Type} {σ α β : Type}

/-- One program, then another with its value. -/
def bind : Program ε answer α → (α → Program ε answer β) → Program ε answer β
  | done a, f => f a
  | ask q next, f => ask q fun r => bind (next r) f

instance : Monad (Program ε answer) where
  pure := done
  bind := bind

/-- The program that asks one question. -/
def question (q : ε) : Program ε answer (answer q) := ask q done

@[simp] theorem done_bind (a : α) (f : α → Program ε answer β) : (done a >>= f) = f a := rfl

@[simp] theorem pure_eq (a : α) : (pure a : Program ε answer α) = done a := rfl

@[simp] theorem ask_bind (q : ε) (next : answer q → Program ε answer α)
    (f : α → Program ε answer β) : (ask q next >>= f) = ask q fun r => next r >>= f := rfl

theorem bind_assoc {γ : Type} (p : Program ε answer α) (f : α → Program ε answer β)
    (g : β → Program ε answer γ) : (p >>= f) >>= g = p >>= fun a => f a >>= g := by
  induction p with
  | done a => rfl
  | ask q next ih => simp only [ask_bind]; exact congrArg (ask q) (funext ih)

/-! ## Running -/

/-- A run: its value, the state it leaves, and the questions it asked, in order. -/
structure Run (ε σ α : Type) where
  value : α
  state : σ
  asked : List ε

/-- Run a program, each question answered from the state. -/
def run (respond : σ → (q : ε) → answer q × σ) : Program ε answer α → σ → Run ε σ α
  | done a, s => ⟨a, s, []⟩
  | ask q next, s =>
    let (r, s) := respond s q
    let rest := run respond (next r) s
    { rest with asked := q :: rest.asked }

@[simp] theorem run_done (respond : σ → (q : ε) → answer q × σ) (a : α) (s : σ) :
    run respond (done a) s = ⟨a, s, []⟩ := rfl

@[simp] theorem run_ask (respond : σ → (q : ε) → answer q × σ) (q : ε)
    (next : answer q → Program ε answer α) (s : σ) :
    run respond (ask q next) s =
      { run respond (next (respond s q).1) (respond s q).2 with
        asked := q :: (run respond (next (respond s q).1) (respond s q).2).asked } := rfl

theorem run_bind (respond : σ → (q : ε) → answer q × σ) (p : Program ε answer α)
    (f : α → Program ε answer β) (s : σ) :
    run respond (p >>= f) s =
      { run respond (f (run respond p s).value) (run respond p s).state with
        asked := (run respond p s).asked ++
          (run respond (f (run respond p s).value) (run respond p s).state).asked } := by
  induction p generalizing s with
  | done a => rfl
  | ask q next ih => simp [ih]

/-! ## Realizing -/

/-- The same program with each question answered by a program over other questions. -/
def realize (perform : (q : ε) → Program ε' answer' (answer q)) :
    Program ε answer α → Program ε' answer' α
  | done a => done a
  | ask q next => perform q >>= fun r => realize perform (next r)

@[simp] theorem realize_done (perform : (q : ε) → Program ε' answer' (answer q)) (a : α) :
    realize perform (done a : Program ε answer α) = done a := rfl

@[simp] theorem realize_ask (perform : (q : ε) → Program ε' answer' (answer q)) (q : ε)
    (next : answer q → Program ε answer α) :
    realize perform (ask q next) = perform q >>= fun r => realize perform (next r) := rfl

end Program

end IndexKeeper
