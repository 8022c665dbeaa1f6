import IndexKeeper.Interaction

/-!
# Transcripts

A transcript lists the questions that a program asked with the answers they got.  `Ends` says that a
program can go along a transcript to a value: a statement about all transcripts of a program is a
statement about every way in which its surroundings may answer.  `Answered` says that the answers of
a transcript are those that are given from a state; a run goes along such a transcript
(`exists_transcript`), so what holds of all transcripts holds of every run.
-/

namespace IndexKeeper.Program

variable {ε : Type} {answer : ε → Type} {σ α β : Type}

/-- A question with the answer it got. -/
structure Exchange (ε : Type) (answer : ε → Type) where
  question : ε
  response : answer question

/-! ## The transcripts of a program -/

/-- A program that is answered along a transcript ends with a value. -/
inductive Ends : Program ε answer α → List (Exchange ε answer) → α → Prop
  | done (a : α) : Ends (.done a) [] a
  | ask {q : ε} {next : answer q → Program ε answer α} {t : List (Exchange ε answer)} {a : α}
      (r : answer q) (rest : Ends (next r) t a) : Ends (.ask q next) (⟨q, r⟩ :: t) a

@[simp] theorem ends_done_iff {a b : α} {t : List (Exchange ε answer)} :
    Ends (done a) t b ↔ t = [] ∧ b = a := by
  constructor
  · intro h
    cases h
    exact ⟨rfl, rfl⟩
  · rintro ⟨rfl, rfl⟩
    exact .done _

theorem ends_ask_iff {q : ε} {next : answer q → Program ε answer α}
    {t : List (Exchange ε answer)} {a : α} :
    Ends (ask q next) t a ↔ ∃ r rest, t = ⟨q, r⟩ :: rest ∧ Ends (next r) rest a := by
  constructor
  · intro h
    cases h with
    | ask r rest => exact ⟨r, _, rfl, rest⟩
  · rintro ⟨r, rest, rfl, h⟩
    exact .ask r h

/-- A transcript of one program and then another is a transcript of the one and then one of the
other. -/
theorem ends_bind_iff {p : Program ε answer α} {f : α → Program ε answer β}
    {t : List (Exchange ε answer)} {b : β} :
    Ends (p >>= f) t b ↔
      ∃ first a rest, t = first ++ rest ∧ Ends p first a ∧ Ends (f a) rest b := by
  induction p generalizing t with
  | done a =>
    rw [done_bind]
    constructor
    · intro h
      exact ⟨[], a, t, rfl, .done a, h⟩
    · rintro ⟨first, a', rest, rfl, hfirst, hrest⟩
      obtain ⟨rfl, rfl⟩ := ends_done_iff.mp hfirst
      exact hrest
  | ask q next ih =>
    rw [ask_bind, ends_ask_iff]
    constructor
    · rintro ⟨r, tail, rfl, h⟩
      obtain ⟨first, a, rest, rfl, hfirst, hrest⟩ := (ih r).mp h
      -- the first question belongs to the first program
      exact ⟨⟨q, r⟩ :: first, a, rest, rfl, .ask r hfirst, hrest⟩
    · rintro ⟨first, a, rest, rfl, hfirst, hrest⟩
      obtain ⟨r, tail, rfl, htail⟩ := ends_ask_iff.mp hfirst
      exact ⟨r, tail ++ rest, rfl, (ih r).mpr ⟨tail, a, rest, rfl, htail, hrest⟩⟩

/-- A program that goes on by naming a value asks no more. -/
theorem ends_map_iff {p : Program ε answer α} {g : α → β} {t : List (Exchange ε answer)} {b : β} :
    Ends (p >>= fun a => done (g a)) t b ↔ ∃ a, Ends p t a ∧ b = g a := by
  rw [ends_bind_iff]
  constructor
  · rintro ⟨first, a, rest, rfl, hfirst, hrest⟩
    obtain ⟨rfl, rfl⟩ := ends_done_iff.mp hrest
    rw [List.append_nil]
    exact ⟨a, hfirst, rfl⟩
  · rintro ⟨a, h, rfl⟩
    exact ⟨t, a, [], (List.append_nil t).symm, h, .done _⟩

/-- The answers decide the value: of two transcripts of a program that one list of exchanges starts
with, neither goes on where the other ends. -/
theorem Ends.eq_of_append {p : Program ε answer α} {t t' u u' : List (Exchange ε answer)}
    {a a' : α} (h : Ends p t a) (h' : Ends p t' a') (heq : t ++ u = t' ++ u') :
    t = t' ∧ a = a' := by
  induction h generalizing t' with
  | done a =>
    obtain ⟨rfl, rfl⟩ := ends_done_iff.mp h'
    exact ⟨rfl, rfl⟩
  | ask r rest ih =>
    obtain ⟨r', rest', rfl, hrest'⟩ := ends_ask_iff.mp h'
    rw [List.cons_append, List.cons_append, List.cons.injEq] at heq
    obtain ⟨hhead, htail⟩ := heq
    cases hhead
    obtain ⟨rfl, rfl⟩ := ih hrest' htail
    exact ⟨rfl, rfl⟩

/-! ## Answers from a state -/

/-- The questions of a transcript, asked in order from a state, get the answers it lists and leave
a state. -/
inductive Answered (respond : σ → (q : ε) → answer q × σ) :
    σ → List (Exchange ε answer) → σ → Prop
  | nil (s : σ) : Answered respond s [] s
  | cons {s s' : σ} {t : List (Exchange ε answer)} (q : ε)
      (rest : Answered respond (respond s q).2 t s') :
      Answered respond s (⟨q, (respond s q).1⟩ :: t) s'

variable {respond : σ → (q : ε) → answer q × σ}

@[simp] theorem answered_nil_iff {s s' : σ} : Answered respond s [] s' ↔ s' = s := by
  constructor
  · intro h
    cases h
    rfl
  · rintro rfl
    exact .nil _

theorem answered_cons_iff {s s' : σ} {q : ε} {r : answer q} {t : List (Exchange ε answer)} :
    Answered respond s (⟨q, r⟩ :: t) s' ↔
      (respond s q).1 = r ∧ Answered respond (respond s q).2 t s' := by
  constructor
  · intro h
    cases h with
    | cons _ rest => exact ⟨rfl, rest⟩
  · rintro ⟨rfl, h⟩
    exact .cons q h

theorem answered_append_iff {s s' : σ} {t u : List (Exchange ε answer)} :
    Answered respond s (t ++ u) s' ↔ ∃ mid, Answered respond s t mid ∧
      Answered respond mid u s' := by
  induction t generalizing s with
  | nil => simp
  | cons x rest ih =>
    obtain ⟨q, r⟩ := x
    rw [List.cons_append, answered_cons_iff, ih]
    constructor
    · rintro ⟨hr, mid, hrest, hu⟩
      exact ⟨mid, answered_cons_iff.mpr ⟨hr, hrest⟩, hu⟩
    · rintro ⟨mid, hrest, hu⟩
      obtain ⟨hr, hrest⟩ := answered_cons_iff.mp hrest
      exact ⟨hr, mid, hrest, hu⟩

/-- What no exchange of a transcript changes is as it was when all are done. -/
theorem Answered.preserves {motive : σ → Prop} {t : List (Exchange ε answer)} {s s' : σ}
    (h : Answered respond s t s')
    (hstep : ∀ x ∈ t, ∀ s, motive s → motive (respond s x.question).2) (hs : motive s) :
    motive s' := by
  induction h with
  | nil s => exact hs
  | cons q rest ih =>
    refine ih ?_ (hstep _ List.mem_cons_self _ hs)
    intro x hx
    exact hstep x (List.mem_cons_of_mem _ hx)

/-- A run goes along a transcript with the answers that the states give. -/
theorem exists_transcript (respond : σ → (q : ε) → answer q × σ) (p : Program ε answer α)
    (s : σ) :
    ∃ t, Ends p t (run respond p s).value ∧ Answered respond s t (run respond p s).state ∧
      (run respond p s).asked = t.map Exchange.question := by
  induction p generalizing s with
  | done a => exact ⟨[], .done a, .nil s, rfl⟩
  | ask q next ih =>
    obtain ⟨t, hends, hanswered, hasked⟩ := ih (respond s q).1 (respond s q).2
    refine ⟨⟨q, (respond s q).1⟩ :: t, .ask _ hends, .cons q hanswered, ?_⟩
    rw [run_ask, hasked, List.map_cons]

/-- The answers decide the run: where they are those of a transcript of the program, the run asks
the questions of this transcript and ends as it does. -/
theorem run_eq_of_ends {p : Program ε answer α} {t : List (Exchange ε answer)} {a : α}
    {s s' : σ} (hends : Ends p t a) (hanswered : Answered respond s t s') :
    run respond p s = ⟨a, s', t.map Exchange.question⟩ := by
  induction hends generalizing s with
  | done a =>
    obtain rfl := answered_nil_iff.mp hanswered
    rfl
  | ask r rest ih =>
    obtain ⟨rfl, hrest⟩ := answered_cons_iff.mp hanswered
    rw [run_ask, ih hrest, List.map_cons]

end IndexKeeper.Program
