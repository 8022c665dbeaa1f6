import IndexKeeper.Proofs.Interaction

/-!
# Transcripts of realizations

A realized program asks, for each question of the program, what the program over the other
questions asks.  So its transcripts are those of the program with each exchange spelled out:
`Realized` relates the two, and `ends_realize_iff` says that these are all transcripts.  What was
asked of the one surroundings is found in the other by `Realized.exists_of_mem` and
`Realized.exists_of_mem_spelled`.
-/

namespace IndexKeeper.Program

variable {ε ε' : Type} {answer : ε → Type} {answer' : ε' → Type} {α : Type}

/-- A transcript, and the one in which each of its exchanges is spelled out by the program that
performs it. -/
inductive Realized (perform : (q : ε) → Program ε' answer' (answer q)) :
    List (Exchange ε answer) → List (Exchange ε' answer') → Prop
  | nil : Realized perform [] []
  | cons {x : Exchange ε answer} {t : List (Exchange ε answer)}
      {part u : List (Exchange ε' answer')} (hpart : Ends (perform x.question) part x.response)
      (rest : Realized perform t u) : Realized perform (x :: t) (part ++ u)

variable {perform : (q : ε) → Program ε' answer' (answer q)}

/-- The transcripts of a realized program are those of the program, spelled out. -/
theorem ends_realize_iff {p : Program ε answer α} {u : List (Exchange ε' answer')} {a : α} :
    Ends (p.realize perform) u a ↔ ∃ t, Ends p t a ∧ Realized perform t u := by
  induction p generalizing u with
  | done b =>
    rw [realize_done, ends_done_iff]
    constructor
    · rintro ⟨rfl, rfl⟩
      exact ⟨[], .done _, .nil⟩
    · rintro ⟨t, hends, hrealized⟩
      obtain ⟨rfl, rfl⟩ := ends_done_iff.mp hends
      cases hrealized
      exact ⟨rfl, rfl⟩
  | ask q next ih =>
    rw [realize_ask, ends_bind_iff]
    constructor
    · rintro ⟨part, r, rest, rfl, hpart, hrest⟩
      obtain ⟨t, hends, hrealized⟩ := (ih r).mp hrest
      exact ⟨⟨q, r⟩ :: t, .ask r hends, .cons hpart hrealized⟩
    · rintro ⟨t, hends, hrealized⟩
      obtain ⟨r, tail, rfl, htail⟩ := ends_ask_iff.mp hends
      cases hrealized with
      | cons hpart hrest => exact ⟨_, r, _, rfl, hpart, (ih r).mpr ⟨tail, htail, hrest⟩⟩

@[simp] theorem realized_nil_iff {u : List (Exchange ε' answer')} :
    Realized perform [] u ↔ u = [] := by
  constructor
  · intro h
    cases h
    rfl
  · rintro rfl
    exact .nil

theorem realized_cons_iff {x : Exchange ε answer} {t : List (Exchange ε answer)}
    {w : List (Exchange ε' answer')} :
    Realized perform (x :: t) w ↔
      ∃ part u, w = part ++ u ∧ Ends (perform x.question) part x.response ∧
        Realized perform t u := by
  constructor
  · intro h
    cases h with
    | cons hpart rest => exact ⟨_, _, rfl, hpart, rest⟩
  · rintro ⟨part, u, rfl, hpart, rest⟩
    exact .cons hpart rest

theorem realized_append_iff {t t' : List (Exchange ε answer)} {w : List (Exchange ε' answer')} :
    Realized perform (t ++ t') w ↔
      ∃ u u', w = u ++ u' ∧ Realized perform t u ∧ Realized perform t' u' := by
  induction t generalizing w with
  | nil =>
    constructor
    · intro h
      exact ⟨[], w, rfl, .nil, h⟩
    · rintro ⟨u, u', rfl, hu, hu'⟩
      obtain rfl := realized_nil_iff.mp hu
      exact hu'
  | cons x rest ih =>
    rw [List.cons_append, realized_cons_iff]
    constructor
    · rintro ⟨part, tail, rfl, hpart, htail⟩
      obtain ⟨u, u', rfl, hu, hu'⟩ := ih.mp htail
      exact ⟨part ++ u, u', (List.append_assoc part u u').symm, .cons hpart hu, hu'⟩
    · rintro ⟨u, u', rfl, hu, hu'⟩
      obtain ⟨part, tail, rfl, hpart, htail⟩ := realized_cons_iff.mp hu
      exact ⟨part, tail ++ u', List.append_assoc part tail u', hpart, ih.mpr ⟨_, _, rfl, htail, hu'⟩⟩

/-- What a realized program asked belongs to an exchange of the program. -/
theorem Realized.exists_of_mem_spelled {t : List (Exchange ε answer)}
    {u : List (Exchange ε' answer')} (h : Realized perform t u) {y : Exchange ε' answer'}
    (hy : y ∈ u) :
    ∃ x ∈ t, ∃ part, Ends (perform x.question) part x.response ∧ y ∈ part := by
  induction h with
  | nil => cases hy
  | @cons x t part u hpart rest ih =>
    rcases List.mem_append.mp hy with hmem | hmem
    · exact ⟨x, List.mem_cons_self, part, hpart, hmem⟩
    · obtain ⟨x', hx', part', hpart', hmem'⟩ := ih hmem
      exact ⟨x', List.mem_cons_of_mem x hx', part', hpart', hmem'⟩

/-- Each exchange of a program is spelled out in what the realized program asked. -/
theorem Realized.exists_of_mem {t : List (Exchange ε answer)} {u : List (Exchange ε' answer')}
    (h : Realized perform t u) {x : Exchange ε answer} (hx : x ∈ t) :
    ∃ part, Ends (perform x.question) part x.response ∧ ∀ y ∈ part, y ∈ u := by
  induction h with
  | nil => cases hx
  | @cons x' t part u hpart rest ih =>
    rcases List.mem_cons.mp hx with rfl | hmem
    · exact ⟨part, hpart, fun y hy => List.mem_append_left u hy⟩
    · obtain ⟨part', hpart', hsub⟩ := ih hmem
      exact ⟨part', hpart', fun y hy => List.mem_append_right part (hsub y hy)⟩

end IndexKeeper.Program
