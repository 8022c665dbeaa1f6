import IndexKeeper.Number.Decimal

/-!
# What shortest decimals look like

The shortest decimal of a double ends in no zero (`digits_shortest`), and the one of a whole double
is whole (`exponent_shortest`): a whole double lies on the grid of the integers itself, so the
search never goes to a finer one.
-/

namespace IndexKeeper

namespace Decimal

/-! ## Trailing zeros -/

theorem exponent_dropZeros (fuel n : Nat) (e : Int) : e ≤ (dropZeros fuel n e).exponent := by
  induction fuel generalizing n e with
  | zero => exact Int.le_refl e
  | succ fuel ih =>
    rw [dropZeros]
    split
    · have hrest := ih (n / 10) (e + 1)
      omega
    · exact Int.le_refl e

theorem digits_dropZeros {fuel n : Nat} (hpos : 0 < n) (hfuel : n < Nat.pow 10 fuel) (e : Int) :
    (dropZeros fuel n e).digits % 10 ≠ 0 := by
  induction fuel generalizing n e with
  | zero =>
    have hone : Nat.pow 10 0 = 1 := rfl
    omega
  | succ fuel ih =>
    have hten : Nat.pow 10 (fuel + 1) = Nat.pow 10 fuel * 10 := rfl
    rw [dropZeros]
    split
    · exact ih (by omega) (by omega) (e + 1)
    · assumption

/-! ## The search -/

theorem lt_pow_digitCount (n : Nat) : n < Nat.pow 10 (digitCount n) :=
  (Nat.length_toDigits_le_iff (by decide) Nat.length_toDigits_pos).mp (Nat.le_refl _)

/-- What the first value that gives something gives. -/
theorem findSome?_range_eq_some {α : Type} {f : Nat → Option α} {n : Nat} {b : α}
    (h : (List.range n).findSome? f = some b) : ∃ k < n, f k = some b ∧ ∀ j < k, f j = none := by
  obtain ⟨before, k, after, hrange, hk, hbefore⟩ := List.findSome?_eq_some_iff.mp h
  rw [List.range_eq_range', List.range'_eq_append_iff] at hrange
  obtain ⟨m, _, rfl, hafter⟩ := hrange
  obtain ⟨rfl, hm, _⟩ := List.range'_eq_cons_iff.mp hafter.symm
  refine ⟨_, by omega, hk, fun j hj => hbefore j ?_⟩
  simpa using hj

section Search

variable (halfway : Halfway) (x : Binary64)

/-- The place of the first digit of a double. -/
def firstPlace : Int := place (Interval.of x).value (Interval.of x).den

/-- The digits come from the coarsest grid with a neighbour of the value; they are zero if none of
the seventeen grids has one. -/
theorem shortest_cases :
    (∃ k n, k < 17 ∧
      (Interval.of x).neighbour? halfway (firstPlace x - (k + 1 : Nat)) = some n ∧
      (∀ j < k, (Interval.of x).neighbour? halfway (firstPlace x - (j + 1 : Nat)) = none) ∧
      shortest halfway x = dropZeros (digitCount n) n (firstPlace x - (k + 1 : Nat))) ∨
    shortest halfway x = ⟨0, 1⟩ := by
  rw [shortest]
  simp only [← firstPlace.eq_1]
  cases hfound : (List.range 17).findSome? fun k =>
      ((Interval.of x).neighbour? halfway (firstPlace x - (k + 1 : Nat))).map fun n =>
        (n, firstPlace x - (k + 1 : Nat)) with
  | none => exact Or.inr rfl
  | some found =>
    obtain ⟨n, step⟩ := found
    obtain ⟨k, hk, hstep, hearlier⟩ := findSome?_range_eq_some hfound
    rw [Option.map_eq_some_iff] at hstep
    obtain ⟨_, hn, heq⟩ := hstep
    cases heq
    exact Or.inl ⟨k, _, hk, hn, fun j hj => Option.map_eq_none_iff.mp (hearlier j hj), rfl⟩

end Search

/-! ## Neighbours in an interval -/

theorem Halfway.pick_eq (halfway : Halfway) (n : Nat) :
    halfway.pick n = n ∨ halfway.pick n = n + 1 := by
  cases halfway with
  | toEven =>
    rw [pick]
    split
    · exact Or.inl rfl
    · exact Or.inr rfl
  | up => exact Or.inr rfl

/-- The steps of a grid, as a numerator and a denominator. -/
def grid (step : Int) : Nat × Nat :=
  (if step < 0 then 1 else Nat.pow 10 step.natAbs, if step < 0 then Nat.pow 10 step.natAbs else 1)

theorem grid_den_pos (step : Int) : 0 < (grid step).2 := by
  have hten : 0 < Nat.pow 10 step.natAbs := Nat.pow_pos (by decide)
  rw [grid]
  split
  · exact hten
  · exact Nat.one_pos

namespace Interval

variable {i : Interval} {n num den : Nat} {halfway : Halfway} {step : Int}

/-- The neighbour of the value on a grid of steps `num / den`. -/
def nearest? (i : Interval) (halfway : Halfway) (num den : Nat) : Option Nat :=
  let n := i.value * den / (i.den * num)
  let past := i.value * den % (i.den * num)
  match i.holds n num den, i.holds (n + 1) num den with
  | true, true =>
    if 2 * past < i.den * num then some n
    else if i.den * num < 2 * past then some (n + 1)
    else some (halfway.pick n)
  | true, false => some n
  | false, true => some (n + 1)
  | false, false => none

theorem neighbour?_eq (i : Interval) (halfway : Halfway) (step : Int) :
    i.neighbour? halfway step = i.nearest? halfway (grid step).1 (grid step).2 := rfl

/-- A neighbour lies in the interval. -/
theorem holds_of_nearest? (h : i.nearest? halfway num den = some n) :
    i.holds n num den = true := by
  rw [nearest?] at h
  split at h
  · next hfirst hsecond =>
    split at h
    · cases h
      exact hfirst
    · split at h
      · cases h
        exact hsecond
      · cases h
        rcases halfway.pick_eq (i.value * den / (i.den * num)) with heq | heq
        · rwa [heq]
        · rwa [heq]
  · next hfirst _ =>
    cases h
    exact hfirst
  · next hsecond =>
    cases h
    exact hsecond
  · cases h

/-- Where the nearest number below lies in the interval, there is a neighbour. -/
theorem nearest?_ne_none (h : i.holds (i.value * den / (i.den * num)) num den = true) :
    i.nearest? halfway num den ≠ none := by
  rw [nearest?]
  split
  · split
    · exact Option.some_ne_none _
    · split <;> exact Option.some_ne_none _
  · exact Option.some_ne_none _
  · exact Option.some_ne_none _
  · next hfirst _ => exact absurd (h.symm.trans hfirst) (by decide)

theorem le_of_holds (h : i.holds n num den = true) : i.low * den ≤ n * num * i.den := by
  rw [holds] at h
  split at h
  · simp only [Bool.and_eq_true, decide_eq_true_eq] at h
    exact h.1
  · simp only [Bool.and_eq_true, decide_eq_true_eq] at h
    exact Nat.le_of_lt h.1

/-- What lies between the ends is in the interval, whether these are or not. -/
theorem holds_of_lt (hlow : i.low * den < n * num * i.den) (hhigh : n * num * i.den < i.high * den) :
    i.holds n num den = true := by
  rw [holds]
  split
  · simp only [Bool.and_eq_true, decide_eq_true_eq]
    omega
  · simp only [Bool.and_eq_true, decide_eq_true_eq]
    exact ⟨hlow, hhigh⟩

/-- What lies in an interval of positive numbers is positive. -/
theorem pos_of_neighbour? (hlow : 0 < i.low) (h : i.neighbour? halfway step = some n) :
    0 < n := by
  rw [neighbour?_eq] at h
  have hle := le_of_holds (holds_of_nearest? h)
  have hpos : 0 < i.low * (grid step).2 := Nat.mul_pos hlow (grid_den_pos step)
  refine Nat.pos_of_ne_zero ?_
  rintro rfl
  rw [Nat.zero_mul, Nat.zero_mul] at hle
  omega

/-- A value on the grid of the integers is its own neighbour there. -/
theorem neighbour?_zero (hwhole : i.value % i.den = 0) (hlow : i.low < i.value)
    (hhigh : i.value < i.high) : i.neighbour? halfway 0 ≠ none := by
  have hvalue : i.value / i.den * i.den = i.value :=
    Nat.div_mul_cancel (Nat.dvd_of_mod_eq_zero hwhole)
  have hgrid : grid 0 = (1, 1) := rfl
  rw [neighbour?_eq]
  refine nearest?_ne_none (holds_of_lt ?_ ?_)
  · simpa only [hgrid, Nat.mul_one, hvalue] using hlow
  · simpa only [hgrid, Nat.mul_one, hvalue] using hhigh

end Interval

/-! ## The interval of a double -/

theorem scaled_fst (n : Nat) (e : Int) :
    (Binary64.scaled n e).1 = n * (Binary64.scaled 1 e).1 := by
  rw [Binary64.scaled, Binary64.scaled]
  split <;> simp

theorem scaled_one_pos (e : Int) : 0 < (Binary64.scaled 1 e).1 := by
  have htwo : 0 < Nat.pow 2 e.natAbs := Nat.pow_pos (by decide)
  rw [Binary64.scaled]
  split
  · exact Nat.one_pos
  · exact Nat.mul_pos Nat.one_pos htwo

section Interval

variable {x : Binary64}

/-- A whole value is a multiple of the denominator of its interval. -/
theorem value_mod_den (hwhole : x.toInt? ≠ none) :
    (Interval.of x).value % (Interval.of x).den = 0 := by
  have hmod : x.ratio.1 % x.ratio.2 = 0 := by
    rw [Binary64.toInt?] at hwhole
    split at hwhole
    · assumption
    · exact absurd rfl hwhole
  -- the interval is written in quarters of the steps of the double
  have hvalue : (Interval.of x).value =
      (Binary64.scaled (4 * x.significand) (x.exponent - 2)).1 := rfl
  have hden : (Interval.of x).den = (Binary64.scaled 1 (x.exponent - 2)).2 := rfl
  rw [hvalue, hden]
  rw [Binary64.ratio] at hmod
  rcases Int.lt_or_le x.exponent 0 with hneg | hnonneg
  · have hpow : Nat.pow 2 (x.exponent - 2).natAbs = 4 * Nat.pow 2 x.exponent.natAbs := by
      have habs : (x.exponent - 2).natAbs = x.exponent.natAbs + 2 := by omega
      rw [habs]
      exact (Nat.pow_add 2 _ 2).trans (Nat.mul_comm _ 4)
    rw [Binary64.scaled, if_pos hneg] at hmod
    rw [Binary64.scaled, Binary64.scaled, if_pos (by omega), if_pos (by omega), hpow,
      Nat.mul_mod_mul_left, hmod]
  · rcases Int.lt_or_le x.exponent 2 with hsmall | hlarge
    · have hdvd : Nat.pow 2 (x.exponent - 2).natAbs ∣ 4 := by
        have hcases : x.exponent = 0 ∨ x.exponent = 1 := by omega
        rcases hcases with h | h <;> rw [h] <;> decide
      rw [Binary64.scaled, Binary64.scaled, if_pos (by omega), if_pos (by omega)]
      exact Nat.mod_eq_zero_of_dvd (Nat.dvd_mul_right_of_dvd hdvd _)
    · rw [Binary64.scaled, Binary64.scaled, if_neg (by omega), if_neg (by omega), Nat.mod_one]

variable (hx : 0 < x.significand)
include hx

/-- The value lies within the interval, and the interval above zero. -/
theorem Interval.of_bounds :
    0 < (of x).low ∧ (of x).low < (of x).value ∧ (of x).value < (of x).high := by
  have hscale := scaled_one_pos (x.exponent - 2)
  rw [of]
  simp only [scaled_fst (4 * x.significand - _), scaled_fst (4 * x.significand),
    scaled_fst (4 * x.significand + 2)]
  refine ⟨Nat.mul_pos ?_ hscale, Nat.mul_lt_mul_of_pos_right ?_ hscale,
    Nat.mul_lt_mul_of_pos_right ?_ hscale⟩
  · split <;> omega
  · split <;> omega
  · omega

/-- The digits of a fraction end in no zero. -/
theorem digits_shortest (halfway : Halfway) (h : (shortest halfway x).exponent < 0) :
    (shortest halfway x).digits % 10 ≠ 0 := by
  rcases shortest_cases halfway x with ⟨k, n, _, hn, _, heq⟩ | heq
  · rw [heq]
    have hpos := Interval.pos_of_neighbour? (Interval.of_bounds hx).1 hn
    exact digits_dropZeros hpos (lt_pow_digitCount n) _
  · rw [heq] at h
    cases h

theorem exponent_shortest (halfway : Halfway) (hwhole : x.toInt? ≠ none) :
    0 ≤ (shortest halfway x).exponent := by
  have hmod := value_mod_den hwhole
  obtain ⟨_, hlow, hhigh⟩ := Interval.of_bounds hx
  have hplace : 1 ≤ firstPlace x := by
    have hle : (Interval.of x).den ≤ (Interval.of x).value :=
      Nat.le_of_dvd (by omega) (Nat.dvd_of_mod_eq_zero hmod)
    have hcount : 0 < digitCount ((Interval.of x).value / (Interval.of x).den) :=
      Nat.length_toDigits_pos
    rw [firstPlace, place, if_pos hle]
    omega
  rcases shortest_cases halfway x with ⟨k, n, _, _, hearlier, heq⟩ | heq
  · have hstep : 0 ≤ firstPlace x - (k + 1 : Nat) := by
      -- a finer grid is tried only after that of the integers, which has the value on it
      refine Int.not_lt.mp fun hfine => ?_
      have hinteger := hearlier (firstPlace x - 1).toNat (by omega)
      have hzero : firstPlace x - ((firstPlace x - 1).toNat + 1 : Nat) = 0 := by omega
      rw [hzero] at hinteger
      exact Interval.neighbour?_zero hmod hlow hhigh hinteger
    rw [heq]
    exact Int.le_trans hstep (exponent_dropZeros _ _ _)
  · rw [heq]
    decide

end Interval

end Decimal

end IndexKeeper
