/-!
# Digits

Digits of a base up to sixteen, letters of either case, and the numbers that they give.
-/

namespace IndexKeeper

/-- The value of a digit of a base. -/
def digitValue? (base : Nat) (c : Char) : Option Nat :=
  let value :=
    if '0' ≤ c ∧ c ≤ '9' then c.toNat - 48
    else if 'a' ≤ c ∧ c ≤ 'f' then c.toNat - 87
    else if 'A' ≤ c ∧ c ≤ 'F' then c.toNat - 55
    else base
  if value < base then some value else none

/-- The number that digits of a base give; no digits give zero. -/
def digitsValue? (base : Nat) (cs : List Char) : Option Nat :=
  cs.foldlM (fun n c => (digitValue? base c).map (n * base + ·)) 0

/-- The number that one or more digits of a base give. -/
def numeral? (base : Nat) : List Char → Option Nat
  | [] => none
  | cs => digitsValue? base cs

end IndexKeeper
