/-!
# Numbers of values

A number is a binary64: not-a-number, an infinity, or a finite value. Every finite binary64 is an
integer multiple of `2⁻¹⁰⁷⁴`, so a finite number is that integer, its *units*. Order and equality
are then those of the integers, rounding is one division of natural numbers, and no statement
about numbers needs floating-point arithmetic.

The integers that occur are those with at most 53 significant bits and below `2²⁰⁹⁸`, the bound
that `2¹⁰²⁴` becomes in units. There is one zero: no operation of the library tells two of them
apart.
-/

namespace FlowRouting

/-- The number of units in one. -/
def unitsPerOne : Nat :=
  Nat.pow 2 1074

/-- The first magnitude, in units, that is too large for a finite number. -/
def unitsBound : Nat :=
  Nat.pow 2 2098

/-- How many of the low bits of a magnitude do not fit beside its 53 leading bits. -/
def excessBits (n : Nat) : Nat :=
  n.log2 - 52

/-- A magnitude, in units, that a finite number can have. -/
def Fits (n : Nat) : Prop :=
  n < unitsBound ∧ n % Nat.pow 2 (excessBits n) = 0

instance : DecidablePred Fits := fun _ ↦ inferInstanceAs (Decidable (_ ∧ _))

/-- A finite binary64 number. -/
structure Finite where
  /-- The number as a multiple of `2⁻¹⁰⁷⁴`. -/
  units : Int
  fits : Fits units.natAbs
deriving DecidableEq

/-- A binary64 number. -/
inductive Number where
  | nan
  | negInfinity
  | finite (x : Finite)
  | posInfinity
deriving DecidableEq

/-! ## Rounding -/

/-- The integer nearest to `num / den`; a half goes to the even neighbour. -/
def roundHalfEven (num den : Nat) : Nat :=
  let q := num / den
  let r := num % den
  if 2 * r < den then q
  else if den < 2 * r then q + 1
  else if q % 2 = 0 then q else q + 1

/-- The magnitude with at most 53 significant bits that is nearest to `num / den` units. -/
def nearestUnits (num den : Nat) : Nat :=
  let g := excessBits (num / den)
  roundHalfEven num (den * Nat.pow 2 g) * Nat.pow 2 g

theorem roundHalfEven_bounds (num den : Nat) :
    num / den ≤ roundHalfEven num den ∧ roundHalfEven num den ≤ num / den + 1 := by
  simp only [roundHalfEven]
  split
  · omega
  · split
    · omega
    · split <;> omega

private theorem excessBits_le_of_lt {n k : Nat} (h : n < Nat.pow 2 (k + 53)) :
    excessBits n ≤ k := by
  by_cases hn : n = 0
  · subst hn
    simp [excessBits]
  · have := (Nat.log2_lt hn).2 h
    simp only [excessBits]
    omega

private theorem lt_two_pow_excessBits (n : Nat) : n < Nat.pow 2 (excessBits n + 53) := by
  refine Nat.lt_of_lt_of_le (Nat.lt_log2_self (n := n)) (Nat.pow_le_pow_right (by decide) ?_)
  simp only [excessBits]
  omega

/-- Rounding leaves at most 53 significant bits. -/
theorem nearestUnits_mod (num den : Nat) :
    nearestUnits num den % Nat.pow 2 (excessBits (nearestUnits num den)) = 0 := by
  simp only [nearestUnits, Nat.pow_eq]
  generalize hg : excessBits (num / den) = g
  have hlt : num / den < 2 ^ (g + 53) := hg ▸ lt_two_pow_excessBits (num / den)
  have hq : num / (den * 2 ^ g) < 2 ^ 53 := by
    rw [← Nat.div_div_eq_div_mul]
    refine Nat.div_lt_of_lt_mul ?_
    rw [← Nat.pow_add]
    exact hlt
  have hle : roundHalfEven num (den * 2 ^ g) ≤ 2 ^ 53 := by
    have := (roundHalfEven_bounds num (den * 2 ^ g)).2
    omega
  generalize roundHalfEven num (den * 2 ^ g) = q at hle
  rcases Nat.lt_or_eq_of_le hle with h | h
  · have hx : excessBits (q * 2 ^ g) ≤ g := by
      refine excessBits_le_of_lt ?_
      rw [Nat.pow_eq, Nat.pow_add, Nat.mul_comm]
      exact Nat.mul_lt_mul_of_pos_left h (Nat.two_pow_pos g)
    exact Nat.mod_eq_zero_of_dvd (Nat.dvd_trans (Nat.pow_dvd_pow 2 hx) (Nat.dvd_mul_left _ _))
  · rw [h, ← Nat.pow_add]
    refine Nat.mod_eq_zero_of_dvd (Nat.pow_dvd_pow 2 ?_)
    simp only [excessBits, Nat.log2_two_pow]
    omega

/-! ## Building numbers -/

namespace Finite

/-- The sign of a number and its magnitude in units. -/
def ofUnits (negative : Bool) (n : Nat) (h : Fits n) : Finite where
  units := if negative then -(n : Int) else n
  fits := by
    cases negative <;> simpa using h

@[simp] theorem units_ofUnits (negative : Bool) (n : Nat) (h : Fits n) :
    (ofUnits negative n h).units = if negative then -(n : Int) else n := rfl

def isIntegral (x : Finite) : Bool :=
  x.units.natAbs % unitsPerOne == 0

/-- The integer nearest to the number on the side of zero. -/
def truncate (x : Finite) : Int :=
  x.units.tdiv unitsPerOne

theorem ext_units {x y : Finite} (h : x.units = y.units) : x = y := by
  cases x
  cases y
  cases h
  rfl

end Finite

namespace Number

/-- The number nearest to `±num / den` units; a magnitude beyond all finite numbers becomes
an infinity. -/
def ofQuotient (negative : Bool) (num den : Nat) : Number :=
  if h : nearestUnits num den < unitsBound then
    .finite (.ofUnits negative (nearestUnits num den) ⟨h, nearestUnits_mod num den⟩)
  else if negative then .negInfinity else .posInfinity

/-- The number nearest to an integer. -/
def ofInt (n : Int) : Number :=
  ofQuotient (n < 0) (n.natAbs * unitsPerOne) 1

instance : OfNat Number n := ⟨ofInt n⟩

def finite? : Number → Option Finite
  | .finite x => some x
  | _ => none

/-- The integer that the number is, if it is an integer below `10¹⁵` in magnitude. Such numbers
are written without a fraction everywhere. -/
def smallInt? : Number → Option Int
  | .finite x => if x.isIntegral && x.truncate.natAbs < Nat.pow 10 15 then some x.truncate else none
  | _ => none

/-! ## Order -/

/-- How two numbers compare; not-a-number compares with nothing. -/
def compare? : Number → Number → Option Ordering
  | .nan, _ | _, .nan => none
  | .finite x, .finite y => some (compare x.units y.units)
  | .negInfinity, .negInfinity | .posInfinity, .posInfinity => some .eq
  | .negInfinity, _ | _, .posInfinity => some .lt
  | .posInfinity, _ | _, .negInfinity => some .gt

/-- Equality of numbers as quantities, under which not-a-number differs from itself. -/
def equals (x y : Number) : Bool :=
  x.compare? y == some .eq

def isNonNegative (x : Number) : Bool :=
  match x.compare? 0 with
  | some .gt | some .eq => true
  | _ => false

/-- The whole part of a number as an unsigned 64-bit count: a negative number and not-a-number
give zero, and a number too large gives the greatest count. -/
def toCount : Number → Nat
  | .finite x => min x.truncate.toNat (Nat.pow 2 64 - 1)
  | .posInfinity => Nat.pow 2 64 - 1
  | _ => 0

end Number

end FlowRouting
