import FlowRouting.Number.Decimal

/-!
# The shortest decimal of a number

`Finite.shortest x` is the decimal with the fewest digits that reads back as `x`; of several it is
the one nearest to `x`. On the grid of decimals with `n` digits at the magnitude of `x`, only the
two neighbours of `x` can be nearest, so each grid is two tests, and seventeen digits always
suffice. The exact decimal of `x` stands at the end of the search, so what is found always reads
back.
-/

namespace FlowRouting

namespace Finite

/-- The exponent of the leading decimal digit of a magnitude in units. -/
def decimalExponent (n : Nat) : Int :=
  ((Nat.toDigits 10 (n * Nat.pow 10 330 / unitsPerOne)).length : Int) - 331

/-- The decimal that is exactly a magnitude in units. -/
def exactDecimal (n : Nat) : Decimal :=
  ⟨n * Nat.pow 5 1074, -1074⟩

/-- The quotient and the divisor that place a magnitude in units on the grid of multiples of
`10 ^ g`. -/
def gridQuotient (n : Nat) (g : Int) : Nat × Nat :=
  if 0 ≤ g then (n, unitsPerOne * Nat.pow 10 g.toNat)
  else (n * Nat.pow 10 (-g).toNat, unitsPerOne)

/-- The neighbours of a magnitude on the grid of multiples of `10 ^ g`, the nearer one first. -/
def gridNeighbours (n : Nat) (g : Int) : List Decimal :=
  let (num, den) := gridQuotient n g
  let below : Decimal := ⟨num / den, g⟩
  let above : Decimal := ⟨num / den + 1, g⟩
  -- Halfway between two neighbours the lower one is preferred.
  if 2 * (num % den) ≤ den then [below.normalize, above.normalize]
  else [above.normalize, below.normalize]

/-- The candidates for the shortest decimal of a magnitude, the preferred one first. -/
def candidates (n : Nat) : List Decimal :=
  (List.range 17).flatMap fun k : Nat ↦ gridNeighbours n (decimalExponent n - k)

/-- The decimal with the fewest digits that reads back as the magnitude of the number. -/
def shortest (x : Finite) : Decimal :=
  let n := x.units.natAbs
  if n = 0 then ⟨0, 0⟩
  else
    match (candidates n).find? fun d ↦ d.nearest (x.units < 0) == .finite x with
    | some d => d
    | none => exactDecimal n

end Finite

end FlowRouting
