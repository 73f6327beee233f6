import FlowRouting.Number.Basic
import FlowRouting.Text.Digits

/-!
# Decimal numerals

A decimal is a natural number times a power of ten. `Decimal.nearest` gives the binary64 nearest
to it, and `Decimal.scan?` reads the usual numerals: a sign, digits with at most one point, an
exponent.
-/

namespace FlowRouting

/-- The value `digits * 10 ^ exponent`. -/
structure Decimal where
  digits : Nat
  exponent : Int
deriving DecidableEq, Repr

open Text

namespace Decimal

/-- The decimal without the zeros its digits end with; zero has exponent zero. -/
def normalize (d : Decimal) : Decimal :=
  strip d.digits.log2 d
where
  /-- Removes at most `n` zeros. -/
  strip : Nat → Decimal → Decimal
    | 0, d => if d.digits = 0 then ⟨0, 0⟩ else d
    | n + 1, d =>
      if d.digits = 0 then ⟨0, 0⟩
      else if d.digits % 10 = 0 then strip n ⟨d.digits / 10, d.exponent + 1⟩
      else d

/-! ## The nearest binary64 -/

/-- The binary64 nearest to a decimal, with a sign.

Exponents far outside the range of binary64 are decided by the size of the digits alone: above
`10⁴⁰⁰` everything is infinite, and below `10⁻⁴⁰⁰` everything is zero. -/
def nearest (negative : Bool) (d : Decimal) : Number :=
  if d.digits = 0 then 0
  else if 400 < d.exponent then Number.ofQuotient negative unitsBound 1
  else if (400 + d.digits.log2 : Int) < -d.exponent then 0
  else if 0 ≤ d.exponent then
    Number.ofQuotient negative (d.digits * Nat.pow 10 d.exponent.toNat * unitsPerOne) 1
  else
    Number.ofQuotient negative (d.digits * unitsPerOne) (Nat.pow 10 (-d.exponent).toNat)

/-! ## Reading numerals -/

/-- An exponent mark with its digits; a text without one has exponent zero. -/
def scanExponent? : List Char → Option Int
  | [] => some 0
  | c :: cs =>
    if c = 'e' ∨ c = 'E' then
      let (negative, rest) := scanSign cs
      if rest.isEmpty || !rest.all Char.isDigit then none
      else some (if negative then -(foldDigits 0 rest : Int) else foldDigits 0 rest)
    else none

/-- Reads a whole text as a numeral: an optional sign, digits with at most one point among or
around them, an optional exponent. At least one digit stands before the exponent. -/
def scan? (cs : List Char) : Option (Bool × Decimal) := do
  let (negative, cs) := scanSign cs
  let (whole, cs) := spanDigits cs
  let (fraction, cs) :=
    match cs with
    | '.' :: cs => spanDigits cs
    | cs => ([], cs)
  if whole.isEmpty && fraction.isEmpty then none
  else
    let exponent ← scanExponent? cs
    return (negative, ⟨foldDigits 0 (whole ++ fraction), exponent - fraction.length⟩)

end Decimal

/-- The finite number that a text writes. Blanks around it are ignored, and a numeral too large
for a finite number is none. -/
def Number.parse? (s : String) : Option Number :=
  match Decimal.scan? (Text.trim s.toList) with
  | none => none
  | some (negative, d) =>
    match d.nearest negative with
    | .finite x => some (.finite x)
    | _ => none

end FlowRouting
