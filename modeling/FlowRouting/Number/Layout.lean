import FlowRouting.Number.Shortest

/-!
# How numbers are written

Two layouts are in use, both with the shortest digits that read back. In *running text* a number
never has an exponent, and an integer has no fraction. In *documents* a number that is not a small
integer shows that it is one: it keeps a fraction, or has an exponent outside of a middle range.
-/

namespace FlowRouting

/-- The digits of a decimal and the place of its point, counted from the first digit. -/
structure Digits where
  chars : List Char
  point : Int

/-- The written digits of a decimal. -/
def Decimal.toDigits (d : Decimal) : Digits :=
  let chars := Nat.toDigits 10 d.digits
  ⟨chars, chars.length + d.exponent⟩

namespace Digits

/-- Positional notation; an integer is followed by `ending`. -/
def positional (ending : List Char) (d : Digits) : List Char :=
  let length := d.chars.length
  if d.point ≤ 0 then
    '0' :: '.' :: List.replicate (-d.point).toNat '0' ++ d.chars
  else if (length : Int) ≤ d.point then
    d.chars ++ List.replicate (d.point.toNat - length) '0' ++ ending
  else
    d.chars.take d.point.toNat ++ '.' :: d.chars.drop d.point.toNat

/-- Notation with an exponent, whose sign is always written. -/
def scientific (d : Digits) : List Char :=
  let exponent := d.point - 1
  let fraction := d.chars.drop 1
  d.chars.take 1 ++ (if fraction.isEmpty then [] else '.' :: fraction) ++
    'e' :: (if exponent < 0 then '-' else '+') :: Nat.toDigits 10 exponent.natAbs

end Digits

/-- What a way of writing numbers decides beyond the digits. -/
structure NumberLayout where
  /-- What follows an integer in positional notation. -/
  integerEnding : List Char
  /-- Whether a leading digit with this exponent is written in positional notation. -/
  isPositional : Int → Bool

namespace NumberLayout

/-- Running text has no exponents and no needless fractions. -/
def runningText : NumberLayout where
  integerEnding := []
  isPositional _ := true

/-- Documents use an exponent below `10⁻⁵` and from `10¹⁶` on, and keep a fraction elsewhere. -/
def document : NumberLayout where
  integerEnding := ['.', '0']
  isPositional exponent := -5 ≤ exponent && exponent < 16

def write (layout : NumberLayout) (x : Finite) : List Char :=
  let digits := x.shortest.toDigits
  let magnitude :=
    if layout.isPositional (digits.point - 1) then digits.positional layout.integerEnding
    else digits.scientific
  if x.units < 0 then '-' :: magnitude else magnitude

end NumberLayout

/-- The digits of an integer, after a minus if it is negative. -/
def writeInt (n : Int) : List Char :=
  if n < 0 then '-' :: Nat.toDigits 10 n.natAbs else Nat.toDigits 10 n.natAbs

/-- The text form of a number: small integers without a fraction, all else in running text. -/
def Number.toText (x : Number) : String :=
  match x.smallInt? with
  | some n => String.ofList (writeInt n)
  | none =>
    match x with
    | .nan => "NaN"
    | .negInfinity => "-inf"
    | .posInfinity => "inf"
    | .finite x => String.ofList (NumberLayout.runningText.write x)

end FlowRouting
