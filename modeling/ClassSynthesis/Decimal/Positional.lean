import ClassSynthesis.Decimal.Shortest

/-!
# Positional notation

Decimals and floating-point numbers are written out in full, without an exponent however large or
small they are, and without a point when they are whole.
-/

namespace ClassSynthesis

/-- The given number of zeros. -/
def Decimal.zeros (count : Nat) : String := String.ofList (List.replicate count '0')

/-- All digits of a decimal, with zeros filled in up to the point. -/
def Decimal.positional (d : Decimal) : String :=
  let digits := Nat.toDigits 10 d.digits
  let places := (-d.exponent).toNat
  if d.exponent ≥ 0 then String.ofList digits ++ Decimal.zeros d.exponent.toNat
  else if places < digits.length then
    String.ofList (digits.take (digits.length - places)) ++ "." ++
      String.ofList (digits.drop (digits.length - places))
  else "0." ++ Decimal.zeros (places - digits.length) ++ String.ofList digits

/-- The parts of a floating-point number. -/
structure FloatParts where
  /-- The sign bit. -/
  negative : Bool
  /-- The biased exponent, eleven bits. -/
  exponent : Nat
  /-- The fraction, fifty-two bits. -/
  fraction : Nat

/-- Take a bit pattern apart. -/
def FloatParts.ofBits (bits : UInt64) : FloatParts :=
  { negative := bits.toNat / Nat.pow 2 63 == 1
    exponent := bits.toNat / Nat.pow 2 52 % Nat.pow 2 11
    fraction := bits.toNat % Nat.pow 2 52 }

/-- The interval of reals that round to a finite number with these parts, sign apart. -/
def FloatParts.rounding (parts : FloatParts) : Decimal.Rounding :=
  if parts.exponent == 0 then .ofBinary parts.fraction (-1074) false
  else .ofBinary (parts.fraction + Nat.pow 2 52) (parts.exponent - 1075)
    (parts.fraction == 0 && parts.exponent > 1)

/-- A floating-point number in the fewest digits that read back, zero with its sign. -/
def FloatParts.text (parts : FloatParts) : String :=
  let sign := if parts.negative then "-" else ""
  if parts.exponent == 2047 then
    if parts.fraction == 0 then sign ++ "inf" else "NaN"
  else if parts.exponent == 0 && parts.fraction == 0 then sign ++ "0"
  else sign ++ parts.rounding.shortest.positional

/-- The text of a floating-point number. -/
def floatText (x : Float) : String := (FloatParts.ofBits x.toBits).text

end ClassSynthesis
