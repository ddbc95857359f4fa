import ContactPlan.Text.Decimal

/-
This file holds binary floating point numbers and their shortest decimal text.
The text is the shortest that reads back as the number of 64 bits.
-/

namespace ContactPlan

inductive Binary64 where
  | finite (negative : Bool) (mantissa : Nat) (exponent : Int)
  | infinite (negative : Bool)
  | notANumber

/-- The narrow formats share the layout of the wide one. -/
def Binary64.ofBits (exponentWidth mantissaWidth bits : Nat) : Binary64 :=
  let hidden := Nat.pow 2 mantissaWidth
  let fraction := bits % hidden
  let exponent := bits / hidden % Nat.pow 2 exponentWidth
  let negative := bits / hidden / Nat.pow 2 exponentWidth % 2 = 1
  let base : Int := 2 - (Nat.pow 2 (exponentWidth - 1) : Nat) - mantissaWidth
  if exponent = Nat.pow 2 exponentWidth - 1 then
    if fraction = 0 then .infinite negative else .notANumber
  else if exponent = 0 then .finite negative fraction base
  else .finite negative (hidden + fraction) (base + exponent - 1)

/-- A decimal stands for its coefficient times a power of ten. -/
structure ScaledDecimal where
  coefficient : Nat
  exponent : Int

/-- A zero at the end of a coefficient belongs to the power of ten. -/
def ScaledDecimal.reduced (decimal : ScaledDecimal) : ScaledDecimal :=
  if decimal.coefficient % 10 = 0 then ⟨decimal.coefficient / 10, decimal.exponent + 1⟩
  else decimal

/-- The numbers that round to a number lie between two fractions over one denominator. -/
structure RoundingInterval where
  low : Nat
  value : Nat
  high : Nat
  denominator : Nat
  closed : Bool

/-- The mantissa is moved up as far as 53 bits and the least exponent allow. -/
def RoundingInterval.ofFinite (mantissa : Nat) (exponent : Int) : RoundingInterval :=
  let shift := min (52 - mantissa.log2) (exponent + 1074).toNat
  let mantissa := mantissa * Nat.pow 2 shift
  let exponent := exponent - shift
  let below := if mantissa = Nat.pow 2 52 ∧ -1074 < exponent then 1 else 2
  let factor := Nat.pow 2 (exponent - 2).toNat
  { low := (4 * mantissa - below) * factor
    value := 4 * mantissa * factor
    high := (4 * mantissa + 2) * factor
    denominator := Nat.pow 2 (2 - exponent).toNat
    closed := mantissa % 2 = 0 }

/-- The bounds count only if the interval is closed. -/
def RoundingInterval.holds (interval : RoundingInterval) (candidate scale : Nat) : Bool :=
  if interval.closed then
    interval.low * scale ≤ candidate && candidate ≤ interval.high * scale
  else interval.low * scale < candidate && candidate < interval.high * scale

/-- The place is the number of digits before the decimal point. -/
def RoundingInterval.place (interval : RoundingInterval) : Int :=
  let whole := interval.value / interval.denominator
  if 0 < whole then (Decimal.digits whole).length
  else
    match (List.range 400).find? fun power =>
        interval.denominator ≤ interval.value * Nat.pow 10 power with
    | some power => 1 - (power : Int)
    | none => -400

/-- One of the two neighbours with the given number of digits is taken, the nearer one first. -/
def RoundingInterval.neighbour? (interval : RoundingInterval) (count : Nat) :
    Option ScaledDecimal :=
  let exponent := interval.place - count
  let scale := Nat.pow 10 (-exponent).toNat
  let unit := interval.denominator * Nat.pow 10 exponent.toNat
  let floor := interval.value * scale / unit
  let remainder := interval.value * scale % unit
  let downHolds := interval.holds (floor * unit) scale
  let upHolds := interval.holds ((floor + 1) * unit) scale
  if upHolds && (!downHolds || unit ≤ 2 * remainder) then some ⟨floor + 1, exponent⟩
  else if downHolds then some ⟨floor, exponent⟩
  else none

/-- A shortest decimal ends in a zero only if nine was rounded up to ten. -/
def RoundingInterval.shortest (interval : RoundingInterval) : ScaledDecimal :=
  match (List.range 17).findSome? fun index => interval.neighbour? (index + 1) with
  | some decimal => decimal.reduced
  | none => ⟨0, 0⟩

/-- A whole number ends in a point and a zero. -/
def ScaledDecimal.text (decimal : ScaledDecimal) : String :=
  let places := (-decimal.exponent).toNat
  if places = 0 then
    String.ofList (Decimal.digits decimal.coefficient ++
      List.replicate decimal.exponent.toNat '0') ++ ".0"
  else
    let digits := (Decimal.padded (places + 1) decimal.coefficient).toList
    String.ofList (digits.take (digits.length - places) ++ '.' ::
      digits.drop (digits.length - places))

def Binary64.text : Binary64 → String
  | .finite negative mantissa exponent =>
      let sign := if negative then "-" else ""
      if mantissa = 0 then sign ++ "0.0"
      else sign ++ (RoundingInterval.ofFinite mantissa exponent).shortest.text
  | .infinite negative => if negative then "-inf" else "inf"
  | .notANumber => "NaN"

end ContactPlan
