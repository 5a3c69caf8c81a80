namespace ShaderGraph.Decimal

/-- A binary floating point value: the sign apart, either not a number, infinite, or
`mantissa * 2 ^ exponent`. -/
inductive Magnitude where
  | nan
  | infinite
  | finite (mantissa : Nat) (exponent : Int)
  deriving DecidableEq, Repr

/-- A binary interchange format, given by the widths of its two fields. -/
structure BinaryFormat where
  fractionBits : Nat
  exponentBits : Nat

def BinaryFormat.single : BinaryFormat := ⟨23, 8⟩

def BinaryFormat.double : BinaryFormat := ⟨52, 11⟩

namespace BinaryFormat

/-- The exponent shared by the subnormal values and the smallest normal ones. -/
def leastExponent (format : BinaryFormat) : Int :=
  2 - (1 <<< (format.exponentBits - 1) : Nat) - format.fractionBits

def isNegative (format : BinaryFormat) (bits : Nat) : Bool :=
  bits >>> (format.fractionBits + format.exponentBits) % 2 = 1

def magnitude (format : BinaryFormat) (bits : Nat) : Magnitude :=
  let fraction := bits % 1 <<< format.fractionBits
  let biased := bits >>> format.fractionBits % 1 <<< format.exponentBits
  if biased = 1 <<< format.exponentBits - 1 then
    if fraction = 0 then .infinite else .nan
  else if biased = 0 then .finite fraction format.leastExponent
  else .finite (1 <<< format.fractionBits + fraction) (format.leastExponent + (biased - 1))

end BinaryFormat

/-- A decimal number `digits * 10 ^ exponent`. -/
structure Numeral where
  digits : Nat
  exponent : Int
  deriving DecidableEq, Repr

/-- The reals that round to one binary value, as fractions over one denominator. The ends belong
to the interval iff `closed`. -/
structure RoundingInterval where
  low : Nat
  value : Nat
  high : Nat
  denominator : Nat
  closed : Bool

namespace RoundingInterval

/-- The interval of `mantissa * 2 ^ exponent`: half way to the neighbours above and below. The gap
below is half as wide at a power of two, unless the value is among the smallest normal ones. Ties
round to even, so the ends belong to even mantissas. -/
def of (format : BinaryFormat) (mantissa : Nat) (exponent : Int) : RoundingInterval :=
  let narrow := mantissa = 1 <<< format.fractionBits && format.leastExponent < exponent
  let scale := if 2 ≤ exponent then 1 <<< (exponent - 2).toNat else 1
  { low := (4 * mantissa - if narrow then 1 else 2) * scale
    value := 4 * mantissa * scale
    high := (4 * mantissa + 2) * scale
    denominator := if 2 ≤ exponent then 1 else 1 <<< (2 - exponent).toNat
    closed := mantissa % 2 = 0 }

/-- Of the two multiples of `10 ^ exponent` around the value, the one in the interval, the nearer
one if both are, the upper one on a tie. -/
def multiple? (r : RoundingInterval) (exponent : Int) : Option Nat :=
  let up := Nat.pow 10 (-exponent).toNat
  let unit := r.denominator * Nat.pow 10 exponent.toNat
  let below := r.value * up / unit
  let belowFits :=
    if r.closed then r.low * up ≤ below * unit else r.low * up < below * unit
  let aboveFits :=
    if r.closed then (below + 1) * unit ≤ r.high * up else (below + 1) * unit < r.high * up
  if belowFits && aboveFits then
    if 2 * (r.value * up) < (2 * below + 1) * unit then some below else some (below + 1)
  else if belowFits then some below
  else if aboveFits then some (below + 1)
  else none

/-- Searches the grids of `10 ^ exponent` from the coarsest down, at most `steps` of them. -/
def coarsest (r : RoundingInterval) (exponent : Int) : Nat → Option Numeral
  | 0 => none
  | steps + 1 =>
    match r.multiple? exponent with
    | some digits => some ⟨digits, exponent⟩
    | none => r.coarsest (exponent - 1) steps

end RoundingInterval

/-- The shortest decimal that rounds to a positive value, the nearest of those. The coarsest grid
is above the largest double, the finest below half of the smallest. -/
def shortest (format : BinaryFormat) (mantissa : Nat) (exponent : Int) : Numeral :=
  ((RoundingInterval.of format mantissa exponent).coarsest 310 660).getD ⟨0, 0⟩

end ShaderGraph.Decimal
