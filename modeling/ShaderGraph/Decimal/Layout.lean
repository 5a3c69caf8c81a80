import ShaderGraph.Decimal.Shortest

namespace ShaderGraph.Decimal

/-- How a decimal number is set out. -/
structure Layout where
  /-- Whether a value whose leading digit counts `10 ^ exponent` is written without an exponent. -/
  positional : Int → Bool
  /-- Whether whole numbers keep `.0`. -/
  keepPoint : Bool

/-- Always positional, whole numbers without a point. -/
def Layout.plain : Layout := ⟨fun _ => true, false⟩

/-- Positional from `1e-4` up to `1e16`, with at least one place after the point. -/
def Layout.general : Layout := ⟨fun exponent => -4 ≤ exponent && exponent < 16, true⟩

def zeros (count : Nat) : String := String.ofList (List.replicate count '0')

/-- The digits with the point put where it belongs. -/
def Layout.positionalText (layout : Layout) (x : Numeral) : String :=
  let digits := toString x.digits
  if 0 ≤ x.exponent then
    digits ++ zeros x.exponent.toNat ++ if layout.keepPoint then ".0" else ""
  else
    let places := (-x.exponent).toNat
    let padded := zeros (places + 1 - digits.length) ++ digits
    let whole := padded.length - places
    (padded.take whole).toString ++ "." ++ (padded.drop whole).toString

/-- One digit, a point if more follow, and the exponent of the first digit. -/
def scientificText (x : Numeral) : String :=
  let digits := toString x.digits
  let rest := (digits.drop 1).toString
  let exponent := x.exponent + (digits.length - 1 : Nat)
  (digits.take 1).toString ++ (if rest.isEmpty then "" else "." ++ rest) ++ "e" ++ toString exponent

def Layout.text (layout : Layout) (x : Numeral) : String :=
  if layout.positional (x.exponent + (toString x.digits).length - 1) then layout.positionalText x
  else scientificText x

/-- A floating point number given by its bits. A not-a-number shows no sign. -/
def Layout.binary (layout : Layout) (format : BinaryFormat) (bits : Nat) : String :=
  let sign := if format.isNegative bits then "-" else ""
  match format.magnitude bits with
  | .nan => "NaN"
  | .infinite => sign ++ "inf"
  | .finite 0 _ => sign ++ layout.positionalText ⟨0, 0⟩
  | .finite mantissa exponent => sign ++ layout.text (shortest format mantissa exponent)

def Layout.single (layout : Layout) (bits : UInt32) : String := layout.binary .single bits.toNat

def Layout.double (layout : Layout) (bits : UInt64) : String := layout.binary .double bits.toNat

end ShaderGraph.Decimal
