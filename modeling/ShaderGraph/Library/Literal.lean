import ShaderGraph.Decimal.Layout
import ShaderGraph.Text.Quoted

namespace ShaderGraph

/-- A literal operand: a storage class, the value of a constant, a name. -/
inductive Literal where
  | int (value : UInt32)
  /-- A single precision number by its bits, which also tell apart the not-a-numbers. -/
  | float (bits : UInt32)
  | text (value : String)
  deriving DecidableEq, Repr

/-- How literals show floating point numbers. -/
def Literal.floatLayout : Decimal.Layout := .general

def Literal.display : Literal → String
  | .int value => toString value.toNat
  | .float bits => floatLayout.single bits
  | .text value => Text.quoted value

end ShaderGraph
