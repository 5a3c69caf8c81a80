import ShaderGraph.Spirv.Instruction
import ShaderGraph.Spirv.OpcodeClass
import ShaderGraph.Table

namespace ShaderGraph.Spirv

/-- A type whose values are numbers. -/
inductive NumberType where
  | integer (width : UInt32) (signed : Bool)
  | float (width : UInt32)
  deriving DecidableEq, Repr

/-- How many words a number has. None for a width that no number has. -/
def NumberType.wordCount? : NumberType → Option Nat
  | .integer width _ => if width ∈ [8, 16, 32] then some 1 else if width = 64 then some 2 else none
  | .float width => if width ∈ [16, 32] then some 1 else if width = 64 then some 2 else none

/-- The number types of ids: of the types themselves and of the values that have them. -/
abbrev NumberTypes := Table UInt32 NumberType

namespace NumberTypes

/-- What an instruction tells about the type of its result. -/
def typeOf? (types : NumberTypes) (i : Instruction) : Option NumberType :=
  match i.opcode, i.operands with
  | .opTypeInt, [.literal width, .literal sign] => some (.integer width (sign = 1))
  | .opTypeFloat, [.literal width] => some (.float width)
  | opcode, _ => if opcode.isType then none else i.resultType.bind types.find?

/-- Takes note of an instruction. -/
def track (types : NumberTypes) (i : Instruction) : NumberTypes :=
  match i.result, types.typeOf? i with
  | some id, some type => types.insert id type
  | _, _ => types

end NumberTypes

end ShaderGraph.Spirv
