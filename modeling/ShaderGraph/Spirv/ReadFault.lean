import ShaderGraph.Spirv.Instruction
import ShaderGraph.Text.Utf8

namespace ShaderGraph.Spirv

/-! Why words are no module. Offsets count bytes from the start of the module, instructions are
numbered from one. -/

inductive OperandFault where
  /-- The instruction has no word left. -/
  | limitReached (offset : Nat)
  /-- The module has no word left. -/
  | streamExpected (offset : Nat)
  | unknownEnumerant (kind : EnumKind) (offset : Nat) (value : UInt32)
  | unknownMask (kind : MaskKind) (offset : Nat) (value : UInt32)
  | badText (offset : Nat) (fault : Text.Utf8Fault)
  deriving DecidableEq, Repr

inductive LayoutFault where
  | nestedFunction
  | unclosedFunction
  | mismatchedFunctionEnd
  | detachedFunctionParameter
  | detachedBlock
  | nestedBlock
  | unclosedBlock
  | mismatchedTerminator
  | detachedInstruction (instruction : Instruction)
  deriving DecidableEq, Repr

inductive ReadFault where
  | headerIncomplete (offset : Nat)
  | headerIncorrect
  /-- The words are in the other byte order. -/
  | endiannessUnsupported
  | wordCountZero (offset number : Nat)
  | opcodeUnknown (offset number code : Nat)
  | operandExpected (offset number : Nat)
  | operandExceeded (offset number : Nat)
  /-- A number of a type whose width no number has. -/
  | typeUnsupported (offset number : Nat)
  | constantOperationUnknown (offset number : Nat)
  | operand (fault : OperandFault)
  | layout (fault : LayoutFault)
  deriving DecidableEq, Repr

/-- A fault with its details, as messages show it. -/
def faultText (name : String) (details : List Nat) : String :=
  name ++ "(" ++ ", ".intercalate (details.map toString) ++ ")"

def OperandFault.message : OperandFault → String
  | .limitReached offset => faultText "LimitReached" [offset]
  | .streamExpected offset => faultText "StreamExpected" [offset]
  | .unknownEnumerant kind offset value => faultText (kind.name ++ "Unknown") [offset, value.toNat]
  | .unknownMask kind offset value => faultText (kind.name ++ "Unknown") [offset, value.toNat]
  | .badText offset fault =>
    "DecodeStringFailed(" ++ toString offset ++ ", " ++ Text.quoted fault.message ++ ")"

def LayoutFault.message : LayoutFault → String
  | .nestedFunction => "NestedFunction"
  | .unclosedFunction => "UnclosedFunction"
  | .mismatchedFunctionEnd => "MismatchedFunctionEnd"
  | .detachedFunctionParameter => "DetachedFunctionParameter"
  | .detachedBlock => "DetachedBlock"
  | .nestedBlock => "NestedBlock"
  | .unclosedBlock => "UnclosedBlock"
  | .mismatchedTerminator => "MismatchedTerminator"
  | .detachedInstruction instruction =>
    "DetachedInstruction(" ++ Text.optional (some instruction.shown) ++ ")"

def ReadFault.message : ReadFault → String
  | .headerIncomplete offset =>
    "HeaderIncomplete(" ++ (OperandFault.streamExpected offset).message ++ ")"
  | .headerIncorrect => "HeaderIncorrect"
  | .endiannessUnsupported => "EndiannessUnsupported"
  | .wordCountZero offset number => faultText "WordCountZero" [offset, number]
  | .opcodeUnknown offset number code => faultText "OpcodeUnknown" [offset, number, code]
  | .operandExpected offset number => faultText "OperandExpected" [offset, number]
  | .operandExceeded offset number => faultText "OperandExceeded" [offset, number]
  | .typeUnsupported offset number => faultText "TypeUnsupported" [offset, number]
  | .constantOperationUnknown offset number =>
    faultText "SpecConstantOpIntegerIncorrect" [offset, number]
  | .operand fault => "OperandError(" ++ fault.message ++ ")"
  | .layout fault => "ConsumerError(" ++ fault.message ++ ")"

end ShaderGraph.Spirv
