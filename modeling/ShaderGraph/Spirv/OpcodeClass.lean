import ShaderGraph.Spirv.Enumerant
import ShaderGraph.Spirv.Opcode

namespace ShaderGraph.Spirv.Opcode

/-- Whether an instruction declares a constant given by its operands alone. -/
def isConstant : Opcode → Bool
  | .opConstant | .opConstantComposite | .opSpecConstant | .opSpecConstantComposite
  | .opConstantTrue | .opConstantFalse | .opConstantNull
  | .opSpecConstantTrue | .opSpecConstantFalse => true
  | _ => false

/-- The capability an instruction needs beyond the one every shader has. -/
def requiredCapability? : Opcode → Option Capability
  | .opImageQuerySize | .opImageQuerySizeLod | .opImageQueryLod | .opImageQueryLevels =>
    some .imageQuery
  | _ => none

/-- Whether an instruction declares a type. -/
def isType : Opcode → Bool
  | .opTypeVoid | .opTypeBool | .opTypeInt | .opTypeFloat | .opTypeVector | .opTypeMatrix
  | .opTypeImage | .opTypeSampler | .opTypeSampledImage | .opTypeArray | .opTypeRuntimeArray
  | .opTypeStruct | .opTypePointer | .opTypeFunction => true
  | _ => false

/-- Whether an instruction ends a block. -/
def isTerminator : Opcode → Bool
  | .opBranch | .opBranchConditional | .opSwitch | .opReturn | .opReturnValue | .opKill
  | .opUnreachable => true
  | _ => false

end ShaderGraph.Spirv.Opcode
