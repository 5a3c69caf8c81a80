import ShaderGraph.Spirv.Kind
import ShaderGraph.Spirv.Opcode

namespace ShaderGraph.Spirv

/-- The operands of an opcode. The result type and the result, where there are any, come first. -/
structure Grammar where
  hasResultType : Bool
  hasResult : Bool
  operands : List (OperandKind × Quantifier)

/-- No result. -/
def Grammar.effect (operands : List (OperandKind × Quantifier)) : Grammar :=
  ⟨false, false, operands⟩

/-- A result without a type: a type, a label, an import. -/
def Grammar.untyped (operands : List (OperandKind × Quantifier)) : Grammar :=
  ⟨false, true, operands⟩

/-- A result of a type. -/
def Grammar.value (operands : List (OperandKind × Quantifier)) : Grammar := ⟨true, true, operands⟩

def Opcode.grammar : Opcode → Grammar
  | .opNop => .effect []
  | .opUndef => .value []
  | .opSourceContinued => .effect [(.text, .one)]
  | .opSource => .effect [
      (.enumerant .sourceLanguage, .one), (.literal, .one), (.id, .zeroOrOne),
      (.text, .zeroOrOne)]
  | .opSourceExtension => .effect [(.text, .one)]
  | .opName => .effect [(.id, .one), (.text, .one)]
  | .opMemberName => .effect [(.id, .one), (.literal, .one), (.text, .one)]
  | .opString => .untyped [(.text, .one)]
  | .opLine => .effect [(.id, .one), (.literal, .one), (.literal, .one)]
  | .opExtension => .effect [(.text, .one)]
  | .opExtInstImport => .untyped [(.text, .one)]
  | .opExtInst => .value [(.id, .one), (.extInst, .one), (.id, .zeroOrMore)]
  | .opMemoryModel => .effect [
      (.enumerant .addressingModel, .one), (.enumerant .memoryModel, .one)]
  | .opEntryPoint => .effect [
      (.enumerant .executionModel, .one), (.id, .one), (.text, .one), (.id, .zeroOrMore)]
  | .opExecutionMode => .effect [(.id, .one), (.enumerant .executionMode, .one)]
  | .opCapability => .effect [(.enumerant .capability, .one)]
  | .opTypeVoid => .untyped []
  | .opTypeBool => .untyped []
  | .opTypeInt => .untyped [(.literal, .one), (.literal, .one)]
  | .opTypeFloat => .untyped [(.literal, .one)]
  | .opTypeVector => .untyped [(.id, .one), (.literal, .one)]
  | .opTypeMatrix => .untyped [(.id, .one), (.literal, .one)]
  | .opTypeImage => .untyped [
      (.id, .one), (.enumerant .dim, .one), (.literal, .one), (.literal, .one), (.literal, .one),
      (.literal, .one), (.enumerant .imageFormat, .one),
      (.enumerant .accessQualifier, .zeroOrOne)]
  | .opTypeSampler => .untyped []
  | .opTypeSampledImage => .untyped [(.id, .one)]
  | .opTypeArray => .untyped [(.id, .one), (.id, .one)]
  | .opTypeRuntimeArray => .untyped [(.id, .one)]
  | .opTypeStruct => .untyped [(.id, .zeroOrMore)]
  | .opTypePointer => .untyped [(.enumerant .storageClass, .one), (.id, .one)]
  | .opTypeFunction => .untyped [(.id, .one), (.id, .zeroOrMore)]
  | .opConstantTrue => .value []
  | .opConstantFalse => .value []
  | .opConstant => .value [(.contextNumber, .one)]
  | .opConstantComposite => .value [(.id, .zeroOrMore)]
  | .opConstantSampler => .value [
      (.enumerant .samplerAddressingMode, .one), (.literal, .one),
      (.enumerant .samplerFilterMode, .one)]
  | .opConstantNull => .value []
  | .opSpecConstantTrue => .value []
  | .opSpecConstantFalse => .value []
  | .opSpecConstant => .value [(.contextNumber, .one)]
  | .opSpecConstantComposite => .value [(.id, .zeroOrMore)]
  | .opSpecConstantOp => .value [(.constantOperation, .one)]
  | .opFunction => .value [(.mask .functionControl, .one), (.id, .one)]
  | .opFunctionParameter => .value []
  | .opFunctionEnd => .effect []
  | .opFunctionCall => .value [(.id, .one), (.id, .zeroOrMore)]
  | .opVariable => .value [(.enumerant .storageClass, .one), (.id, .zeroOrOne)]
  | .opLoad => .value [(.id, .one), (.mask .memoryAccess, .zeroOrOne)]
  | .opStore => .effect [(.id, .one), (.id, .one), (.mask .memoryAccess, .zeroOrOne)]
  | .opDecorate => .effect [(.id, .one), (.enumerant .decoration, .one)]
  | .opMemberDecorate => .effect [(.id, .one), (.literal, .one), (.enumerant .decoration, .one)]
  | .opCompositeExtract => .value [(.id, .one), (.literal, .zeroOrMore)]
  | .opSampledImage => .value [(.id, .one), (.id, .one)]
  | .opImageSampleImplicitLod => .value [
      (.id, .one), (.id, .one), (.mask .imageOperands, .zeroOrOne)]
  | .opImageSampleExplicitLod => .value [(.id, .one), (.id, .one), (.mask .imageOperands, .one)]
  | .opImageFetch => .value [(.id, .one), (.id, .one), (.mask .imageOperands, .zeroOrOne)]
  | .opImageRead => .value [(.id, .one), (.id, .one), (.mask .imageOperands, .zeroOrOne)]
  | .opImageWrite => .effect [
      (.id, .one), (.id, .one), (.id, .one), (.mask .imageOperands, .zeroOrOne)]
  | .opImageQueryFormat => .value [(.id, .one)]
  | .opImageQueryOrder => .value [(.id, .one)]
  | .opImageQuerySizeLod => .value [(.id, .one), (.id, .one)]
  | .opImageQuerySize => .value [(.id, .one)]
  | .opImageQueryLod => .value [(.id, .one), (.id, .one)]
  | .opImageQueryLevels => .value [(.id, .one)]
  | .opImageQuerySamples => .value [(.id, .one)]
  | .opConvertUToF => .value [(.id, .one)]
  | .opBitcast => .value [(.id, .one)]
  | .opFNegate => .value [(.id, .one)]
  | .opIAdd => .value [(.id, .one), (.id, .one)]
  | .opFAdd => .value [(.id, .one), (.id, .one)]
  | .opISub => .value [(.id, .one), (.id, .one)]
  | .opFSub => .value [(.id, .one), (.id, .one)]
  | .opIMul => .value [(.id, .one), (.id, .one)]
  | .opFMul => .value [(.id, .one), (.id, .one)]
  | .opFDiv => .value [(.id, .one), (.id, .one)]
  | .opFMod => .value [(.id, .one), (.id, .one)]
  | .opSelect => .value [(.id, .one), (.id, .one), (.id, .one)]
  | .opULessThan => .value [(.id, .one), (.id, .one)]
  | .opFOrdEqual => .value [(.id, .one), (.id, .one)]
  | .opFOrdLessThan => .value [(.id, .one), (.id, .one)]
  | .opFUnordGreaterThan => .value [(.id, .one), (.id, .one)]
  | .opShiftLeftLogical => .value [(.id, .one), (.id, .one)]
  | .opBitwiseAnd => .value [(.id, .one), (.id, .one)]
  | .opPhi => .value [(.idPair, .zeroOrMore)]
  | .opLoopMerge => .effect [(.id, .one), (.id, .one), (.mask .loopControl, .one)]
  | .opSelectionMerge => .effect [(.id, .one), (.mask .selectionControl, .one)]
  | .opLabel => .untyped []
  | .opBranch => .effect [(.id, .one)]
  | .opBranchConditional => .effect [
      (.id, .one), (.id, .one), (.id, .one), (.literal, .zeroOrMore)]
  | .opSwitch => .effect [(.id, .one), (.id, .one), (.switchCase, .zeroOrMore)]
  | .opKill => .effect []
  | .opReturn => .effect []
  | .opReturnValue => .effect [(.id, .one)]
  | .opUnreachable => .effect []
  | .opNoLine => .effect []
  | .opModuleProcessed => .effect [(.text, .one)]

/-- How messages show one place of a grammar. -/
def logicalOperand (kind quantifier : String) : String :=
  "LogicalOperand \x7b kind: " ++ kind ++ ", quantifier: " ++ quantifier ++ " \x7d"

/-- All places of a grammar as messages show them, the result type and the result among them. -/
def Grammar.logicalOperands (g : Grammar) : List String :=
  (if g.hasResultType then [logicalOperand "IdResultType" "One"] else []) ++
  (if g.hasResult then [logicalOperand "IdResult" "One"] else []) ++
  g.operands.map fun (kind, quantifier) => logicalOperand kind.name quantifier.name

end ShaderGraph.Spirv
