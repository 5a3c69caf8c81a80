namespace ShaderGraph.Spirv

/-- The closed lists of named values an operand can be taken from. -/
inductive EnumKind where
  | capability
  | storageClass
  | executionModel
  | executionMode
  | decoration
  | builtIn
  | dim
  | imageFormat
  | addressingModel
  | memoryModel
  | sourceLanguage
  | accessQualifier
  | linkageType
  | fpRoundingMode
  | functionParameterAttribute
  | samplerAddressingMode
  | samplerFilterMode
  | fpDenormMode
  | fpOperationMode
  | initializationModeQualifier
  | hostAccessQualifier
  | loadCacheControl
  | storeCacheControl
  deriving DecidableEq, Repr

def EnumKind.name : EnumKind → String
  | .capability => "Capability"
  | .storageClass => "StorageClass"
  | .executionModel => "ExecutionModel"
  | .executionMode => "ExecutionMode"
  | .decoration => "Decoration"
  | .builtIn => "BuiltIn"
  | .dim => "Dim"
  | .imageFormat => "ImageFormat"
  | .addressingModel => "AddressingModel"
  | .memoryModel => "MemoryModel"
  | .sourceLanguage => "SourceLanguage"
  | .accessQualifier => "AccessQualifier"
  | .linkageType => "LinkageType"
  | .fpRoundingMode => "FPRoundingMode"
  | .functionParameterAttribute => "FunctionParameterAttribute"
  | .samplerAddressingMode => "SamplerAddressingMode"
  | .samplerFilterMode => "SamplerFilterMode"
  | .fpDenormMode => "FPDenormMode"
  | .fpOperationMode => "FPOperationMode"
  | .initializationModeQualifier => "InitializationModeQualifier"
  | .hostAccessQualifier => "HostAccessQualifier"
  | .loadCacheControl => "LoadCacheControl"
  | .storeCacheControl => "StoreCacheControl"

/-- The sets of flags an operand can be made of. -/
inductive MaskKind where
  | imageOperands
  | selectionControl
  | loopControl
  | functionControl
  | memoryAccess
  | fpFastMathMode
  deriving DecidableEq, Repr

def MaskKind.name : MaskKind → String
  | .imageOperands => "ImageOperands"
  | .selectionControl => "SelectionControl"
  | .loopControl => "LoopControl"
  | .functionControl => "FunctionControl"
  | .memoryAccess => "MemoryAccess"
  | .fpFastMathMode => "FPFastMathMode"

/-- What the grammar of an instruction asks for at one place. -/
inductive OperandKind where
  | id
  | literal
  | text
  /-- The number of an instruction of an imported set. -/
  | extInst
  /-- A number as wide as the type of the instruction says. -/
  | contextNumber
  /-- The opcode of an operation on constants, followed by the operands of that opcode. -/
  | constantOperation
  | idPair
  /-- A number as wide as the selector's type, and an id. -/
  | switchCase
  | enumerant (kind : EnumKind)
  | mask (kind : MaskKind)
  deriving DecidableEq, Repr

def OperandKind.name : OperandKind → String
  | .id => "IdRef"
  | .literal => "LiteralInteger"
  | .text => "LiteralString"
  | .extInst => "LiteralExtInstInteger"
  | .contextNumber => "LiteralContextDependentNumber"
  | .constantOperation => "LiteralSpecConstantOpInteger"
  | .idPair => "PairIdRefIdRef"
  | .switchCase => "PairLiteralIntegerIdRef"
  | .enumerant kind => kind.name
  | .mask kind => kind.name

/-- How often an operand may stand. -/
inductive Quantifier where
  | one
  | zeroOrOne
  | zeroOrMore
  deriving DecidableEq, Repr

def Quantifier.name : Quantifier → String
  | .one => "One"
  | .zeroOrOne => "ZeroOrOne"
  | .zeroOrMore => "ZeroOrMore"

end ShaderGraph.Spirv
