namespace ShaderGraph.Spirv

/-- The instructions known by name. These 95 are the supported grammar, which every statement about libraries
and streams ranges over: an instruction of a library has one of these opcodes, and a stream with another one in
it is not loaded. -/
inductive Opcode where
  | opNop
  | opUndef
  | opSourceContinued
  | opSource
  | opSourceExtension
  | opName
  | opMemberName
  | opString
  | opLine
  | opExtension
  | opExtInstImport
  | opExtInst
  | opMemoryModel
  | opEntryPoint
  | opExecutionMode
  | opCapability
  | opTypeVoid
  | opTypeBool
  | opTypeInt
  | opTypeFloat
  | opTypeVector
  | opTypeMatrix
  | opTypeImage
  | opTypeSampler
  | opTypeSampledImage
  | opTypeArray
  | opTypeRuntimeArray
  | opTypeStruct
  | opTypePointer
  | opTypeFunction
  | opConstantTrue
  | opConstantFalse
  | opConstant
  | opConstantComposite
  | opConstantSampler
  | opConstantNull
  | opSpecConstantTrue
  | opSpecConstantFalse
  | opSpecConstant
  | opSpecConstantComposite
  | opSpecConstantOp
  | opFunction
  | opFunctionParameter
  | opFunctionEnd
  | opFunctionCall
  | opVariable
  | opLoad
  | opStore
  | opDecorate
  | opMemberDecorate
  | opCompositeExtract
  | opSampledImage
  | opImageSampleImplicitLod
  | opImageSampleExplicitLod
  | opImageFetch
  | opImageRead
  | opImageWrite
  | opImageQueryFormat
  | opImageQueryOrder
  | opImageQuerySizeLod
  | opImageQuerySize
  | opImageQueryLod
  | opImageQueryLevels
  | opImageQuerySamples
  | opConvertUToF
  | opBitcast
  | opFNegate
  | opIAdd
  | opFAdd
  | opISub
  | opFSub
  | opIMul
  | opFMul
  | opFDiv
  | opFMod
  | opSelect
  | opULessThan
  | opFOrdEqual
  | opFOrdLessThan
  | opFUnordGreaterThan
  | opShiftLeftLogical
  | opBitwiseAnd
  | opPhi
  | opLoopMerge
  | opSelectionMerge
  | opLabel
  | opBranch
  | opBranchConditional
  | opSwitch
  | opKill
  | opReturn
  | opReturnValue
  | opUnreachable
  | opNoLine
  | opModuleProcessed
  deriving DecidableEq, Repr

namespace Opcode

/-- The number in the low half of an instruction's first word. -/
def code : Opcode → Nat
  | .opNop => 0
  | .opUndef => 1
  | .opSourceContinued => 2
  | .opSource => 3
  | .opSourceExtension => 4
  | .opName => 5
  | .opMemberName => 6
  | .opString => 7
  | .opLine => 8
  | .opExtension => 10
  | .opExtInstImport => 11
  | .opExtInst => 12
  | .opMemoryModel => 14
  | .opEntryPoint => 15
  | .opExecutionMode => 16
  | .opCapability => 17
  | .opTypeVoid => 19
  | .opTypeBool => 20
  | .opTypeInt => 21
  | .opTypeFloat => 22
  | .opTypeVector => 23
  | .opTypeMatrix => 24
  | .opTypeImage => 25
  | .opTypeSampler => 26
  | .opTypeSampledImage => 27
  | .opTypeArray => 28
  | .opTypeRuntimeArray => 29
  | .opTypeStruct => 30
  | .opTypePointer => 32
  | .opTypeFunction => 33
  | .opConstantTrue => 41
  | .opConstantFalse => 42
  | .opConstant => 43
  | .opConstantComposite => 44
  | .opConstantSampler => 45
  | .opConstantNull => 46
  | .opSpecConstantTrue => 48
  | .opSpecConstantFalse => 49
  | .opSpecConstant => 50
  | .opSpecConstantComposite => 51
  | .opSpecConstantOp => 52
  | .opFunction => 54
  | .opFunctionParameter => 55
  | .opFunctionEnd => 56
  | .opFunctionCall => 57
  | .opVariable => 59
  | .opLoad => 61
  | .opStore => 62
  | .opDecorate => 71
  | .opMemberDecorate => 72
  | .opCompositeExtract => 81
  | .opSampledImage => 86
  | .opImageSampleImplicitLod => 87
  | .opImageSampleExplicitLod => 88
  | .opImageFetch => 95
  | .opImageRead => 98
  | .opImageWrite => 99
  | .opImageQueryFormat => 101
  | .opImageQueryOrder => 102
  | .opImageQuerySizeLod => 103
  | .opImageQuerySize => 104
  | .opImageQueryLod => 105
  | .opImageQueryLevels => 106
  | .opImageQuerySamples => 107
  | .opConvertUToF => 112
  | .opBitcast => 124
  | .opFNegate => 127
  | .opIAdd => 128
  | .opFAdd => 129
  | .opISub => 130
  | .opFSub => 131
  | .opIMul => 132
  | .opFMul => 133
  | .opFDiv => 136
  | .opFMod => 141
  | .opSelect => 169
  | .opULessThan => 176
  | .opFOrdEqual => 180
  | .opFOrdLessThan => 184
  | .opFUnordGreaterThan => 187
  | .opShiftLeftLogical => 196
  | .opBitwiseAnd => 199
  | .opPhi => 245
  | .opLoopMerge => 246
  | .opSelectionMerge => 247
  | .opLabel => 248
  | .opBranch => 249
  | .opBranchConditional => 250
  | .opSwitch => 251
  | .opKill => 252
  | .opReturn => 253
  | .opReturnValue => 254
  | .opUnreachable => 255
  | .opNoLine => 317
  | .opModuleProcessed => 330

def name : Opcode → String
  | .opNop => "Nop"
  | .opUndef => "Undef"
  | .opSourceContinued => "SourceContinued"
  | .opSource => "Source"
  | .opSourceExtension => "SourceExtension"
  | .opName => "Name"
  | .opMemberName => "MemberName"
  | .opString => "String"
  | .opLine => "Line"
  | .opExtension => "Extension"
  | .opExtInstImport => "ExtInstImport"
  | .opExtInst => "ExtInst"
  | .opMemoryModel => "MemoryModel"
  | .opEntryPoint => "EntryPoint"
  | .opExecutionMode => "ExecutionMode"
  | .opCapability => "Capability"
  | .opTypeVoid => "TypeVoid"
  | .opTypeBool => "TypeBool"
  | .opTypeInt => "TypeInt"
  | .opTypeFloat => "TypeFloat"
  | .opTypeVector => "TypeVector"
  | .opTypeMatrix => "TypeMatrix"
  | .opTypeImage => "TypeImage"
  | .opTypeSampler => "TypeSampler"
  | .opTypeSampledImage => "TypeSampledImage"
  | .opTypeArray => "TypeArray"
  | .opTypeRuntimeArray => "TypeRuntimeArray"
  | .opTypeStruct => "TypeStruct"
  | .opTypePointer => "TypePointer"
  | .opTypeFunction => "TypeFunction"
  | .opConstantTrue => "ConstantTrue"
  | .opConstantFalse => "ConstantFalse"
  | .opConstant => "Constant"
  | .opConstantComposite => "ConstantComposite"
  | .opConstantSampler => "ConstantSampler"
  | .opConstantNull => "ConstantNull"
  | .opSpecConstantTrue => "SpecConstantTrue"
  | .opSpecConstantFalse => "SpecConstantFalse"
  | .opSpecConstant => "SpecConstant"
  | .opSpecConstantComposite => "SpecConstantComposite"
  | .opSpecConstantOp => "SpecConstantOp"
  | .opFunction => "Function"
  | .opFunctionParameter => "FunctionParameter"
  | .opFunctionEnd => "FunctionEnd"
  | .opFunctionCall => "FunctionCall"
  | .opVariable => "Variable"
  | .opLoad => "Load"
  | .opStore => "Store"
  | .opDecorate => "Decorate"
  | .opMemberDecorate => "MemberDecorate"
  | .opCompositeExtract => "CompositeExtract"
  | .opSampledImage => "SampledImage"
  | .opImageSampleImplicitLod => "ImageSampleImplicitLod"
  | .opImageSampleExplicitLod => "ImageSampleExplicitLod"
  | .opImageFetch => "ImageFetch"
  | .opImageRead => "ImageRead"
  | .opImageWrite => "ImageWrite"
  | .opImageQueryFormat => "ImageQueryFormat"
  | .opImageQueryOrder => "ImageQueryOrder"
  | .opImageQuerySizeLod => "ImageQuerySizeLod"
  | .opImageQuerySize => "ImageQuerySize"
  | .opImageQueryLod => "ImageQueryLod"
  | .opImageQueryLevels => "ImageQueryLevels"
  | .opImageQuerySamples => "ImageQuerySamples"
  | .opConvertUToF => "ConvertUToF"
  | .opBitcast => "Bitcast"
  | .opFNegate => "FNegate"
  | .opIAdd => "IAdd"
  | .opFAdd => "FAdd"
  | .opISub => "ISub"
  | .opFSub => "FSub"
  | .opIMul => "IMul"
  | .opFMul => "FMul"
  | .opFDiv => "FDiv"
  | .opFMod => "FMod"
  | .opSelect => "Select"
  | .opULessThan => "ULessThan"
  | .opFOrdEqual => "FOrdEqual"
  | .opFOrdLessThan => "FOrdLessThan"
  | .opFUnordGreaterThan => "FUnordGreaterThan"
  | .opShiftLeftLogical => "ShiftLeftLogical"
  | .opBitwiseAnd => "BitwiseAnd"
  | .opPhi => "Phi"
  | .opLoopMerge => "LoopMerge"
  | .opSelectionMerge => "SelectionMerge"
  | .opLabel => "Label"
  | .opBranch => "Branch"
  | .opBranchConditional => "BranchConditional"
  | .opSwitch => "Switch"
  | .opKill => "Kill"
  | .opReturn => "Return"
  | .opReturnValue => "ReturnValue"
  | .opUnreachable => "Unreachable"
  | .opNoLine => "NoLine"
  | .opModuleProcessed => "ModuleProcessed"

/-- Every opcode, by increasing code. -/
def all : List Opcode := [
  .opNop, .opUndef, .opSourceContinued, .opSource, .opSourceExtension, .opName, .opMemberName,
  .opString, .opLine, .opExtension, .opExtInstImport, .opExtInst, .opMemoryModel, .opEntryPoint,
  .opExecutionMode, .opCapability, .opTypeVoid, .opTypeBool, .opTypeInt, .opTypeFloat,
  .opTypeVector, .opTypeMatrix, .opTypeImage, .opTypeSampler, .opTypeSampledImage, .opTypeArray,
  .opTypeRuntimeArray, .opTypeStruct, .opTypePointer, .opTypeFunction, .opConstantTrue,
  .opConstantFalse, .opConstant, .opConstantComposite, .opConstantSampler, .opConstantNull,
  .opSpecConstantTrue, .opSpecConstantFalse, .opSpecConstant, .opSpecConstantComposite,
  .opSpecConstantOp, .opFunction, .opFunctionParameter, .opFunctionEnd, .opFunctionCall,
  .opVariable, .opLoad, .opStore, .opDecorate, .opMemberDecorate, .opCompositeExtract,
  .opSampledImage, .opImageSampleImplicitLod, .opImageSampleExplicitLod, .opImageFetch,
  .opImageRead, .opImageWrite, .opImageQueryFormat, .opImageQueryOrder, .opImageQuerySizeLod,
  .opImageQuerySize, .opImageQueryLod, .opImageQueryLevels, .opImageQuerySamples, .opConvertUToF,
  .opBitcast, .opFNegate, .opIAdd, .opFAdd, .opISub, .opFSub, .opIMul, .opFMul, .opFDiv, .opFMod,
  .opSelect, .opULessThan, .opFOrdEqual, .opFOrdLessThan, .opFUnordGreaterThan,
  .opShiftLeftLogical, .opBitwiseAnd, .opPhi, .opLoopMerge, .opSelectionMerge, .opLabel,
  .opBranch, .opBranchConditional, .opSwitch, .opKill, .opReturn, .opReturnValue, .opUnreachable,
  .opNoLine, .opModuleProcessed]

def ofCode? (code : Nat) : Option Opcode := all.find? fun op => op.code = code

def ofName? (name : String) : Option Opcode := all.find? fun op => op.name = name

end Opcode

end ShaderGraph.Spirv
