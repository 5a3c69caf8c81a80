import ShaderGraph.Spirv.Kind

namespace ShaderGraph.Spirv

/-- A flag of a mask. Two flags of one mask may share their bit. -/
structure Flag where
  bit : UInt32
  name : String
  /-- What follows the mask when the bit is set. -/
  parameters : List OperandKind

def imageOperandsFlags : List Flag := [
  ⟨1, "Bias", [.id]⟩, ⟨2, "Lod", [.id]⟩, ⟨4, "Grad", [.id, .id]⟩, ⟨8, "ConstOffset", [.id]⟩,
  ⟨16, "Offset", [.id]⟩, ⟨32, "ConstOffsets", [.id]⟩, ⟨64, "Sample", [.id]⟩,
  ⟨128, "MinLod", [.id]⟩, ⟨256, "MakeTexelAvailable", [.id]⟩, ⟨256, "MakeTexelAvailableKHR", []⟩,
  ⟨512, "MakeTexelVisible", [.id]⟩, ⟨512, "MakeTexelVisibleKHR", []⟩,
  ⟨1024, "NonPrivateTexel", []⟩, ⟨1024, "NonPrivateTexelKHR", []⟩, ⟨2048, "VolatileTexel", []⟩,
  ⟨2048, "VolatileTexelKHR", []⟩, ⟨4096, "SignExtend", []⟩, ⟨8192, "ZeroExtend", []⟩,
  ⟨16384, "Nontemporal", []⟩, ⟨65536, "Offsets", [.id]⟩]

def selectionControlFlags : List Flag := [
  ⟨1, "Flatten", []⟩, ⟨2, "DontFlatten", []⟩]

def loopControlFlags : List Flag := [
  ⟨1, "Unroll", []⟩, ⟨2, "DontUnroll", []⟩, ⟨4, "DependencyInfinite", []⟩,
  ⟨8, "DependencyLength", [.literal]⟩, ⟨16, "MinIterations", [.literal]⟩,
  ⟨32, "MaxIterations", [.literal]⟩, ⟨64, "IterationMultiple", [.literal]⟩,
  ⟨128, "PeelCount", [.literal]⟩, ⟨256, "PartialCount", [.literal]⟩,
  ⟨65536, "InitiationIntervalINTEL", [.literal]⟩, ⟨131072, "MaxConcurrencyINTEL", [.literal]⟩,
  ⟨262144, "DependencyArrayINTEL", [.literal]⟩, ⟨524288, "PipelineEnableINTEL", [.literal]⟩,
  ⟨1048576, "LoopCoalesceINTEL", [.literal]⟩, ⟨2097152, "MaxInterleavingINTEL", [.literal]⟩,
  ⟨4194304, "SpeculatedIterationsINTEL", [.literal]⟩, ⟨8388608, "NoFusionINTEL", []⟩,
  ⟨16777216, "LoopCountINTEL", [.literal]⟩, ⟨33554432, "MaxReinvocationDelayINTEL", [.literal]⟩]

def functionControlFlags : List Flag := [
  ⟨1, "Inline", []⟩, ⟨2, "DontInline", []⟩, ⟨4, "Pure", []⟩, ⟨8, "Const", []⟩,
  ⟨65536, "OptNoneINTEL", []⟩]

def memoryAccessFlags : List Flag := [
  ⟨1, "Volatile", []⟩, ⟨2, "Aligned", [.literal]⟩, ⟨4, "Nontemporal", []⟩,
  ⟨8, "MakePointerAvailable", [.id]⟩, ⟨8, "MakePointerAvailableKHR", []⟩,
  ⟨16, "MakePointerVisible", [.id]⟩, ⟨16, "MakePointerVisibleKHR", []⟩,
  ⟨32, "NonPrivatePointer", []⟩, ⟨32, "NonPrivatePointerKHR", []⟩,
  ⟨65536, "AliasScopeINTELMask", [.id]⟩, ⟨131072, "NoAliasINTELMask", [.id]⟩]

def fpFastMathModeFlags : List Flag := [
  ⟨1, "NotNaN", []⟩, ⟨2, "NotInf", []⟩, ⟨4, "NSZ", []⟩, ⟨8, "AllowRecip", []⟩, ⟨16, "Fast", []⟩,
  ⟨65536, "AllowContractFastINTEL", []⟩, ⟨131072, "AllowReassocINTEL", []⟩]

def MaskKind.flags : MaskKind → List Flag
  | .imageOperands => imageOperandsFlags
  | .selectionControl => selectionControlFlags
  | .loopControl => loopControlFlags
  | .functionControl => functionControlFlags
  | .memoryAccess => memoryAccessFlags
  | .fpFastMathMode => fpFastMathModeFlags

namespace MaskKind

def allBits (kind : MaskKind) : UInt32 := kind.flags.foldl (fun bits flag => bits ||| flag.bit) 0

/-- Whether every set bit has a name. -/
def covers (kind : MaskKind) (bits : UInt32) : Bool := bits &&& kind.allBits = bits

/-- The flags set in a mask. -/
def setFlags (kind : MaskKind) (bits : UInt32) : List Flag :=
  kind.flags.filter fun flag => bits &&& flag.bit ≠ 0

def parameters (kind : MaskKind) (bits : UInt32) : List OperandKind :=
  (kind.setFlags bits).flatMap Flag.parameters

end MaskKind

end ShaderGraph.Spirv
