import ShaderGraph.Spirv.Kind

namespace ShaderGraph.Spirv

def executionModeParameters : List (UInt32 × List OperandKind) := [
  (0, [.literal]), (17, [.literal, .literal, .literal]), (18, [.literal, .literal, .literal]),
  (26, [.literal]), (30, [.literal]), (35, [.literal]), (36, [.literal]), (37, [.id]),
  (38, [.id, .id, .id]), (39, [.id, .id, .id]), (4459, [.literal]), (4460, [.literal]),
  (4461, [.literal]), (4462, [.literal]), (4463, [.literal]), (5071, [.id]),
  (5072, [.id, .id, .id]), (5073, [.id]), (5077, [.id, .id, .id]), (5270, [.literal]),
  (5618, [.literal]), (5620, [.literal]), (5621, [.literal]), (5622, [.literal]),
  (5623, [.literal]), (5893, [.literal, .literal, .literal]), (5894, [.literal]),
  (5896, [.literal]), (5903, [.literal]), (6154, [.literal]), (6160, [.literal]),
  (6417, [.literal])]

def decorationParameters : List (UInt32 × List OperandKind) := [
  (1, [.literal]), (6, [.literal]), (7, [.literal]), (11, [.enumerant .builtIn]), (27, [.id]),
  (29, [.literal]), (30, [.literal]), (31, [.literal]), (32, [.literal]), (33, [.literal]),
  (34, [.literal]), (35, [.literal]), (36, [.literal]), (37, [.literal]),
  (38, [.enumerant .functionParameterAttribute]), (39, [.enumerant .fpRoundingMode]),
  (40, [.mask .fpFastMathMode]), (41, [.text, .enumerant .linkageType]), (43, [.literal]),
  (44, [.literal]), (45, [.literal]), (46, [.id]), (47, [.id]), (5019, [.id]), (5020, [.id]),
  (5091, [.text]), (5256, [.literal]), (5599, [.literal]), (5607, [.text]), (5625, [.literal]),
  (5628, [.literal]), (5634, [.id]), (5635, [.text]), (5636, [.text]),
  (5822, [.literal, .enumerant .fpRoundingMode]), (5823, [.literal, .enumerant .fpDenormMode]),
  (5826, [.text]), (5827, [.literal]), (5828, [.literal]), (5829, [.literal]),
  (5832, [.literal]), (5834, [.text, .text]), (5835, [.literal]), (5836, [.literal]),
  (5900, [.literal]), (5902, [.literal]), (5909, [.literal, .literal]), (5914, [.id]),
  (5915, [.id]), (5917, [.literal]), (5918, [.literal]), (5919, [.literal]), (5921, [.literal]),
  (5944, [.literal]), (6080, [.literal, .enumerant .fpOperationMode]),
  (6147, [.enumerant .initializationModeQualifier]), (6148, [.literal]),
  (6168, [.enumerant .hostAccessQualifier, .text]), (6170, [.literal]), (6172, [.literal]),
  (6173, [.literal, .literal, .literal]), (6177, [.literal]), (6178, [.literal]),
  (6179, [.literal]), (6180, [.enumerant .accessQualifier]), (6181, [.literal]),
  (6182, [.literal]), (6442, [.literal, .enumerant .loadCacheControl]),
  (6443, [.literal, .enumerant .storeCacheControl])]

/-- What follows a named value as part of the same operand. -/
def EnumKind.parameters (kind : EnumKind) (code : UInt32) : List OperandKind :=
  match kind with
  | .executionMode => (executionModeParameters.lookup code).getD []
  | .decoration => (decorationParameters.lookup code).getD []
  | _ => []

end ShaderGraph.Spirv
