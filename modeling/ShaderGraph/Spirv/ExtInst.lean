namespace ShaderGraph.Spirv

/-- The name under which the standard instruction set is imported. -/
def glslSetName : String := "GLSL.std.450"

/-- The instructions of the standard set. -/
def glslNames : List (UInt32 × String) := [
  (1, "Round"), (2, "RoundEven"), (3, "Trunc"), (4, "FAbs"), (5, "SAbs"), (6, "FSign"),
  (7, "SSign"), (8, "Floor"), (9, "Ceil"), (10, "Fract"), (11, "Radians"), (12, "Degrees"),
  (13, "Sin"), (14, "Cos"), (15, "Tan"), (16, "Asin"), (17, "Acos"), (18, "Atan"), (19, "Sinh"),
  (20, "Cosh"), (21, "Tanh"), (22, "Asinh"), (23, "Acosh"), (24, "Atanh"), (25, "Atan2"),
  (26, "Pow"), (27, "Exp"), (28, "Log"), (29, "Exp2"), (30, "Log2"), (31, "Sqrt"),
  (32, "InverseSqrt"), (33, "Determinant"), (34, "MatrixInverse"), (35, "Modf"),
  (36, "ModfStruct"), (37, "FMin"), (38, "UMin"), (39, "SMin"), (40, "FMax"), (41, "UMax"),
  (42, "SMax"), (43, "FClamp"), (44, "UClamp"), (45, "SClamp"), (46, "FMix"), (47, "IMix"),
  (48, "Step"), (49, "SmoothStep"), (50, "Fma"), (51, "Frexp"), (52, "FrexpStruct"),
  (53, "Ldexp"), (54, "PackSnorm4x8"), (55, "PackUnorm4x8"), (56, "PackSnorm2x16"),
  (57, "PackUnorm2x16"), (58, "PackHalf2x16"), (59, "PackDouble2x32"), (60, "UnpackSnorm2x16"),
  (61, "UnpackUnorm2x16"), (62, "UnpackHalf2x16"), (63, "UnpackSnorm4x8"),
  (64, "UnpackUnorm4x8"), (65, "UnpackDouble2x32"), (66, "Length"), (67, "Distance"),
  (68, "Cross"), (69, "Normalize"), (70, "FaceForward"), (71, "Reflect"), (72, "Refract"),
  (73, "FindILsb"), (74, "FindSMsb"), (75, "FindUMsb"), (76, "InterpolateAtCentroid"),
  (77, "InterpolateAtSample"), (78, "InterpolateAtOffset"), (79, "NMin"), (80, "NMax"),
  (81, "NClamp")]

def glslName? (number : UInt32) : Option String := glslNames.lookup number

end ShaderGraph.Spirv
