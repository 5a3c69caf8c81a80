import ShaderGraph.Config
import ShaderGraph.Library.Builder

namespace ShaderGraph.Demo

open Spirv Builder

def vertexSource : String :=
  "[Vertex]\nstruct DemoVertex\n\x7b\n    [Output] var Position : Real4;\n" ++
  "    [Static] var Scale : Real = 1.0;\n\n    function Main()\n    \x7b\n" ++
  "        this.Position = Real4(0.0, 0.0, 0.0, 1.0);\n    \x7d\n\x7d"

def pixelSource : String :=
  "[Pixel]\nstruct DemoPixel\n\x7b\n    [Output] var Color : Real4;\n\n" ++
  "    function Main()\n    \x7b\n" ++
  "        this.Color = Math.Abs(Real4(1.0, -0.5, 0.25, 1.0));\n    \x7d\n\x7d"

/-- Two stages: one sets the position of a vertex, with a global that an initializer fills, the
other the color of a pixel, by an instruction of the standard set. -/
def build : Build Unit := do
  let void ← voidType
  let f32 ← floatType 32
  let vec4 ← vectorType f32 4
  let mainType ← functionType void []
  let outputVec4 ← pointerType vec4 .output
  let privateF32 ← pointerType f32 .priv
  let zero ← constant f32 (.float 0x00000000)
  let one ← constant f32 (.float 0x3F800000)

  let vertex ← structType "DemoVertex" [vec4, f32]
  let initScale ← function none "initScale" mainType
  let block ← appendBlock initScale
  let scale ← globalVariable "scale" privateF32 initScale
  let _ ← pushOp block .opStore none [.op scale, .op one]
  let _ ← pushOp block .opReturn none []
  let position ← globalVariable "position" outputVec4 none
  decorate position .builtIn [0]
  let origin ← constantComposite vec4 [zero, zero, zero, one]
  let main ← function vertex "main" mainType
  setExecutionModel main Stage.vertex.executionModel
  let block ← appendBlock main
  let _ ← pushOp block .opLoad f32 [.op scale]
  let _ ← pushOp block .opStore none [.op position, .op origin]
  let _ ← pushOp block .opReturn none []

  let pixel ← structType "DemoPixel" [vec4]
  let glsl ← extensionImport "GLSL.std.450"
  let color ← globalVariable "outColor" outputVec4 none
  decorate color .location [0]
  let half ← constant f32 (.float 0xBF000000)
  let quarter ← constant f32 (.float 0x3E800000)
  let tint ← constantComposite vec4 [one, half, quarter, one]
  let main ← function pixel "main" mainType
  setExecutionModel main Stage.pixel.executionModel
  let block ← appendBlock main
  let absNumber ← literal (.int 4)
  let abs ← pushOp block .opExtInst vec4 [.extImport glsl, .literal absNumber, .op tint]
  let _ ← pushOp block .opStore none [.op color, .op abs]
  let _ ← pushOp block .opReturn none []

/-- The library that is compiled when no other is given. -/
def library : Library :=
  match build.run {} with
  | .ok (_, builder) => builder.library
  | .error _ => {}

/-- The geometry and compute stages have no entry type and are left out. -/
def stages : List StageDefinition := [
  { stage := .vertex, entryType := "DemoVertex", source := vertexSource },
  { stage := .geometry },
  { stage := .pixel, entryType := "DemoPixel", source := pixelSource },
  { stage := .compute }]

def config : Config where
  pipeline := { debugPasses := [.disassembler], backend := some .wgsl }

end ShaderGraph.Demo
