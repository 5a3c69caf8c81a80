import ShaderGraph.Pass
import ShaderGraph.Wgsl.Reader
import ShaderGraph.Wgsl.Writer

namespace ShaderGraph

/-- Turns a module into WGSL source. -/
def wgsl : Pass where
  name := "wgsl"
  output := .text
  run artifact := do
    let binary ← expectBinary "wgsl" artifact
    match Wgsl.Shader.ofWords binary.words with
    | .error fault => Attempt.fail (.parse fault.message)
    | .ok shader =>
      match shader.invalid? with
      | some invalid => Attempt.fail (.validation invalid.message)
      | none => return .text shader.text

end ShaderGraph
