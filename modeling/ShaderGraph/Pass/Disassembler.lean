import ShaderGraph.Pass.Optimizer
import ShaderGraph.Spirv.Listing

namespace ShaderGraph

/-- Lists a module as text. -/
def disassembler : Pass where
  name := "disassembler"
  output := .text
  run artifact := do
    let binary ← expectBinary "disassembler" artifact
    return .text (← (← readModule binary.words).listing)

end ShaderGraph
