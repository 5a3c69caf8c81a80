import ShaderGraph.Pass.Disassembler
import ShaderGraph.Pass.Wgsl

namespace ShaderGraph

/-- The passes that can be asked for by name. -/
inductive PassId where
  | optimizer
  | disassembler
  | wgsl
  deriving DecidableEq, Repr

namespace PassId

def all : List PassId := [.optimizer, .disassembler, .wgsl]

def name : PassId → String
  | .optimizer => "optimizer"
  | .disassembler => "disassembler"
  | .wgsl => "wgsl"

def ofName? (name : String) : Option PassId := all.find? fun id => id.name = name

def pass : PassId → Pass
  | .optimizer => ShaderGraph.optimizer true
  | .disassembler => ShaderGraph.disassembler
  | .wgsl => ShaderGraph.wgsl

end PassId

end ShaderGraph
