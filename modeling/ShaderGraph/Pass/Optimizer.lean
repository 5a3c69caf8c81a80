import ShaderGraph.Pass
import ShaderGraph.Spirv.Module

namespace ShaderGraph

open Spirv

/-- Leaves out instructions that do nothing. -/
def Spirv.BasicBlock.withoutNops (b : BasicBlock) : BasicBlock :=
  { b with body := b.body.filter fun i => i.opcode ≠ .opNop }

/-- Each capability is declared once, blocks have no instructions that do nothing, and names for
debuggers are dropped if asked for. -/
def Spirv.Module.optimized (stripNames : Bool) (m : Module) : Module :=
  { m with
    capabilities := m.capabilities.eraseDups
    names := if stripNames then [] else m.names
    functions := m.functions.map fun f => { f with blocks := f.blocks.map BasicBlock.withoutNops } }

/-- Reads the module that a pass is given. -/
def readModule (words : List UInt32) : Attempt PassError Module :=
  (Module.ofWords words).mapError (Stop.map fun fault => .parse fault.message)

/-- Writes a module again without what it does not need. The reflection stays as it is. -/
def optimizer (stripNames : Bool) : Pass where
  name := "optimizer"
  output := .binary
  run artifact := do
    let binary ← expectBinary "optimizer" artifact
    let m ← readModule binary.words
    return .binary { binary with words := (m.optimized stripNames).words }

end ShaderGraph
