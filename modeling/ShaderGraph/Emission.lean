import ShaderGraph.Closure.Walk
import ShaderGraph.Emission.Layout
import ShaderGraph.Emission.Numbering
import ShaderGraph.Reflection

namespace ShaderGraph

open Spirv

/-- A binary module with its reflection. -/
structure Binary where
  words : List UInt32
  reflection : Reflection
  deriving DecidableEq, Repr

/-- The header of emitted modules: version 1.0, no generator. -/
def emittedHeader (bound : UInt32) : Header := ⟨0x00010000, 0, bound⟩

/-- The words of instructions under a numbering. -/
def emitWords (numbering : Numbering) (drafts : List Draft) : List UInt32 :=
  (emittedHeader (.ofNat numbering.bound)).words ++
    drafts.flatMap fun draft => (draft.frame fun node => .ofNat (numbering.id node)).words

namespace Library

/-- The ids of a module: imports first, then the interface, which every entry point shares, then
all nodes as its instructions mention them. -/
def numbering (c : Closure) (interface : List OpId) (drafts : List Draft) : Numbering :=
  .ofMentions (c.imports.map .extImport ++ interface.map .op ++ drafts.flatMap Draft.mentions)

/-- Emits a closure. -/
def emit (lib : Library) (c : Closure) : Attempt EmitError Binary := do
  let interface ← lib.interface c.globals
  let drafts ← lib.moduleDrafts c interface
  let numbering ← (numbering c interface drafts).checked
  return ⟨emitWords numbering drafts, ← lib.reflect c (.ofNat numbering.bound)⟩

/-- Emits an entry type and everything it depends on. -/
def emitType (lib : Library) (entry : TypeId) : Attempt EmitError Binary := do
  lib.emit (← lib.dependencies (.type entry))

end Library

end ShaderGraph
