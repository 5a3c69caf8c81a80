import ShaderGraph.Abort
import ShaderGraph.Spirv.Frame
import ShaderGraph.Spirv.Opcode
import ShaderGraph.Spirv.Packed

namespace ShaderGraph

open Spirv

/-- Why a unit has no binary form. -/
inductive EmitError where
  /-- A type lacks an operand that its kind needs. -/
  | missingOperand (node operand : String)
  | instructionTooLong (opcode : Opcode) (words : Nat)
  deriving DecidableEq, Repr

def EmitError.message : EmitError → String
  | .missingOperand node operand => node ++ " has no " ++ operand
  | .instructionTooLong opcode words =>
    "instruction " ++ opcode.name ++ " needs " ++ toString words ++
      " words, more than an instruction can hold"

/-- A piece of an instruction under construction. -/
inductive Piece where
  /-- To become the id of the node. -/
  | node (target : NodeRef)
  | word (value : UInt32)
  | text (value : String)
  deriving DecidableEq, Repr

namespace Piece

def wordCount : Piece → Nat
  | .node _ | .word _ => 1
  | .text value => packedLength value.utf8ByteSize

def words (idOf : NodeRef → UInt32) : Piece → List UInt32
  | .node target => [idOf target]
  | .word value => [value]
  | .text value => packText value

def mention? : Piece → Option NodeRef
  | .node target => some target
  | _ => none

end Piece

/-- An instruction that names nodes in place of ids. -/
structure Draft where
  opcode : Opcode
  pieces : List Piece
  deriving DecidableEq, Repr

namespace Draft

def wordCount (d : Draft) : Nat := d.pieces.foldl (fun count piece => count + piece.wordCount) 1

/-- The nodes named, in order. -/
def mentions (d : Draft) : List NodeRef := d.pieces.filterMap Piece.mention?

/-- The instruction once each node has its id. -/
def frame (idOf : NodeRef → UInt32) (d : Draft) : Frame :=
  ⟨d.opcode.code, d.pieces.flatMap (Piece.words idOf)⟩

/-- Accepts an instruction that can be encoded. -/
def checked (d : Draft) : Attempt EmitError Draft :=
  if d.wordCount ≤ maxWordCount then .ok d
  else Attempt.fail (.instructionTooLong d.opcode d.wordCount)

end Draft

end ShaderGraph
