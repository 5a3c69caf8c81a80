import ShaderGraph.Emission.Draft
import ShaderGraph.Library.Basic

namespace ShaderGraph

open Spirv

/-- The operand an argument becomes: literals stand for themselves. -/
def Library.pieceOf (lib : Library) : NodeRef → Except Abort Piece
  | .literal id => do
    match ← lib.literalAt id with
    | .int value => return .word value
    | .float bits => return .word bits
    | .text value => return .text value
  | node => return .node node

def Library.piecesOf (lib : Library) (args : List NodeRef) : Except Abort (List Piece) :=
  args.mapM lib.pieceOf

/-- An operand that a type must have. -/
def TypeDecl.need (decl : TypeDecl) (operand : Option TypeId) (what : String) :
    Attempt EmitError Piece :=
  match operand with
  | some id => .ok (.node (.type id))
  | none => Attempt.fail (.missingOperand decl.name what)

def flagPiece (b : Bool) : Piece := .word (if b then 1 else 0)

/-- The opcode of a type's declaration and its operands after the id. -/
def Library.typeOperands (lib : Library) (decl : TypeDecl) :
    Attempt EmitError (Opcode × List Piece) := do
  let component := decl.shape.component
  match decl.shape.kind with
  | .void => return (.opTypeVoid, [])
  | .bool => return (.opTypeBool, [])
  | .int width signed => return (.opTypeInt, [.word width, flagPiece signed])
  | .float width => return (.opTypeFloat, [.word width])
  | .vector count => return (.opTypeVector, [← decl.need component "component type", .word count])
  | .matrix columns => return (.opTypeMatrix, [← decl.need component "column type", .word columns])
  | .array =>
    let element ← decl.need component "element type"
    match decl.shape.parameters with
    | [] => Attempt.fail (.missingOperand decl.name "length")
    | length :: _ => return (.opTypeArray, [element, ← lib.pieceOf length])
  | .runtimeArray => return (.opTypeRuntimeArray, [← decl.need component "element type"])
  | .struct => return (.opTypeStruct, ← lib.piecesOf decl.shape.parameters)
  | .pointer storageClass =>
    let pointee ← decl.need decl.shape.dereference "pointee type"
    return (.opTypePointer, [.word storageClass.code, pointee])
  | .function =>
    let result ← decl.need component "return type"
    return (.opTypeFunction, result :: (← lib.piecesOf decl.shape.parameters))
  | .image dim depth arrayed multisampled sampled =>
    let sampledType ← decl.need component "sampled type"
    return (.opTypeImage, [sampledType, .word dim.code, .word depth, flagPiece arrayed,
      flagPiece multisampled, .word sampled, .word 0])
  | .sampledImage => return (.opTypeSampledImage, [← decl.need component "image type"])
  | .sampler => return (.opTypeSampler, [])

def Library.typeDraft (lib : Library) (id : TypeId) : Attempt EmitError Draft := do
  let (opcode, pieces) ← lib.typeOperands (← lib.typeAt id)
  Draft.checked ⟨opcode, .node (.type id) :: pieces⟩

/-- An instruction: its result type and its id if it has a result, then its arguments. -/
def Library.opDraft (lib : Library) (id : OpId) : Attempt EmitError Draft := do
  let op ← lib.opAt id
  let result := op.resultType.toList.flatMap fun type => [.node (.type type), .node (.op id)]
  Draft.checked ⟨op.opcode, result ++ (← lib.piecesOf op.args)⟩

/-- A block with its label, the local variables first. -/
def Library.blockDrafts (lib : Library) (id : BlockId) : Attempt EmitError (List Draft) := do
  let block ← lib.blockAt id
  let label ← Draft.checked ⟨.opLabel, [.node (.block id)]⟩
  return label :: (← (block.locals ++ block.lines).mapM lib.opDraft)

def Library.functionDrafts (lib : Library) (id : FunctionId) : Attempt EmitError (List Draft) := do
  let function ← lib.functionAt id
  let type ← lib.typeAt function.functionType
  let result ← type.need type.shape.component "return type"
  let head ← Draft.checked
    ⟨.opFunction, [result, .node (.function id), .word 0, .node (.type function.functionType)]⟩
  let parameters ← (← lib.blockAt function.parameterBlock).lines.mapM lib.opDraft
  let blocks ← function.blocks.mapM lib.blockDrafts
  return head :: parameters ++ blocks.flatten ++ [⟨.opFunctionEnd, []⟩]

end ShaderGraph
