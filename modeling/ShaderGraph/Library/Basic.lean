import ShaderGraph.Abort
import ShaderGraph.Library.Literal
import ShaderGraph.Library.Type
import ShaderGraph.Spirv.OpcodeClass
import ShaderGraph.Table

namespace ShaderGraph

open Spirv

structure Function where
  name : String
  functionType : TypeId
  /-- Holds the parameters as instructions. -/
  parameterBlock : BlockId
  /-- The entry block comes first. -/
  blocks : List BlockId
  /-- Set on the entry point of a shader stage. -/
  executionModel : Option ExecutionModel
  deriving DecidableEq, Repr

structure Block where
  lines : List OpId
  locals : List OpId
  deriving DecidableEq, Repr

structure Decoration where
  kind : DecorationKind
  literals : List UInt32
  deriving DecidableEq, Repr

/-- An instruction. -/
structure Op where
  opcode : Opcode
  resultType : Option TypeId
  args : List NodeRef
  debugName : Option String := none
  decorations : List Decoration := []
  deriving DecidableEq, Repr

/-- An extended instruction set. -/
structure ExtImport where
  name : String
  deriving DecidableEq, Repr

structure GlobalVariable where
  /-- Computes the first value of the variable when the module starts. -/
  initializer : Option FunctionId
  deriving DecidableEq, Repr

/-- A shader library: the nodes of a graph, each sort in order of insertion, and two side tables. -/
structure Library where
  types : Array TypeDecl := #[]
  functions : Array Function := #[]
  blocks : Array Block := #[]
  ops : Array Op := #[]
  literals : Array Literal := #[]
  imports : Array ExtImport := #[]
  /-- Names under which the entry types of stages are found. -/
  typeNames : Table String TypeId := .empty
  globals : Table OpId GlobalVariable := .empty

namespace Library

/-- The node a reference leads to, or the reference that leads nowhere. -/
def follow {α : Type} (nodes : Array α) (index : Nat) (node : NodeRef) : Except Abort α :=
  match nodes[index]? with
  | some found => .ok found
  | none => .error (.missingNode node)

def typeAt (lib : Library) (id : TypeId) : Except Abort TypeDecl :=
  follow lib.types id.index (.type id)

def functionAt (lib : Library) (id : FunctionId) : Except Abort Function :=
  follow lib.functions id.index (.function id)

def blockAt (lib : Library) (id : BlockId) : Except Abort Block :=
  follow lib.blocks id.index (.block id)

def opAt (lib : Library) (id : OpId) : Except Abort Op :=
  follow lib.ops id.index (.op id)

def literalAt (lib : Library) (id : LiteralId) : Except Abort Literal :=
  follow lib.literals id.index (.literal id)

def importAt (lib : Library) (id : ImportId) : Except Abort ExtImport :=
  follow lib.imports id.index (.extImport id)

def findType? (lib : Library) (name : String) : Option TypeId := lib.typeNames.find? name

def findGlobal? (lib : Library) (op : OpId) : Option GlobalVariable := lib.globals.find? op

/-- The function recorded to initialize a global variable. -/
def initializer? (lib : Library) (op : OpId) : Option FunctionId :=
  (lib.findGlobal? op).bind GlobalVariable.initializer

/-- The storage class of a variable, which its first argument holds. None for other instructions
and for arguments that are no storage class. -/
def storageClassOf (lib : Library) (op : Op) : Except Abort (Option StorageClass) :=
  if op.opcode = .opVariable then
    match op.args with
    | .literal id :: _ => do
      match ← lib.literalAt id with
      | .int value => return Enumerant.ofCode? _ value
      | _ => return none
    | _ => return none
  else return none

/-- A short name for a node. -/
def displayName (lib : Library) : NodeRef → Except Abort String
  | .type id => return (← lib.typeAt id).name
  | .function id => return (← lib.functionAt id).name
  | .block id => return "block" ++ toString id.index
  | .op id => do
    let op ← lib.opAt id
    return op.debugName.getD (op.opcode.name ++ "#" ++ toString id.index)
  | .literal id => return (← lib.literalAt id).display
  | .extImport id => return (← lib.importAt id).name

/-! Replacing the content of a node. -/

/-- Changes the node a reference leads to. -/
def revise {α : Type} (nodes : Array α) (index : Nat) (node : NodeRef) (f : α → α) :
    Except Abort (Array α) :=
  if index < nodes.size then .ok (nodes.modify index f) else .error (.missingNode node)

def modifyType (lib : Library) (id : TypeId) (f : TypeDecl → TypeDecl) : Except Abort Library := do
  return { lib with types := ← revise lib.types id.index (.type id) f }

def modifyFunction (lib : Library) (id : FunctionId) (f : Function → Function) :
    Except Abort Library := do
  return { lib with functions := ← revise lib.functions id.index (.function id) f }

def modifyBlock (lib : Library) (id : BlockId) (f : Block → Block) : Except Abort Library := do
  return { lib with blocks := ← revise lib.blocks id.index (.block id) f }

def modifyOp (lib : Library) (id : OpId) (f : Op → Op) : Except Abort Library := do
  return { lib with ops := ← revise lib.ops id.index (.op id) f }

end Library

end ShaderGraph
