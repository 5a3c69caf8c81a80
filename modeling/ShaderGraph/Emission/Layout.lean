import ShaderGraph.Closure.Basic
import ShaderGraph.Emission.Declaration

namespace ShaderGraph

open Spirv

namespace Library

def importDraft (lib : Library) (id : ImportId) : Attempt EmitError Draft := do
  Draft.checked ⟨.opExtInstImport, [.node (.extImport id), .text (← lib.importAt id).name]⟩

/-- The input and output variables among the globals. -/
def interface (lib : Library) (globals : List OpId) : Except Abort (List OpId) :=
  globals.filterM fun id => do
    return ((← lib.storageClassOf (← lib.opAt id)).map StorageClass.isInterface).getD false

/-- A function that is an entry point, declared with the variables of its interface. -/
def entryPointDraft (lib : Library) (interface : List OpId) (id : FunctionId) :
    Attempt EmitError (Option Draft) := do
  let function ← lib.functionAt id
  match function.executionModel with
  | none => return none
  | some model =>
    some <$> Draft.checked ⟨.opEntryPoint, [.word model.code, .node (.function id),
      .text function.name] ++ interface.map (.node <| .op ·)⟩

/-- The mode an execution model cannot do without, as a number and its parameters. -/
def executionMode? (model : ExecutionModel) : Option (List UInt32) :=
  if model = .fragment then some [7]
  else if model = .glCompute then some [17, 1, 1, 1]
  else none

def executionModeDraft (lib : Library) (id : FunctionId) : Attempt EmitError (Option Draft) := do
  let function ← lib.functionAt id
  match function.executionModel.bind executionMode? with
  | none => return none
  | some mode => some <$> Draft.checked ⟨.opExecutionMode, .node (.function id) :: mode.map .word⟩

/-- The name under which a declaration is known to debuggers. -/
def debugName? (lib : Library) : NodeRef → Except Abort (Option String)
  | .type id => do
    let decl ← lib.typeAt id
    return if decl.shape.kind = .struct then some decl.name else none
  | .op id => return (← lib.opAt id).debugName
  | .function id => return (← lib.functionAt id).name
  | _ => return none

def nameDraft (lib : Library) (node : NodeRef) : Attempt EmitError (Option Draft) := do
  match ← lib.debugName? node with
  | none => return none
  | some name => some <$> Draft.checked ⟨.opName, [.node node, .text name]⟩

def decorationDrafts (lib : Library) : NodeRef → Attempt EmitError (List Draft)
  | .op id => do
    (← lib.opAt id).decorations.mapM fun decoration =>
      Draft.checked ⟨.opDecorate, .node (.op id) :: .word decoration.kind.code ::
        decoration.literals.map .word⟩
  | _ => return []

def declarationDrafts (lib : Library) : NodeRef → Attempt EmitError (List Draft)
  | .type id => return [← lib.typeDraft id]
  | .op id => return [← lib.opDraft id]
  | _ => return []

/-- The instructions of a unit, in the order of the sections of a module. -/
def moduleDrafts (lib : Library) (c : Closure) (interface : List OpId) :
    Attempt EmitError (List Draft) := do
  let capabilities ← c.capabilities.mapM fun capability =>
    Draft.checked ⟨.opCapability, [.word capability.code]⟩
  let imports ← c.imports.mapM lib.importDraft
  let memoryModel ← Draft.checked ⟨.opMemoryModel, [.word 0, .word 1]⟩
  let entryPoints ← c.functions.filterMapM (lib.entryPointDraft interface)
  let modes ← c.functions.filterMapM lib.executionModeDraft
  let names ← (c.order ++ c.functions.map NodeRef.function).filterMapM lib.nameDraft
  let decorations ← c.order.mapM lib.decorationDrafts
  let declarations ← c.order.mapM lib.declarationDrafts
  let functions ← c.functions.mapM lib.functionDrafts
  return capabilities ++ imports ++ [memoryModel] ++ entryPoints ++ modes ++ names ++
    decorations.flatten ++ declarations.flatten ++ functions.flatten

end Library

end ShaderGraph
