import ShaderGraph.Closure.Basic

namespace ShaderGraph

structure EntryPointReflection where
  name : String
  executionModel : String
  deriving DecidableEq, Repr

structure GlobalReflection where
  name : String
  storageClass : String
  typeName : String
  deriving DecidableEq, Repr

/-- What a host program needs to know about a binary module. -/
structure Reflection where
  idBound : UInt32 := 0
  capabilities : List String := []
  extensionImports : List String := []
  initializers : List String := []
  entryPoints : List EntryPointReflection := []
  globals : List GlobalReflection := []
  deriving DecidableEq, Repr

namespace Library

def reflectEntryPoint (lib : Library) (id : FunctionId) :
    Except Abort (Option EntryPointReflection) := do
  let function ← lib.functionAt id
  return function.executionModel.map fun model => ⟨function.name, model.name⟩

/-- The name of the type that a pointer type leads to. -/
def pointeeName (lib : Library) (pointer : TypeId) : Except Abort String := do
  match (← lib.typeAt pointer).shape.dereference with
  | none => return ""
  | some id => return (← lib.typeAt id).name

def reflectGlobal (lib : Library) (id : OpId) : Except Abort GlobalReflection := do
  let op ← lib.opAt id
  let storageClass ← lib.storageClassOf op
  return {
    name := ← lib.displayName (.op id)
    storageClass := (storageClass.map Spirv.Enumerant.name).getD ""
    typeName := ← match op.resultType with
      | none => pure ""
      | some pointer => lib.pointeeName pointer }

def reflect (lib : Library) (c : Closure) (idBound : UInt32) : Except Abort Reflection := do
  return {
    idBound
    capabilities := c.capabilities.map Spirv.Enumerant.name
    extensionImports := ← c.imports.mapM fun id => return (← lib.importAt id).name
    initializers := ← c.initializers.mapM fun id => return (← lib.functionAt id).name
    entryPoints := ← c.functions.filterMapM lib.reflectEntryPoint
    globals := ← c.globals.mapM lib.reflectGlobal }

end Library

end ShaderGraph
