import ShaderGraph.Library.Basic

namespace ShaderGraph

open Spirv

/-- What a unit of emission depends on. Every list is in the order of discovery and without
repetition. -/
structure Closure where
  types : List TypeId := []
  functions : List FunctionId := []
  constants : List OpId := []
  globals : List OpId := []
  imports : List ImportId := []
  /-- Types, constants and globals in the order in which they are declared. -/
  order : List NodeRef := []
  capabilities : List Capability := [.shader]
  /-- The functions that initialize the globals. Each is listed after those it depends on, except where its
  global is met while the walk is still under way with it or with something that it depends on. -/
  initializers : List FunctionId := []
  deriving DecidableEq, Repr

namespace Closure

/-- Adds an element to the end of a list that does not have it. -/
def insertNew {α : Type} [DecidableEq α] (xs : List α) (x : α) : List α :=
  if x ∈ xs then xs else xs ++ [x]

def addType (c : Closure) (id : TypeId) : Closure :=
  { c with types := insertNew c.types id, order := insertNew c.order (.type id) }

def addConstant (c : Closure) (id : OpId) : Closure :=
  { c with constants := insertNew c.constants id, order := insertNew c.order (.op id) }

def addGlobal (c : Closure) (id : OpId) : Closure :=
  { c with globals := insertNew c.globals id, order := insertNew c.order (.op id) }

def addFunction (c : Closure) (id : FunctionId) : Closure :=
  { c with functions := insertNew c.functions id }

def addImport (c : Closure) (id : ImportId) : Closure :=
  { c with imports := insertNew c.imports id }

def addCapability (c : Closure) (capability : Capability) : Closure :=
  { c with capabilities := insertNew c.capabilities capability }

def addInitializer (c : Closure) (id : FunctionId) : Closure :=
  { c with initializers := insertNew c.initializers id }

end Closure

end ShaderGraph
