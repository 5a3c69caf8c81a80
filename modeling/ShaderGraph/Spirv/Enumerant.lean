import ShaderGraph.Spirv.Enumerant.Names

namespace ShaderGraph.Spirv

def EnumKind.name? (kind : EnumKind) (code : UInt32) : Option String := kind.names.lookup code

/-- A named value of one of the closed lists. -/
structure Enumerant (kind : EnumKind) where
  code : UInt32
  known : (kind.name? code).isSome
  deriving DecidableEq, Repr

namespace Enumerant

variable {kind : EnumKind}

def name (e : Enumerant kind) : String := (kind.name? e.code).get e.known

def ofCode? (kind : EnumKind) (code : UInt32) : Option (Enumerant kind) :=
  if known : (kind.name? code).isSome then some ⟨code, known⟩ else none

theorem ofCode?_code {kind : EnumKind} (e : Enumerant kind) : ofCode? kind e.code = some e := by
  simp [ofCode?, e.known]

theorem code_of_ofCode? {kind : EnumKind} {code : UInt32} {e : Enumerant kind} (found : ofCode? kind code = some e) :
    e.code = code := by
  unfold ofCode? at found
  split at found <;> cases found
  rfl

def ofName? (kind : EnumKind) (name : String) : Option (Enumerant kind) :=
  (kind.names.find? fun row => row.2 = name).bind fun row => ofCode? kind row.1

end Enumerant

abbrev Capability := Enumerant .capability

abbrev StorageClass := Enumerant .storageClass

abbrev ExecutionModel := Enumerant .executionModel

abbrev Dim := Enumerant .dim

abbrev DecorationKind := Enumerant .decoration

namespace Capability

def shader : Capability := ⟨1, rfl⟩

def imageQuery : Capability := ⟨50, rfl⟩

end Capability

namespace StorageClass

def uniformConstant : StorageClass := ⟨0, rfl⟩

def input : StorageClass := ⟨1, rfl⟩

def uniform : StorageClass := ⟨2, rfl⟩

def output : StorageClass := ⟨3, rfl⟩

/-- Visible to one invocation, alive for the whole of it. -/
def priv : StorageClass := ⟨6, rfl⟩

/-- Local to a function. -/
def function : StorageClass := ⟨7, rfl⟩

def storageBuffer : StorageClass := ⟨12, rfl⟩

/-- Whether variables of the class live at module scope. -/
def isGlobal (c : StorageClass) : Bool :=
  c ∈ [uniform, uniformConstant, storageBuffer, input, output, priv]

/-- Whether variables of the class belong to the interface of an entry point. -/
def isInterface (c : StorageClass) : Bool := c ∈ [input, output]

end StorageClass

namespace ExecutionModel

def vertex : ExecutionModel := ⟨0, rfl⟩

def geometry : ExecutionModel := ⟨3, rfl⟩

def fragment : ExecutionModel := ⟨4, rfl⟩

def glCompute : ExecutionModel := ⟨5, rfl⟩

end ExecutionModel

namespace DecorationKind

def builtIn : DecorationKind := ⟨11, rfl⟩

def location : DecorationKind := ⟨30, rfl⟩

end DecorationKind

end ShaderGraph.Spirv
