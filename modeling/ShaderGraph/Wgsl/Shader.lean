import ShaderGraph.Spirv.Enumerant

namespace ShaderGraph.Wgsl

/-! Shaders as they are written in WGSL. Parts refer to each other by their places in the lists of
the shader. -/

inductive Scalar where
  | f32
  | i32
  | u32
  | bool
  deriving DecidableEq, Repr

def Scalar.name : Scalar → String
  | .f32 => "f32"
  | .i32 => "i32"
  | .u32 => "u32"
  | .bool => "bool"

inductive TypeForm where
  | scalar (kind : Scalar)
  | vector (count : UInt32) (kind : Scalar)
  | pointer (base : Nat) (storageClass : Spirv.StorageClass)
  /-- A struct by the types of its members, with names where they have some. -/
  | struct (members : List (Nat × Option String))
  deriving DecidableEq, Repr

structure TypeDef where
  name : Option String
  form : TypeForm
  deriving DecidableEq, Repr

/-- An expression without effect. -/
inductive Expr where
  /-- A scalar by the word that holds it. -/
  | literal (kind : Scalar) (word : UInt32)
  /-- A value of the type at a place, by its components. -/
  | compose (type : Nat) (parts : List Expr)
  /-- A call of a built-in function. -/
  | call (function : String) (arg : Expr)
  deriving Repr

inductive Statement where
  /-- Assigns to the variable at a place. -/
  | assign (target : Nat) (value : Expr)
  | leave
  deriving Repr

/-- Where a value goes that an entry point gives back. -/
inductive Binding where
  | position
  | location (number : UInt32)
  deriving DecidableEq, Repr

/-- A variable of the module. -/
structure Global where
  name : Option String
  type : Nat
  /-- Set on outputs that have one. -/
  binding : Option Binding
  isOutput : Bool
  deriving DecidableEq, Repr

/-- A function without parameters and result. -/
structure Procedure where
  name : Option String
  body : List Statement
  deriving Repr

inductive Stage where
  | vertex
  | fragment
  | compute
  deriving DecidableEq, Repr

def Stage.name : Stage → String
  | .vertex => "Vertex"
  | .fragment => "Fragment"
  | .compute => "Compute"

/-- An entry point: it calls a procedure and gives back an output. -/
structure EntryPoint where
  name : String
  stage : Stage
  procedure : Nat
  /-- The place of the variable that holds the output. -/
  output : Option Nat
  /-- How many invocations make up a group, in three directions. Compute stages only. -/
  groupSize : List UInt32
  deriving DecidableEq, Repr

structure Shader where
  types : List TypeDef := []
  globals : List Global := []
  procedures : List Procedure := []
  entryPoints : List EntryPoint := []
  deriving Repr

/-! Which shaders are valid. -/

inductive Invalid where
  | type (place : Nat) (name : String)
  | entryPoint (name : String) (stage : Stage)
  deriving DecidableEq, Repr

def Invalid.message : Invalid → String
  | .type place name => "Type [" ++ toString place ++ "] '" ++ name ++ "' is invalid"
  | .entryPoint name stage => "Entry point " ++ name ++ " at " ++ stage.name ++ " is invalid"

namespace Shader

def form? (s : Shader) (place : Nat) : Option TypeForm := s.types[place]?.map TypeDef.form

/-- Whether values of a type can be members of structs. Pointers cannot. -/
def isData (s : Shader) (place : Nat) : Bool :=
  match s.form? place with
  | some (.pointer _ _) | none => false
  | some _ => true

/-- A struct has members, and these are data. -/
def isValidType (s : Shader) : TypeForm → Bool
  | .struct members => !members.isEmpty && members.all fun member => s.isData member.1
  | _ => true

/-- An output goes to a location, or it is the position of a vertex. -/
def isValidOutput (s : Shader) (stage : Stage) (g : Global) : Bool :=
  match g.binding with
  | none => false
  | some .position => stage = .vertex && s.form? g.type = some (.vector 4 .f32)
  | some (.location _) =>
    match s.form? g.type with
    | some (.scalar kind) | some (.vector _ kind) => kind ≠ .bool
    | _ => false

/-- Groups have a size in compute stages, within limits. -/
def isValidGroupSize (e : EntryPoint) : Bool :=
  if e.stage = .compute then
    e.groupSize.length = 3 && e.groupSize.all fun n => 0 < n && n ≤ 0x4000
  else e.groupSize.isEmpty

/-- A vertex needs a position. -/
def isValidEntryPoint (s : Shader) (e : EntryPoint) : Bool :=
  isValidGroupSize e &&
    match e.output.bind fun place => s.globals[place]? with
    | none => e.stage ≠ .vertex
    | some g => s.isValidOutput e.stage g && (e.stage ≠ .vertex || g.binding = some .position)

/-- The first thing that is wrong with a shader. -/
def invalid? (s : Shader) : Option Invalid :=
  let badType := s.types.zipIdx.find? fun (t, _) => !s.isValidType t.form
  let badEntry := s.entryPoints.find? fun e => !s.isValidEntryPoint e
  (badType.map fun (t, place) => .type place (t.name.getD "")) <|>
    badEntry.map fun e => .entryPoint e.name e.stage

end Shader

end ShaderGraph.Wgsl
