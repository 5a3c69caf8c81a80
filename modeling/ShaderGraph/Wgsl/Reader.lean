import ShaderGraph.Spirv.ExtInst
import ShaderGraph.Spirv.Module
import ShaderGraph.Wgsl.Shader

namespace ShaderGraph.Wgsl

open Spirv

/-- How far the reading of a module has come. Parts must not come before earlier ones again. -/
inductive Phase where
  | start
  | within (part : Spirv.Section)
  | functions
  deriving DecidableEq, Repr

namespace Phase

def title : Phase → String
  | .start => "Empty"
  | .within .capability => "Capability"
  | .within .extension => "Extension"
  | .within .extImport => "ExtInstImport"
  | .within .memoryModel => "MemoryModel"
  | .within .entryPoint => "EntryPoint"
  | .within .executionMode => "ExecutionMode"
  | .within .source => "Source"
  | .within .name => "Name"
  | .within .processed => "ModuleProcessed"
  | .within .decoration => "Annotation"
  | .within .declaration => "Type"
  | .functions => "Function"

def rank : Phase → Nat
  | .start => 0
  | .within .capability => 1
  | .within .extension => 2
  | .within .extImport => 3
  | .within .memoryModel => 4
  | .within .entryPoint => 5
  | .within .executionMode => 6
  | .within .source => 7
  | .within .name => 8
  | .within .processed => 9
  | .within .decoration => 10
  | .within .declaration => 11
  | .functions => 12

/-- Where an instruction outside functions belongs. -/
def of? : Opcode → Option Phase
  | .opFunction => some .functions
  | .opVariable => some (.within .declaration)
  | opcode => opcode.section?.map .within

end Phase

/-- Why a module cannot be turned into a shader. -/
inductive Fault where
  | incompleteData
  | invalidHeader
  | invalidWordCount
  | unknownInstruction (code : Nat)
  | unknownCapability (code : UInt32)
  | unsupportedInstruction (phase : Phase) (opcode : Opcode)
  | invalidOperandCount (opcode : Opcode) (count : Nat)
  | invalidOperand
  | unsupportedExecutionModel (code : UInt32)
  | unsupportedExtSet (name : String)
  | invalidId (id : UInt32)
  | unsupportedType (id : UInt32)
  | badString
  deriving DecidableEq, Repr

def Fault.message : Fault → String
  | .incompleteData => "incomplete data"
  | .invalidHeader => "invalid header"
  | .invalidWordCount => "invalid word count"
  | .unknownInstruction code => "unknown instruction " ++ toString code
  | .unknownCapability code => "unknown capability %" ++ toString code.toNat
  | .unsupportedInstruction phase opcode =>
    "unsupported instruction " ++ opcode.name ++ " at " ++ phase.title
  | .invalidOperandCount opcode count =>
    "invalid operand count " ++ toString count ++ " for " ++ opcode.name
  | .invalidOperand => "invalid operand"
  | .unsupportedExecutionModel code => "unsupported execution model %" ++ toString code.toNat
  | .unsupportedExtSet name => "unsupported extension set " ++ Text.quoted name
  | .invalidId id => "invalid id %" ++ toString id.toNat
  | .unsupportedType id => "unsupported type %" ++ toString id.toNat
  | .badString => "bad string"

/-- How many words an instruction may have. -/
inductive WordCount where
  | exactly (count : Nat)
  | atLeast (count : Nat)
  deriving DecidableEq, Repr

def WordCount.allows : WordCount → Nat → Bool
  | .exactly count, n => n = count
  | .atLeast count, n => count ≤ n

def wordCount : Opcode → WordCount
  | .opCapability | .opTypeVoid | .opTypeBool => .exactly 2
  | .opMemoryModel | .opTypeFloat => .exactly 3
  | .opTypeInt | .opTypeVector | .opTypePointer => .exactly 4
  | .opFunction => .exactly 5
  | .opLabel => .exactly 2
  | .opReturn | .opFunctionEnd => .exactly 1
  | .opExtension | .opTypeStruct => .atLeast 2
  | .opExtInstImport | .opExecutionMode | .opName | .opDecorate | .opTypeFunction
  | .opConstantComposite | .opStore => .atLeast 3
  | .opEntryPoint | .opMemberName | .opMemberDecorate | .opConstant | .opVariable
  | .opLoad => .atLeast 4
  | .opExtInst => .atLeast 5
  | _ => .atLeast 1

/-- What a type id stands for. Only data types and pointers are types of the shader. -/
inductive TypeMeaning where
  | void
  | function
  | place (index : Nat)
  deriving DecidableEq, Repr

/-- An entry point before its function is met. -/
structure Announcement where
  name : String
  stage : Stage
  interface : List UInt32
  deriving DecidableEq, Repr

/-- A function up to here. -/
structure OpenProcedure where
  id : UInt32
  hasLabel : Bool := false
  body : List Statement := []
  /-- Values of instructions that were not used yet. A value that cannot be written in place has no
  expression. -/
  values : Table UInt32 (Option Expr) := .empty

/-- A module read up to here. -/
structure Reading where
  shader : Shader := {}
  phase : Phase := .start
  glslIds : List UInt32 := []
  announced : Table UInt32 Announcement := .empty
  groupSizes : Table UInt32 (List UInt32) := .empty
  names : Table UInt32 String := .empty
  memberNames : Table (UInt32 × UInt32) String := .empty
  bindings : Table UInt32 Binding := .empty
  types : Table UInt32 TypeMeaning := .empty
  constants : Table UInt32 Expr := .empty
  globals : Table UInt32 Nat := .empty
  current : Option OpenProcedure := none

namespace Reading

def textOf (words : List UInt32) : Except Fault (String × List UInt32) :=
  match unpackBytes words with
  | none => .error .badString
  | some (bytes, rest) =>
    match Text.decodeUtf8 ⟨bytes.toArray⟩ with
    | .ok text => .ok (text, rest)
    | .error _ => .error .badString

/-- A text that takes all of the words. -/
def wholeText (words : List UInt32) : Except Fault String := do
  match ← textOf words with
  | (text, []) => return text
  | _ => throw .invalidOperand

def lookUp {α : Type} (table : Table UInt32 α) (id : UInt32) : Except Fault α :=
  match table.find? id with
  | some found => .ok found
  | none => .error (.invalidId id)

/-- The place of a type that is one of the shader's. -/
def typePlace (r : Reading) (id : UInt32) : Except Fault Nat := do
  match ← lookUp r.types id with
  | .place index => return index
  | _ => throw (.invalidId id)

/-- The scalar type at a place. -/
def scalarAt (r : Reading) (id : UInt32) : Except Fault Scalar := do
  match r.shader.form? (← r.typePlace id) with
  | some (.scalar kind) => return kind
  | _ => throw (.invalidId id)

/-- Gives a type its meaning. Equal types have one place. -/
def defineType (r : Reading) (id : UInt32) (form : TypeForm) : Reading :=
  let type : TypeDef := ⟨r.names.find? id, form⟩
  match r.shader.types.findIdx? (· = type) with
  | some index => { r with types := r.types.insert id (.place index) }
  | none =>
    { r with
      types := r.types.insert id (.place r.shader.types.length)
      shader.types := r.shader.types ++ [type] }

def stageOf (code : UInt32) : Except Fault Stage :=
  match Enumerant.ofCode? .executionModel code with
  | none => .error (.unsupportedExecutionModel code)
  | some model =>
    if model = ExecutionModel.vertex then .ok .vertex
    else if model = ExecutionModel.fragment then .ok .fragment
    else if model = ExecutionModel.glCompute then .ok .compute
    else .error (.unsupportedExecutionModel code)

/-- The binding that a decoration gives, if it is about bindings. -/
def bindingOf? (kind : UInt32) (literals : List UInt32) : Option Binding :=
  match Enumerant.ofCode? .decoration kind, literals with
  | some kind, [value] =>
    if kind = DecorationKind.builtIn && value = 0 then some .position
    else if kind = DecorationKind.location then some (.location value)
    else none
  | _, _ => none

/-- The number of the execution mode that gives the size of groups. -/
def localSizeMode : UInt32 := 17

/-- Reads an instruction outside functions. -/
def declare (r : Reading) (opcode : Opcode) (operands : List UInt32) : Except Fault Reading :=
  match opcode, operands with
  | .opCapability, [code] =>
    if (Enumerant.ofCode? .capability code).isSome then .ok r else .error (.unknownCapability code)
  | .opExtInstImport, id :: words => do
    let name ← wholeText words
    if name = glslSetName then return { r with glslIds := id :: r.glslIds }
    else throw (.unsupportedExtSet name)
  | .opEntryPoint, code :: id :: words => do
    let stage ← stageOf code
    let (name, interface) ← textOf words
    return { r with announced := r.announced.insert id ⟨name, stage, interface⟩ }
  | .opExecutionMode, [id, mode, x, y, z] =>
    if mode = localSizeMode then .ok { r with groupSizes := r.groupSizes.insert id [x, y, z] }
    else .ok r
  | .opName, id :: words => do
    return { r with names := r.names.insert id (← wholeText words) }
  | .opMemberName, id :: index :: words => do
    return { r with memberNames := r.memberNames.insert (id, index) (← wholeText words) }
  | .opDecorate, id :: kind :: literals =>
    match bindingOf? kind literals with
    | some binding => .ok { r with bindings := r.bindings.insert id binding }
    | none => .ok r
  | .opTypeVoid, [id] => .ok { r with types := r.types.insert id .void }
  | .opTypeFunction, id :: _ => .ok { r with types := r.types.insert id .function }
  | .opTypeBool, [id] => .ok (r.defineType id (.scalar .bool))
  | .opTypeInt, [id, width, sign] =>
    if width = 32 then .ok (r.defineType id (.scalar (if sign = 0 then .u32 else .i32)))
    else .error (.unsupportedType id)
  | .opTypeFloat, [id, width] =>
    if width = 32 then .ok (r.defineType id (.scalar .f32)) else .error (.unsupportedType id)
  | .opTypeVector, [id, component, count] => do
    let kind ← r.scalarAt component
    if 2 ≤ count && count ≤ 4 then return r.defineType id (.vector count kind)
    else throw (.unsupportedType id)
  | .opTypePointer, [id, storageClass, base] => do
    match Enumerant.ofCode? .storageClass storageClass with
    | some storageClass => return r.defineType id (.pointer (← r.typePlace base) storageClass)
    | none => throw (.unsupportedType id)
  | .opTypeStruct, id :: members => do
    let members ← members.zipIdx.mapM fun (member, i) =>
      return (← r.typePlace member, r.memberNames.find? (id, .ofNat i))
    return r.defineType id (.struct members)
  | .opConstant, [type, id, word] => do
    return { r with constants := r.constants.insert id (.literal (← r.scalarAt type) word) }
  | .opConstantComposite, type :: id :: parts => do
    let parts ← parts.mapM (lookUp r.constants)
    return { r with constants := r.constants.insert id (.compose (← r.typePlace type) parts) }
  | .opVariable, [type, id, _] => do
    match r.shader.form? (← r.typePlace type) with
    | some (.pointer base storageClass) =>
      if storageClass = .priv || storageClass = .output then
        let isOutput := storageClass = .output
        let binding := if isOutput then r.bindings.find? id else none
        return { r with
          globals := r.globals.insert id r.shader.globals.length
          shader.globals := r.shader.globals ++ [⟨r.names.find? id, base, binding, isOutput⟩] }
      else throw (.unsupportedType type)
    | _ => throw (.invalidId type)
  | .opFunction, [type, id, _, _] => do
    if (← lookUp r.types type) = .void then return { r with current := some { id } }
    else throw (.unsupportedType type)
  | .opConstant, _ | .opVariable, _ => .error .invalidOperand
  | _, _ =>
    -- What is no declaration says nothing that a shader needs.
    if r.phase = .within .declaration then .error (.unsupportedInstruction r.phase opcode)
    else .ok r

/-- The value of an id in a function, which is taken out if it was computed there. -/
def use (r : Reading) (p : OpenProcedure) (id : UInt32) : Except Fault (Expr × OpenProcedure) :=
  match r.constants.find? id, p.values.find? id with
  | some value, _ => .ok (value, p)
  | none, some (some value) => .ok (value, { p with values := p.values.insert id none })
  | none, some none => .error .invalidOperand
  | none, none => .error (.invalidId id)

/-- Functions of the standard set that take one argument, with their names. -/
def mathFunctions : List (UInt32 × String) :=
  [(1, "round"), (2, "round"), (3, "trunc"), (4, "abs"), (5, "abs"), (6, "sign"), (7, "sign"),
   (8, "floor"), (9, "ceil"), (10, "fract"), (11, "radians"), (12, "degrees"), (13, "sin"),
   (14, "cos"), (15, "tan"), (16, "asin"), (17, "acos"), (18, "atan"), (19, "sinh"), (20, "cosh"),
   (21, "tanh"), (22, "asinh"), (23, "acosh"), (24, "atanh"), (27, "exp"), (28, "log"),
   (29, "exp2"), (30, "log2"), (31, "sqrt"), (32, "inverseSqrt"), (66, "length"),
   (69, "normalize")]

/-- The output among the variables of an interface. There is at most one. -/
def outputOf (r : Reading) (interface : List UInt32) : Except Fault (Option Nat) := do
  let places ← interface.mapM (lookUp r.globals)
  match places.filter fun place => (r.shader.globals[place]?.map Global.isOutput).getD false with
  | [] => return none
  | [place] => return some place
  | _ => throw .invalidOperand

/-- Ends a function. If it was announced as an entry point, that calls it. -/
def finish (r : Reading) (p : OpenProcedure) : Except Fault Reading := do
  let place := r.shader.procedures.length
  let procedures := r.shader.procedures ++ [⟨r.names.find? p.id, p.body⟩]
  let r := { r with current := none, shader.procedures := procedures }
  match r.announced.find? p.id with
  | none => return r
  | some a =>
    let groupSize := (r.groupSizes.find? p.id).getD []
    let entry : EntryPoint := ⟨a.name, a.stage, place, ← r.outputOf a.interface, groupSize⟩
    return { r with shader.entryPoints := r.shader.entryPoints ++ [entry] }

/-- Reads an instruction of a function of one block. -/
def perform (r : Reading) (p : OpenProcedure) (opcode : Opcode) (operands : List UInt32) :
    Except Fault Reading :=
  match opcode, operands with
  | .opLabel, [_] =>
    if p.hasLabel then .error (.unsupportedInstruction r.phase opcode)
    else .ok { r with current := some { p with hasLabel := true } }
  | .opLoad, _ :: id :: source :: _ => do
    let _ ← lookUp r.globals source
    return { r with current := some { p with values := p.values.insert id none } }
  | .opStore, target :: value :: _ => do
    let place ← lookUp r.globals target
    let (value, p) ← r.use p value
    return { r with current := some { p with body := p.body ++ [.assign place value] } }
  | .opExtInst, [_, id, set, number, arg] => do
    if set ∉ r.glslIds then throw (.invalidId set)
    match mathFunctions.lookup number with
    | none => throw .invalidOperand
    | some function =>
      let (arg, p) ← r.use p arg
      let values := p.values.insert id (some (.call function arg))
      return { r with current := some { p with values } }
  | .opReturn, [] => .ok { r with current := some { p with body := p.body ++ [.leave] } }
  | .opFunctionEnd, [] => r.finish p
  | _, _ => .error (.unsupportedInstruction r.phase opcode)

/-- Goes on to the part of the module that an instruction belongs to. -/
def moveTo (r : Reading) (opcode : Opcode) : Except Fault Reading :=
  match Phase.of? opcode with
  | none => .error (.unsupportedInstruction r.phase opcode)
  | some target =>
    if target.rank < r.phase.rank then .error (.unsupportedInstruction r.phase opcode)
    else .ok { r with phase := target }

/-- Reads an instruction that says to have `count` words, of which these operands are there. -/
def step (r : Reading) (opcode : Opcode) (count : Nat) (operands : List UInt32) :
    Except Fault Reading := do
  let r ← if r.current.isSome then pure r else r.moveTo opcode
  if !(wordCount opcode).allows count then throw (.invalidOperandCount opcode count)
  if operands.length + 1 < count then throw .incompleteData
  match r.current with
  | none => r.declare opcode operands
  | some p => r.perform p opcode operands

/-- Reads instructions to the end. -/
def readFrom (r : Reading) : List UInt32 → Except Fault Shader
  | [] => if r.current.isSome then .error .incompleteData else .ok r.shader
  | first :: rest => do
    let count := Frame.countOf first
    if count = 0 then throw .invalidWordCount
    match Opcode.ofCode? (Frame.codeOf first) with
    | none => throw (.unknownInstruction (Frame.codeOf first))
    | some opcode =>
      let r ← r.step opcode count (rest.take (count - 1))
      r.readFrom (rest.drop (count - 1))
termination_by words => words.length
decreasing_by simp only [List.length_drop, List.length_cons]; omega

end Reading

/-- Reads a module as a shader. -/
def Shader.ofWords : List UInt32 → Except Fault Shader
  | magic :: rest =>
    if magic ≠ magicNumber then .error .invalidHeader
    else
      match rest with
      | _ :: _ :: _ :: _ :: body => Reading.readFrom {} body
      | _ => .error .incompleteData
  | [] => .error .incompleteData

end ShaderGraph.Wgsl
