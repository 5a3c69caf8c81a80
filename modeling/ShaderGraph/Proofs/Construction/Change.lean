import Mathlib.Logic.Relation
import ShaderGraph.Proofs.Construction.Soundness

namespace ShaderGraph

open Spirv

/-- The shapes that a builder gives to types: what a kind does not need is not set. -/
inductive TypeShape.Regular : TypeShape → Prop
  | void : Regular { kind := .void }
  | bool : Regular { kind := .bool }
  | int (width : UInt32) (signed : Bool) : Regular { kind := .int width signed }
  | float (width : UInt32) : Regular { kind := .float width }
  | vector (component : TypeId) (count : UInt32) : Regular { kind := .vector count, component := some component }
  | matrix (column : TypeId) (columns : UInt32) : Regular { kind := .matrix columns, component := some column }
  | array (element : TypeId) (length : OpId) :
    Regular { kind := .array, component := some element, parameters := [.op length] }
  | runtimeArray (element : TypeId) : Regular { kind := .runtimeArray, component := some element }
  | struct (members : List TypeId) : Regular { kind := .struct, parameters := members.map .type }
  | pointer (storageClass : StorageClass) (base : TypeId) :
    Regular { kind := .pointer storageClass, dereference := some base }
  | function (result : TypeId) (params : List TypeId) :
    Regular { kind := .function, component := some result, parameters := params.map .type }
  | image (sampledType : TypeId) (dim : Dim) (depth : UInt32) (arrayed multisampled : Bool) (sampled : UInt32) :
    Regular { kind := .image dim depth arrayed multisampled sampled, component := some sampledType }
  | sampledImage (image : TypeId) : Regular { kind := .sampledImage, component := some image }
  | sampler : Regular { kind := .sampler }

/-- The type that a pointer type points to. -/
def TypeShape.target? (shape : TypeShape) : Option TypeId :=
  match shape.kind with
  | .pointer _ => shape.dereference
  | _ => none

namespace Library

/-- Notes a pointer at its target, if that has none yet. -/
def notePointer (lib : Library) (target pointer : TypeId) : Library :=
  { lib with
    types := lib.types.modify target.index fun decl => { decl with pointer := decl.pointer <|> some pointer } }

/-- What a request about some nodes can do to a library, one change at a time. What is new is made of these nodes
and of what the request has made before. -/
inductive Change (uses : List NodeRef) (lib : Library) : Library → Prop
  | type (name : String) {shape : TypeShape} (regular : shape.Regular) (noPointer : shape.target? = none)
    (refs : ∀ ref ∈ shape.refs, ref ∈ uses) : Change uses lib { lib with types := lib.types.push { name, shape } }
  | typeName (name : String) (id : TypeId) : Change uses lib { lib with typeNames := lib.typeNames.insert name id }
  /-- A pointer is noted as soon as it is made. -/
  | pointer (name : String) {target : TypeId} (storageClass : StorageClass) (used : .type target ∈ uses)
    (held : lib.Holds (.type target)) :
    Change uses lib <| notePointer { lib with
      types := lib.types.push { name, shape := { kind := .pointer storageClass, dereference := some target } } }
      target ⟨lib.types.size⟩
  | pointerAgain {target pointer : TypeId} {storageClass : StorageClass}
    (has : lib.HasShape pointer { kind := .pointer storageClass, dereference := some target }) :
    Change uses lib (lib.notePointer target pointer)
  | own (owner : TypeId) {function : FunctionId} (held : lib.Holds (.function function)) :
    Change uses lib { lib with
      types := lib.types.modify owner.index fun decl => { decl with functions := decl.functions ++ [function] } }
  | extImport (item : ExtImport) : Change uses lib { lib with imports := lib.imports.push item }
  | literal (value : Literal) : Change uses lib { lib with literals := lib.literals.push value }
  | op {op : Op} (refs : ∀ ref ∈ op.refs, ref ∈ uses ∨ ∃ literal, ref = .literal literal ∧ lib.Holds ref) :
    Change uses lib { lib with ops := lib.ops.push op }
  | global (id : OpId) {initializer : Option FunctionId}
    (used : ∀ function, initializer = some function → .function function ∈ uses) :
    Change uses lib { lib with globals := lib.globals.insert id ⟨initializer⟩ }
  | block : Change uses lib { lib with blocks := lib.blocks.push ⟨[], []⟩ }
  | function {function : Function} (refs : ∀ ref ∈ function.refs, ref ∈ uses ∨ lib.Holds ref) :
    Change uses lib { lib with functions := lib.functions.push function }
  | modifyOp (id : OpId) {f : Op → Op} (kept : ∀ op, (f op).refs = op.refs) :
    Change uses lib { lib with ops := lib.ops.modify id.index f }
  | modifyFunction (id : FunctionId) {f : Function → Function}
    (refs : ∀ old, ∀ ref ∈ (f old).refs, ref ∈ old.refs ∨ lib.Holds ref) :
    Change uses lib { lib with functions := lib.functions.modify id.index f }
  | modifyBlock (id : BlockId) {f : Block → Block}
    (refs : ∀ old, ∀ ref ∈ (f old).refs, ref ∈ old.refs ∨ lib.Holds ref) :
    Change uses lib { lib with blocks := lib.blocks.modify id.index f }

def Changes (uses : List NodeRef) : Library → Library → Prop := Relation.ReflTransGen (Change uses)

/-- All types have shapes that a builder gives. -/
def Regular (lib : Library) : Prop := ∀ id shape, lib.HasShape id shape → shape.Regular

variable {uses given : List NodeRef} {lib lib' : Library}

theorem Changes.kept {Kept : Library → Prop} (changes : Changes uses lib lib')
    (each : ∀ lib lib', Change uses lib lib' → Kept lib → Kept lib') (start : Kept lib) : Kept lib' := by
  induction changes with
  | refl => exact start
  | tail _ last ih => exact each _ _ last ih

theorem Regular.empty : Regular {} := by
  rintro id shape ⟨decl, atId, _⟩
  cases atId

theorem Regular.push (regular : lib.Regular) {decl : TypeDecl} (new : decl.shape.Regular) :
    Regular { lib with types := lib.types.push decl } := by
  intro id shape has
  rcases hasShape_push.mp has with old | ⟨_, rfl⟩
  · exact regular id shape old
  · exact new

theorem Regular.modify (regular : lib.Regular) {place : TypeId} {f : TypeDecl → TypeDecl}
    (kept : ∀ decl, (f decl).shape = decl.shape) :
    Regular { lib with types := lib.types.modify place.index f } :=
  fun id shape has => regular id shape ((hasShape_modify kept).mp has)

theorem Change.regular (change : lib.Change uses lib') (regular : lib.Regular) : lib'.Regular := by
  cases change with
  | type name new => exact regular.push new
  | pointer name storageClass => exact (regular.push (.pointer storageClass _)).modify fun _ => rfl
  | pointerAgain | own => exact regular.modify fun _ => rfl
  | typeName | extImport | literal | op | global | block | function | modifyOp | modifyFunction | modifyBlock =>
    exact regular

theorem Sound.notePointer (sound : lib.Sound given) {target pointer : TypeId} {storageClass : StorageClass}
    (has : lib.HasShape pointer { kind := .pointer storageClass, dereference := some target }) :
    (lib.notePointer target pointer).Sound given := by
  refine sound.modify_type (fun _ => rfl) (fun decl other known => ?_) (fun _ _ => .inl)
  cases noted : decl.pointer with
  | some old => exact .inl (by simpa [noted] using known)
  | none =>
    obtain rfl : pointer = other := by simpa [noted] using known
    exact .inr ⟨storageClass, has⟩

theorem Sound.insert_global (sound : lib.Sound given) (id : OpId) {initializer : Option FunctionId}
    (held : ∀ function, initializer = some function → lib.Holds (.function function)) :
    Sound { lib with globals := lib.globals.insert id ⟨initializer⟩ } given := by
  refine sound.of_grows (.of_sizes (fun _ _ has => has) (by simp)) (fun _ _ => .inl) (fun _ _ => .inl)
    (fun _ _ => .inl) (fun _ _ => .inl) ?_
  intro other function recorded
  by_cases same : other = id
  · subst same
    simp only [initializer?, findGlobal?, Table.find?_insert_self, Option.bind_some] at recorded
    exact .inr (held function recorded)
  · simp only [initializer?, findGlobal?, Table.find?_insert_of_ne _ _ same] at recorded
    exact .inl recorded

/-- A request about nodes that were given out leaves a library sound. -/
theorem Change.sound (change : lib.Change uses lib') (known : ∀ node ∈ uses, node ∈ given) (sound : lib.Sound given) :
    lib'.Sound given := by
  have held {node : NodeRef} (used : node ∈ uses) : lib.Holds node := sound.held node (known node used)
  cases change with
  | type name regular noPointer refs => exact sound.push_type (fun ref member => known ref (refs ref member)) rfl rfl
  | typeName =>
    exact sound.of_grows (.of_sizes (fun _ _ has => has) (by simp)) (fun _ _ => .inl) (fun _ _ => .inl)
      (fun _ _ => .inl) (fun _ _ => .inl) (fun _ _ => .inl)
  | @pointer name target storageClass used =>
    have parts : ∀ ref ∈ TypeShape.refs { kind := .pointer storageClass, dereference := some target }, ref ∈ given := by
      simpa [TypeShape.refs] using known _ used
    exact (sound.push_type parts rfl rfl).notePointer (hasShape_push.mpr (.inr ⟨rfl, rfl⟩))
  | pointerAgain has => exact sound.notePointer has
  | own owner held =>
    refine sound.modify_type (fun _ => rfl) (fun _ _ => .inl) fun decl function member => ?_
    refine (List.mem_append.mp member).imp_right fun last => ?_
    rw [List.mem_singleton.mp last]
    exact held
  | extImport item =>
    exact sound.of_grows (.push_import lib item) (fun _ _ => .inl) (fun _ _ => .inl) (fun _ _ => .inl)
      (fun _ _ => .inl) (fun _ _ => .inl)
  | literal value =>
    exact sound.of_grows (.push_literal lib value) (fun _ _ => .inl) (fun _ _ => .inl) (fun _ _ => .inl)
      (fun _ _ => .inl) (fun _ _ => .inl)
  | op refs => exact sound.push_op fun ref member => (refs ref member).imp_left (known ref)
  | global id used => exact sound.insert_global id fun function same => held (used function same)
  | block => exact sound.push_empty_block
  | function refs => exact sound.push_function fun ref member => (refs ref member).elim held fun there => there
  | modifyOp id kept => exact sound.modify_op kept
  | modifyFunction id refs => exact sound.modify_function refs
  | modifyBlock id refs => exact sound.modify_block refs

end Library

end ShaderGraph
