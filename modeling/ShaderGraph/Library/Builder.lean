import ShaderGraph.Library.Basic

namespace ShaderGraph

open Spirv

/-- A library under construction. Types other than structs, and imports, are shared: asking twice
for the same one gives the same node. -/
structure Builder where
  library : Library := {}
  /-- The shared types by shape, as they were when they were made. -/
  internedTypes : Table TypeShape TypeId := .empty
  importsByName : Table String ImportId := .empty

/-- A step of construction. -/
abbrev Build := StateT Builder (Except Abort)

namespace Builder

/-- Goes on with a library. Of two types of one shape, or two imports of one name, the later one
is shared from here on. -/
def ofLibrary (lib : Library) : Builder where
  library := lib
  internedTypes := .ofList <| lib.types.toList.zipIdx.filterMap fun (decl, i) =>
    if decl.shape.kind = .struct then none else some (decl.shape, ⟨i⟩)
  importsByName := .ofList <| lib.imports.toList.zipIdx.map fun (item, i) => (item.name, ⟨i⟩)

/-! New nodes. -/

def addType (decl : TypeDecl) : Build TypeId :=
  modifyGet fun b =>
    (⟨b.library.types.size⟩, { b with library.types := b.library.types.push decl })

def addBlock (block : Block) : Build BlockId :=
  modifyGet fun b =>
    (⟨b.library.blocks.size⟩, { b with library.blocks := b.library.blocks.push block })

def addFunction (function : Function) : Build FunctionId :=
  modifyGet fun b =>
    (⟨b.library.functions.size⟩, { b with library.functions := b.library.functions.push function })

def addOp (op : Op) : Build OpId :=
  modifyGet fun b => (⟨b.library.ops.size⟩, { b with library.ops := b.library.ops.push op })

def addImport (item : ExtImport) : Build ImportId :=
  modifyGet fun b =>
    (⟨b.library.imports.size⟩, { b with library.imports := b.library.imports.push item })

def literal (value : Literal) : Build LiteralId :=
  modifyGet fun b =>
    (⟨b.library.literals.size⟩, { b with library.literals := b.library.literals.push value })

/-- Changes the library in place. -/
def edit (f : Library → Except Abort Library) : Build Unit := do
  let b ← get
  set { b with library := ← f b.library }

/-! Types. -/

/-- The type of a shape, made under `name` if there is none yet. -/
def internType (name : String) (shape : TypeShape) : Build TypeId := do
  match (← get).internedTypes.find? shape with
  | some id => return id
  | none =>
    let id ← addType { name, shape }
    modify fun b => { b with internedTypes := b.internedTypes.insert shape id }
    return id

def typeName (id : TypeId) : Build String := do
  return (← (← get).library.typeAt id).name

def voidType : Build TypeId := internType "void" { kind := .void }

def boolType : Build TypeId := internType "bool" { kind := .bool }

def intType (width : UInt32) (signed : Bool) : Build TypeId :=
  internType ((if signed then "i" else "u") ++ toString width.toNat) { kind := .int width signed }

def floatType (width : UInt32) : Build TypeId :=
  internType ("f" ++ toString width.toNat) { kind := .float width }

def vectorType (component : TypeId) (count : UInt32) : Build TypeId := do
  internType ("vec" ++ toString count.toNat ++ "<" ++ (← typeName component) ++ ">")
    { kind := .vector count, component := component }

def matrixType (column : TypeId) (columns : UInt32) : Build TypeId := do
  internType ("mat" ++ toString columns.toNat ++ "<" ++ (← typeName column) ++ ">")
    { kind := .matrix columns, component := column }

/-- An array of a length that an integer constant holds. -/
def arrayType (element : TypeId) (length : OpId) : Build TypeId := do
  internType ("array<" ++ (← typeName element) ++ ">")
    { kind := .array, component := element, parameters := [.op length] }

def runtimeArrayType (element : TypeId) : Build TypeId := do
  internType ("array<" ++ (← typeName element) ++ ">")
    { kind := .runtimeArray, component := element }

/-- A new struct, found by its name from here on. -/
def structType (name : String) (members : List TypeId) : Build TypeId := do
  let id ← addType { name, shape := { kind := .struct, parameters := members.map .type } }
  modify fun b => { b with library.typeNames := b.library.typeNames.insert name id }
  return id

/-- The pointer to `base` in a storage class. The first one made becomes the pointer of `base`. -/
def pointerType (base : TypeId) (storageClass : StorageClass) : Build TypeId := do
  let name := "ptr<" ++ storageClass.name ++ ", " ++ (← typeName base) ++ ">"
  let id ← internType name { kind := .pointer storageClass, dereference := base }
  edit (·.modifyType base fun decl => { decl with pointer := decl.pointer <|> id })
  return id

def functionType (result : TypeId) (params : List TypeId) : Build TypeId := do
  let names ← params.mapM typeName
  internType ("fn(" ++ ", ".intercalate names ++ ") -> " ++ (← typeName result))
    { kind := .function, component := result, parameters := params.map .type }

def imageType (sampled : TypeId) (dim : Dim) : Build TypeId := do
  internType ("image" ++ dim.name ++ "<" ++ (← typeName sampled) ++ ">")
    { kind := .image dim 0 false false 1, component := sampled }

def sampledImageType (image : TypeId) : Build TypeId := do
  internType ("sampled<" ++ (← typeName image) ++ ">") { kind := .sampledImage, component := image }

def samplerType : Build TypeId := internType "sampler" { kind := .sampler }

/-! Instructions at module scope. -/

def extensionImport (name : String) : Build ImportId := do
  match (← get).importsByName.find? name with
  | some id => return id
  | none =>
    let id ← addImport ⟨name⟩
    modify fun b => { b with importsByName := b.importsByName.insert name id }
    return id

/-- An instruction that stands in no block. -/
def op (opcode : Opcode) (resultType : Option TypeId) (args : List NodeRef) : Build OpId :=
  addOp { opcode, resultType, args }

def constant (type : TypeId) (value : Literal) : Build OpId := do
  op .opConstant type [.literal (← literal value)]

def specConstant (type : TypeId) (value : Literal) : Build OpId := do
  op .opSpecConstant type [.literal (← literal value)]

def constantComposite (type : TypeId) (parts : List OpId) : Build OpId :=
  op .opConstantComposite type (parts.map .op)

/-- A variable at module scope, of the storage class of its pointer type. -/
def globalVariable (name : String) (type : TypeId) (initializer : Option FunctionId) :
    Build OpId := do
  let storageClass :=
    match (← (← get).library.typeAt type).shape.kind with
    | .pointer storageClass => storageClass
    | _ => .priv
  let storage ← literal (.int storageClass.code)
  let id ← addOp
    { opcode := .opVariable, resultType := type, args := [.literal storage], debugName := name }
  modify fun b => { b with library.globals := b.library.globals.insert id ⟨initializer⟩ }
  return id

def decorate (op : OpId) (kind : DecorationKind) (literals : List UInt32) : Build Unit :=
  edit (·.modifyOp op fun o => { o with decorations := o.decorations ++ [⟨kind, literals⟩] })

def setDebugName (op : OpId) (name : String) : Build Unit :=
  edit (·.modifyOp op fun o => { o with debugName := name })

/-! Functions. -/

/-- A function without blocks, owned by a type if one is given. -/
def function (owner : Option TypeId) (name : String) (type : TypeId) : Build FunctionId := do
  let parameterBlock ← addBlock ⟨[], []⟩
  let id ← addFunction
    { name, functionType := type, parameterBlock, blocks := [], executionModel := none }
  if let some owner := owner then
    edit (·.modifyType owner fun decl => { decl with functions := decl.functions ++ [id] })
  return id

def setExecutionModel (function : FunctionId) (model : ExecutionModel) : Build Unit :=
  edit (·.modifyFunction function fun f => { f with executionModel := some model })

def functionParameter (function : FunctionId) (type : TypeId) : Build OpId := do
  let id ← op .opFunctionParameter type []
  let f ← (← get).library.functionAt function
  edit (·.modifyBlock f.parameterBlock fun block => { block with lines := block.lines ++ [id] })
  return id

def appendBlock (function : FunctionId) : Build BlockId := do
  let id ← addBlock ⟨[], []⟩
  edit (·.modifyFunction function fun f => { f with blocks := f.blocks ++ [id] })
  return id

/-- Adds an instruction to the end of a block. -/
def pushOp (block : BlockId) (opcode : Opcode) (resultType : Option TypeId) (args : List NodeRef) :
    Build OpId := do
  let id ← op opcode resultType args
  edit (·.modifyBlock block fun b => { b with lines := b.lines ++ [id] })
  return id

/-- A variable local to a function. -/
def localVariable (block : BlockId) (type : TypeId) : Build OpId := do
  let storage ← literal (.int StorageClass.function.code)
  let id ← op .opVariable type [.literal storage]
  edit (·.modifyBlock block fun b => { b with locals := b.locals ++ [id] })
  return id

end Builder

end ShaderGraph
