import ShaderGraph.Library.Builder

namespace ShaderGraph

open Spirv

/-- A request to a builder. -/
inductive Call where
  | voidType
  | boolType
  | samplerType
  | intType (width : UInt32) (signed : Bool)
  | floatType (width : UInt32)
  | vectorType (component : TypeId) (count : UInt32)
  | matrixType (column : TypeId) (columns : UInt32)
  | arrayType (element : TypeId) (length : OpId)
  | runtimeArrayType (element : TypeId)
  | structType (name : String) (members : List TypeId)
  | pointerType (base : TypeId) (storageClass : StorageClass)
  | functionType (result : TypeId) (params : List TypeId)
  | imageType (sampled : TypeId) (dim : Dim)
  | sampledImageType (image : TypeId)
  | literal (value : Literal)
  | extensionImport (name : String)
  | op (opcode : Opcode) (resultType : Option TypeId) (args : List NodeRef)
  | constant (type : TypeId) (value : Literal)
  | specConstant (type : TypeId) (value : Literal)
  | constantComposite (type : TypeId) (parts : List OpId)
  | globalVariable (name : String) (type : TypeId) (initializer : Option FunctionId)
  | decorate (op : OpId) (kind : DecorationKind) (literals : List UInt32)
  | setDebugName (op : OpId) (name : String)
  | function (owner : Option TypeId) (name : String) (type : TypeId)
  | setExecutionModel (function : FunctionId) (model : ExecutionModel)
  | functionParameter (function : FunctionId) (type : TypeId)
  | appendBlock (function : FunctionId)
  | pushOp (block : BlockId) (opcode : Opcode) (resultType : Option TypeId) (args : List NodeRef)
  | localVariable (block : BlockId) (type : TypeId)
  /-- Finishes the library and goes on with it in a new builder. -/
  | reopen

namespace Call

/-- Carries out a request and gives the node it returns, if it returns one. -/
def run : Call → Build (Option NodeRef)
  | .voidType => (some <| .type ·) <$> Builder.voidType
  | .boolType => (some <| .type ·) <$> Builder.boolType
  | .samplerType => (some <| .type ·) <$> Builder.samplerType
  | .intType width signed => (some <| .type ·) <$> Builder.intType width signed
  | .floatType width => (some <| .type ·) <$> Builder.floatType width
  | .vectorType component count => (some <| .type ·) <$> Builder.vectorType component count
  | .matrixType column columns => (some <| .type ·) <$> Builder.matrixType column columns
  | .arrayType element length => (some <| .type ·) <$> Builder.arrayType element length
  | .runtimeArrayType element => (some <| .type ·) <$> Builder.runtimeArrayType element
  | .structType name members => (some <| .type ·) <$> Builder.structType name members
  | .pointerType base storageClass => (some <| .type ·) <$> Builder.pointerType base storageClass
  | .functionType result params => (some <| .type ·) <$> Builder.functionType result params
  | .imageType sampled dim => (some <| .type ·) <$> Builder.imageType sampled dim
  | .sampledImageType image => (some <| .type ·) <$> Builder.sampledImageType image
  | .literal value => (some <| .literal ·) <$> Builder.literal value
  | .extensionImport name => (some <| .extImport ·) <$> Builder.extensionImport name
  | .op opcode resultType args => (some <| .op ·) <$> Builder.op opcode resultType args
  | .constant type value => (some <| .op ·) <$> Builder.constant type value
  | .specConstant type value => (some <| .op ·) <$> Builder.specConstant type value
  | .constantComposite type parts => (some <| .op ·) <$> Builder.constantComposite type parts
  | .globalVariable name type initializer =>
    (some <| .op ·) <$> Builder.globalVariable name type initializer
  | .decorate target kind literals => (fun _ => none) <$> Builder.decorate target kind literals
  | .setDebugName target name => (fun _ => none) <$> Builder.setDebugName target name
  | .function owner name type => (some <| .function ·) <$> Builder.function owner name type
  | .setExecutionModel target model => (fun _ => none) <$> Builder.setExecutionModel target model
  | .functionParameter target type => (some <| .op ·) <$> Builder.functionParameter target type
  | .appendBlock target => (some <| .block ·) <$> Builder.appendBlock target
  | .pushOp block opcode resultType args =>
    (some <| .op ·) <$> Builder.pushOp block opcode resultType args
  | .localVariable block type => (some <| .op ·) <$> Builder.localVariable block type
  | .reopen => modifyGet fun b => (none, .ofLibrary b.library)

end Call

end ShaderGraph
