import ShaderGraph.Library.Node
import ShaderGraph.Spirv.Enumerant

namespace ShaderGraph

open Spirv

inductive TypeKind where
  | void
  | bool
  | int (width : UInt32) (signed : Bool)
  | float (width : UInt32)
  | vector (count : UInt32)
  | matrix (columns : UInt32)
  | array
  | runtimeArray
  /-- Structs are nominal: two structs with the same members are different types. -/
  | struct
  | pointer (storageClass : StorageClass)
  | function
  | image (dim : Dim) (depth : UInt32) (arrayed multisampled : Bool) (sampled : UInt32)
  | sampledImage
  | sampler
  deriving DecidableEq, Repr

/-- What makes two types that are not structs the same type. -/
structure TypeShape where
  kind : TypeKind
  /-- The pointed-to type, set on pointer types. -/
  dereference : Option TypeId := none
  /-- Element of vectors, matrices and arrays, return type of function types, sampled type of
  images and image of sampled images. -/
  component : Option TypeId := none
  /-- Struct members, parameters of function types, the length of an array. -/
  parameters : List NodeRef := []
  deriving BEq, ReflBEq, LawfulBEq, Repr

structure TypeDecl where
  name : String
  shape : TypeShape
  /-- The first pointer made to this type. -/
  pointer : Option TypeId := none
  /-- Functions owned by this type. -/
  functions : List FunctionId := []
  deriving BEq, ReflBEq, LawfulBEq, Repr

/-- Whether two declarations are of one type. Names, pointers and functions make no difference. -/
def TypeDecl.isSameType (a b : TypeDecl) : Bool := a.shape == b.shape

end ShaderGraph
