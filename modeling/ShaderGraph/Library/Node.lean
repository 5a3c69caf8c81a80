namespace ShaderGraph

/-- Place of a type in its library. -/
structure TypeId where
  index : Nat
  deriving DecidableEq, Repr

structure FunctionId where
  index : Nat
  deriving DecidableEq, Repr

structure BlockId where
  index : Nat
  deriving DecidableEq, Repr

structure OpId where
  index : Nat
  deriving DecidableEq, Repr

structure LiteralId where
  index : Nat
  deriving DecidableEq, Repr

structure ImportId where
  index : Nat
  deriving DecidableEq, Repr

/-- A reference to a node of a shader library. It may name a node that is not there. -/
inductive NodeRef where
  | type (id : TypeId)
  | function (id : FunctionId)
  /-- Blocks are referred to as branch targets. -/
  | block (id : BlockId)
  | op (id : OpId)
  | literal (id : LiteralId)
  | extImport (id : ImportId)
  deriving DecidableEq, Repr

def NodeRef.isBlock : NodeRef → Bool
  | .block _ => true
  | _ => false

end ShaderGraph
