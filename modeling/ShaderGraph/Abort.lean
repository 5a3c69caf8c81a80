import ShaderGraph.Library.Node

namespace ShaderGraph

/-- Why a run was given up without an answer. Each is a mistake in what the caller handed over, and
none is reported by a message. -/
inductive Abort where
  /-- A reference was followed to a node that is not in the library. -/
  | missingNode (node : NodeRef)
  /-- A module mentions more nodes than there are ids. -/
  | idsExhausted
  /-- The text operand at this byte reaches past the end of its module. -/
  | textPastEnd (offset : Nat)
  /-- The operation on constants before this byte has an operand whose form depends on an
  instruction of its own. -/
  | operandWithoutContext (offset : Nat)
  /-- A constant is to be listed whose type is not known to be a number. -/
  | untypedConstant (type : UInt32)
  deriving DecidableEq, Repr

/-- Why there is no result: the run was given up, or it ended with an error. -/
inductive Stop (ε : Type) where
  | abort (cause : Abort)
  | error (e : ε)
  deriving DecidableEq, Repr

def Stop.map {ε ε' : Type} (f : ε → ε') : Stop ε → Stop ε'
  | .abort cause => .abort cause
  | .error e => .error (f e)

/-- A computation that can be given up or end with an error. -/
abbrev Attempt (ε α : Type) := Except (Stop ε) α

/-- What can only be given up has no error. -/
instance {ε : Type} : MonadLift (Except Abort) (Except (Stop ε)) where
  monadLift := Except.mapError .abort

def Attempt.fail {ε α : Type} (e : ε) : Attempt ε α := .error (.error e)

/-- Keeps a result, and an error as a value; only giving up ends the computation. -/
def Attempt.settle {ε α : Type} : Attempt ε α → Except Abort (Except ε α)
  | .ok a => .ok (.ok a)
  | .error (.error e) => .ok (.error e)
  | .error (.abort cause) => .error cause

end ShaderGraph
