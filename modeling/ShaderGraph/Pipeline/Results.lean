import ShaderGraph.Pipeline.Description

namespace ShaderGraph

/-- The output of a pass. -/
structure PassOutput where
  pass : String
  artifact : Artifact
  deriving DecidableEq, Repr

inductive Branch where
  | tool
  | debug
  | backend
  deriving DecidableEq, Repr

def Branch.name : Branch → String
  | .tool => "tool"
  | .debug => "debug"
  | .backend => "backend"

structure PassFailure where
  pass : String
  branch : Branch
  error : PassError
  deriving DecidableEq, Repr

def PassFailure.message (f : PassFailure) : String :=
  f.branch.name ++ " pass " ++ Text.quoted f.pass ++ " failed: " ++ f.error.message

/-- What a run of a pipeline leaves. -/
structure Results where
  /-- The emitted binary, the outputs of the tools and that of the backend. -/
  primary : List PassOutput
  debug : List PassOutput
  failures : List PassFailure
  deriving DecidableEq, Repr

namespace Results

def isSuccess (r : Results) : Bool := r.failures.isEmpty

/-- The last output, unless a failure outside the debug branch kept it from being made. -/
def finalOutput? (r : Results) : Option PassOutput :=
  if r.failures.any fun f => f.branch ≠ .debug then none else r.primary.getLast?

/-- The emitted binary. -/
def binary? (r : Results) : Option Binary :=
  r.primary.head?.bind fun output => output.artifact.binary?

end Results

/-- The name under which the emitted binary stands in front of the passes' outputs. -/
def emitterName : String := "spirv-binary"

def Pass.apply (pass : Pass) (branch : Branch) (input : Artifact) :
    Except Abort (Except PassFailure PassOutput) := do
  match ← (pass.run input).settle with
  | .ok artifact => return .ok ⟨pass.name, artifact⟩
  | .error error => return .error ⟨pass.name, branch, error⟩

/-- Runs passes in a row up to the first that fails. -/
def runChain (branch : Branch) (input : Artifact) :
    List Pass → Except Abort (List PassOutput × Option PassFailure)
  | [] => return ([], none)
  | pass :: rest => do
    match ← pass.apply branch input with
    | .error failure => return ([], some failure)
    | .ok output =>
      let (outputs, failure?) ← runChain branch output.artifact rest
      return (output :: outputs, failure?)

/-- Runs the passes of a pipeline on an emitted binary. A failing tool ends the run; the debug
branch and the backend fail each on its own. -/
def Description.run (d : Description) (binary : Binary) : Except Abort Results := do
  let emitted : PassOutput := ⟨emitterName, .binary binary⟩
  let (tools, failure?) ← runChain .tool emitted.artifact d.toolPasses
  let primary := emitted :: tools
  match failure? with
  | some failure => return ⟨primary, [], [failure]⟩
  | none =>
    let snapshot := (tools.getLastD emitted).artifact
    let (debug, debugFailure?) ← runChain .debug snapshot d.debugPasses
    match ← d.backend.apply .backend snapshot with
    | .ok output => return ⟨primary ++ [output], debug, debugFailure?.toList⟩
    | .error failure => return ⟨primary, debug, debugFailure?.toList ++ [failure]⟩

/-- Emits an entry type and runs a pipeline on it. -/
def Library.compile (lib : Library) (entry : Option TypeId) (d : Description) :
    Attempt PipelineError Results :=
  match entry with
  | none => Attempt.fail (.unresolvedEntryType none)
  | some entry => do
    let binary ← (lib.emitType entry).mapError (Stop.map .emit)
    d.run binary

end ShaderGraph
