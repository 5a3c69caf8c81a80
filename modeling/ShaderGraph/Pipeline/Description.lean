import ShaderGraph.Pass

namespace ShaderGraph

/-- Why a pipeline could not be set up or run. -/
inductive PipelineError where
  | missingBackend
  | unresolvedEntryType (name : Option String)
  | incompatiblePass (pass : String) (expected found : ArtifactKind)
  | emit (error : EmitError)
  deriving DecidableEq, Repr

def PipelineError.message : PipelineError → String
  | .missingBackend => "the pipeline has no final backend"
  | .unresolvedEntryType name => "entry type " ++ name.getD "<none>" ++ " could not be resolved"
  | .incompatiblePass pass expected found =>
    "pass " ++ Text.quoted pass ++ " consumes " ++ expected.name ++
      " artifacts but would be given " ++ found.name
  | .emit error => error.message

/-- The passes a pipeline is asked to consist of. -/
structure PipelineRequest where
  toolPasses : List Pass := []
  debugPasses : List Pass := []
  backend : Option Pass := none

/-- A pipeline: tool passes in a row, then, both on the last tool's output, the debug passes in a
row and the backend. -/
structure Description where
  toolPasses : List Pass
  debugPasses : List Pass
  backend : Pass

/-- Checks that a pass takes what it would be given. -/
def Pass.check (pass : Pass) (found : ArtifactKind) : Except PipelineError Unit :=
  if pass.input = found then .ok ()
  else .error (.incompatiblePass pass.name pass.input found)

/-- Checks passes in a row and gives the kind of the last output. -/
def checkChain (found : ArtifactKind) : List Pass → Except PipelineError ArtifactKind
  | [] => .ok found
  | pass :: rest => do
    pass.check found
    checkChain pass.output rest

/-- Sets up a pipeline whose passes fit together. -/
def PipelineRequest.build (r : PipelineRequest) : Except PipelineError Description :=
  match r.backend with
  | none => .error .missingBackend
  | some backend => do
    let snapshot ← checkChain .binary r.toolPasses
    let _ ← checkChain snapshot r.debugPasses
    backend.check snapshot
    return ⟨r.toolPasses, r.debugPasses, backend⟩

end ShaderGraph
