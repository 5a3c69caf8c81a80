import ShaderGraph.Artifact

namespace ShaderGraph

/-- Why a pass has no output. -/
inductive PassError where
  | unexpectedArtifact (pass : String) (expected found : ArtifactKind)
  /-- The module could not be read. -/
  | parse (text : String)
  | validation (text : String)
  | backend (text : String)
  deriving DecidableEq, Repr

def PassError.message : PassError → String
  | .unexpectedArtifact pass expected found =>
    "pass " ++ Text.quoted pass ++ " expected a " ++ expected.name ++
      " artifact, found " ++ found.name
  | .parse text => "failed to parse SPIR-V: " ++ text
  | .validation text => "module validation failed: " ++ text
  | .backend text => "backend error: " ++ text

/-- A step of a pipeline, with the kinds of artifact it says it takes and gives. -/
structure Pass where
  name : String
  input : ArtifactKind := .binary
  output : ArtifactKind
  run : Artifact → Attempt PassError Artifact

/-- The binary in an artifact, for a pass that needs one. -/
def expectBinary (pass : String) : Artifact → Attempt PassError Binary
  | .binary value => .ok value
  | .text _ => Attempt.fail (.unexpectedArtifact pass .binary .text)

end ShaderGraph
