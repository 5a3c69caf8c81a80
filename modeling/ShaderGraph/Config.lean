import ShaderGraph.Pass.Id
import ShaderGraph.Pipeline.Stage
import ShaderGraph.Toml.Document

namespace ShaderGraph

/-- The passes to run after emission. -/
structure PipelineSection where
  toolPasses : List PassId := []
  debugPasses : List PassId := []
  backend : Option PassId := none
  deriving DecidableEq, Repr

structure StageConfig where
  stage : Stage
  entryType : Option String := none
  deriving DecidableEq, Repr

/-- A pipeline configuration. -/
structure Config where
  pipeline : PipelineSection := {}
  stages : List StageConfig := []
  deriving DecidableEq, Repr

inductive ConfigError where
  /-- The file is not there or holds no text. -/
  | io
  | parse
  deriving DecidableEq, Repr

def ConfigError.message : ConfigError → String
  | .io => "failed to read config"
  | .parse => "invalid config"

/-! Values of a document as configuration data. A record is a table or an array of its fields in
order. -/

namespace Config

open Toml

/-- The fields of a record that is a table. A date passes for a table without known fields. -/
def fields? : Value → Option Entries
  | .table _ entries => some entries
  | .datetime => some []
  | _ => none

def items? : Value → Option (List Value)
  | .array _ items => some items
  | _ => none

def text? : Value → Option String
  | .string value => some value
  | _ => none

/-- A name: a string, or a table with the name as its only key and nothing under it. -/
def name? : Value → Option String
  | .string value => some value
  | .table _ [(key, .table _ [])] => some key
  | .table _ [(key, .array _ [])] => some key
  | _ => none

def passId? (v : Value) : Option PassId := (name? v).bind PassId.ofName?

def stage? (v : Value) : Option Stage := (name? v).bind Stage.ofKey?

def passIds? (v : Value) : Option (List PassId) := do (← items? v).mapM passId?

/-- An optional field: absent, or present and well formed. -/
def field? {α : Type} (read : Value → Option α) : Option Value → Option (Option α)
  | none => some none
  | some v => (read v).map some

def pipeline? (v : Value) : Option PipelineSection :=
  match v with
  | .array _ items => do
    -- The backend stands third and cannot be left out.
    let tools ← field? passIds? items[0]?
    let debug ← field? passIds? items[1]?
    let backend ← passId? (← items[2]?)
    return ⟨tools.getD [], debug.getD [], some backend⟩
  | _ => do
    let entries ← fields? v
    let tools ← field? passIds? (entries.lookup "tool_passes")
    let debug ← field? passIds? (entries.lookup "debug_passes")
    let backend ← field? passId? (entries.lookup "backend")
    return ⟨tools.getD [], debug.getD [], backend⟩

def stageConfig? (v : Value) : Option StageConfig :=
  match v with
  | .array _ items => do
    return ⟨← stage? (← items[0]?), some (← text? (← items[1]?))⟩
  | _ => do
    let entries ← fields? v
    return ⟨← stage? (← entries.lookup "stage"), ← field? text? (entries.lookup "entry_type")⟩

def stages? (v : Value) : Option (List StageConfig) := do (← items? v).mapM stageConfig?

/-- Reads a configuration. Keys it does not know are passed over. -/
def ofToml (text : String) : Except ConfigError Config :=
  match Toml.parse text with
  | .error _ => .error .parse
  | .ok entries =>
    let config? : Option Config := do
      let pipeline ← field? pipeline? (entries.lookup "pipeline")
      let stages ← field? stages? (entries.lookup "stages")
      return ⟨pipeline.getD {}, stages.getD []⟩
    config?.elim (.error .parse) .ok

/-- Reads the bytes of a configuration file, if there is one. -/
def ofFile (content : Option ByteArray) : Except ConfigError Config :=
  match content.bind String.fromUTF8? with
  | none => .error .io
  | some text => ofToml text

def request (c : Config) : PipelineRequest where
  toolPasses := c.pipeline.toolPasses.map PassId.pass
  debugPasses := c.pipeline.debugPasses.map PassId.pass
  backend := c.pipeline.backend.map PassId.pass

def description (c : Config) : Except PipelineError Description := c.request.build

def stageDefinitions (c : Config) : List StageDefinition :=
  c.stages.map fun s => { stage := s.stage, entryType := s.entryType }

end Config

end ShaderGraph
