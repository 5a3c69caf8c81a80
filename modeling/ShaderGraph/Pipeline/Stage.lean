import ShaderGraph.Pipeline.Results

namespace ShaderGraph

open Spirv

inductive Stage where
  | vertex
  | geometry
  | pixel
  | compute
  deriving DecidableEq, Repr

namespace Stage

def all : List Stage := [.vertex, .geometry, .pixel, .compute]

def name : Stage → String
  | .vertex => "Vertex"
  | .geometry => "Geometry"
  | .pixel => "Pixel"
  | .compute => "Compute"

/-- The name in configurations and on the command line. -/
def key : Stage → String
  | .vertex => "vertex"
  | .geometry => "geometry"
  | .pixel => "pixel"
  | .compute => "compute"

def ofKey? (key : String) : Option Stage := all.find? fun stage => stage.key = key

def executionModel : Stage → ExecutionModel
  | .vertex => .vertex
  | .geometry => .geometry
  | .pixel => .fragment
  | .compute => .glCompute

/-- Place in the order of presentation. -/
def rank : Stage → Nat
  | .vertex => 0
  | .geometry => 1
  | .pixel => 2
  | .compute => 3

end Stage

structure StageDefinition where
  stage : Stage
  /-- The name of the type the stage is made from. A stage without one is left out. -/
  entryType : Option String := none
  source : Option String := none
  deriving DecidableEq, Repr

/-- What has become of a stage. -/
structure CompiledStage where
  stage : Stage
  source : Option String
  results : Except PipelineError Results

inductive EntryCategory where
  | source
  | shader
  | disassembly
  deriving DecidableEq, Repr

namespace EntryCategory

def name : EntryCategory → String
  | .source => "Source"
  | .shader => "Shader"
  | .disassembly => "Disassembly"

/-- What the names of entries start with. -/
def heading : EntryCategory → String
  | .source => "Source"
  | .shader => "Shader"
  | .disassembly => "SpirV"

end EntryCategory

/-- A text to present. -/
structure Entry where
  name : String
  category : EntryCategory
  value : String
  deriving DecidableEq, Repr

def Entry.of (category : EntryCategory) (stage : Stage) (value : String) : Entry :=
  ⟨category.heading ++ stage.name, category, value⟩

/-- Compiles a stage, if it has an entry type. -/
def Library.compileStage (lib : Library) (d : Description) (definition : StageDefinition) :
    Attempt PipelineError (Option Results) :=
  match definition.entryType with
  | none => return none
  | some name =>
    match lib.findType? name with
    | none => Attempt.fail (.unresolvedEntryType (some name))
    | some entry => some <$> lib.compile (some entry) d

/-- What becomes of a stage: nothing without an entry type, else results or an error. -/
def CompiledStage.of? (lib : Library) (d : Description) (definition : StageDefinition) :
    Except Abort (Option CompiledStage) := do
  match ← (lib.compileStage d definition).settle with
  | .ok none => return none
  | .ok (some results) => return some ⟨definition.stage, definition.source, .ok results⟩
  | .error error => return some ⟨definition.stage, definition.source, .error error⟩

/-- Compiles stages, in the order of presentation. -/
def Library.compileStages (lib : Library) (d : Description) (definitions : List StageDefinition) :
    Except Abort (List CompiledStage) :=
  let ordered := definitions.mergeSort fun a b => a.stage.rank ≤ b.stage.rank
  ordered.filterMapM (CompiledStage.of? lib d)

namespace CompiledStage

/-- The text a stage amounts to: its final output, or what went wrong. -/
def shaderText (s : CompiledStage) : String :=
  match s.results with
  | .error error => error.message
  | .ok results =>
    match results.finalOutput? with
    | some output => output.artifact.display
    | none => "\n".intercalate (results.failures.map PassFailure.message)

def sourceEntry? (s : CompiledStage) : Option Entry := s.source.map (.of .source s.stage)

def shaderEntry (s : CompiledStage) : Entry := .of .shader s.stage s.shaderText

/-- The output of the first debug pass. -/
def disassemblyEntry? (s : CompiledStage) : Option Entry :=
  match s.results with
  | .error _ => none
  | .ok results => results.debug.head?.map fun output =>
    .of .disassembly s.stage output.artifact.display

end CompiledStage

/-- All sources, then all shaders, then all disassemblies. -/
def groupEntries (compiled : List CompiledStage) : List Entry :=
  compiled.filterMap CompiledStage.sourceEntry? ++
    compiled.map CompiledStage.shaderEntry ++
    compiled.filterMap CompiledStage.disassemblyEntry?

def Library.stageEntries (lib : Library) (d : Description) (definitions : List StageDefinition) :
    Except Abort (List Entry) := do
  return groupEntries (← lib.compileStages d definitions)

end ShaderGraph
