import ShaderGraph.Command.Options
import ShaderGraph.Demo

namespace ShaderGraph.Command

/-- What a run prints, and its exit code. -/
structure Outcome where
  code : UInt8 := 0
  stdout : String := ""
  stderr : String := ""
  deriving DecidableEq, Repr

def usageText : String :=
  "Usage: shaderir [OPTIONS]\n\n" ++
  "Options:\n" ++
  "  -c, --config <CONFIG>    The pipeline config file. " ++
  "Uses the built-in pipeline when omitted\n" ++
  "  -o, --optimize           Run the optimizer before any other pass\n" ++
  "  -b, --backend <BACKEND>  Overrides the final backend " ++
  "[possible values: optimizer, disassembler, wgsl]\n" ++
  "  -s, --stage <STAGE>      Only translate the given stage " ++
  "[possible values: vertex, geometry, pixel, compute]\n" ++
  "  -r, --reflection         Print the reflection data of every stage\n" ++
  "  -h, --help               Print help\n" ++
  "  -V, --version            Print version\n"

def Halt.outcome : Halt → Outcome
  | .usage => { code := 2, stderr := usageText }
  | .version => { stdout := "shaderir 0.1.0\n" }
  | .help => { stdout := usageText }

/-! Colors, by the numbers of terminal escape sequences. -/

def escape (number : Nat) : String := "\x1b[" ++ toString number ++ "m"

def bold (text : String) : String := escape 1 ++ text ++ escape 0

def colored (color : Nat) (text : String) : String := escape color ++ text ++ escape 39

def red : Nat := 31

def green : Nat := 32

def cyan : Nat := 36

def heading (color : Nat) (name : String) : String :=
  colored color (bold ("=== " ++ name ++ " ===")) ++ "\n"

/-- The configuration with what the options change in it. -/
def Options.adjust (o : Options) (config : Config) : Config :=
  let tools := config.pipeline.toolPasses
  { config with
    pipeline := { config.pipeline with
      toolPasses :=
        if o.optimize && !tools.contains .optimizer then .optimizer :: tools else tools
      backend := o.backend <|> config.pipeline.backend } }

/-- The stages to compile: the configured ones, or those of the built-in library. -/
def Options.stages (o : Options) (config : Config) : List StageDefinition :=
  let definitions := if config.stages.isEmpty then Demo.stages else config.stageDefinitions
  definitions.filter fun definition => o.stage.all (· = definition.stage)

def entryText (entry : Entry) : String := heading cyan entry.name ++ entry.value ++ "\n\n"

/-- What went wrong in a stage, a line each. -/
def complaints (s : CompiledStage) : String :=
  let line (message : String) := bold (colored red s.stage.name) ++ ": " ++ message ++ "\n"
  match s.results with
  | .error error => line error.message
  | .ok results => String.join (results.failures.map fun failure => line failure.message)

/-- The reflection of the binary that was emitted for a stage. -/
def reflectionText (s : CompiledStage) : String :=
  match s.results.toOption.bind Results.binary? with
  | none => ""
  | some binary =>
    heading green ("Reflection" ++ s.stage.name) ++ binary.reflection.toml ++ "\n"

def failed (message : String) : Outcome := { code := 1, stderr := "Error: " ++ message ++ "\n" }

/-- The configuration to start from. The content is that of the file the options name. -/
def Options.baseConfig (o : Options) (content : Option ByteArray) : Except ConfigError Config :=
  if o.config.isSome then Config.ofFile content else .ok Demo.config

/-- Compiles the built-in library as the options say. -/
def Options.run (o : Options) (content : Option ByteArray) : Except Abort Outcome :=
  match o.baseConfig content with
  | .error error => return failed error.message
  | .ok config =>
    let config := o.adjust config
    match config.description with
    | .error error => return failed error.message
    | .ok description => do
      let compiled ← Demo.library.compileStages description (o.stages config)
      let reflections :=
        if o.reflection then String.join (compiled.map reflectionText) else ""
      return {
        stdout := String.join ((groupEntries compiled).map entryText) ++ reflections
        stderr := String.join (compiled.map complaints) }

end ShaderGraph.Command
