import ShaderGraph.Config

namespace ShaderGraph.Command

/-- What a command line asks for. -/
structure Options where
  /-- The path of the configuration. The built-in one is used when it is left out. -/
  config : Option String := none
  /-- Run the optimizer before any other pass. -/
  optimize : Bool := false
  /-- Takes the place of the configured backend. -/
  backend : Option PassId := none
  /-- Compile this stage only. -/
  stage : Option Stage := none
  /-- Print the reflection of every stage. -/
  reflection : Bool := false
  deriving DecidableEq, Repr

/-- Why a command line is not read to its end. -/
inductive Halt where
  | usage
  | version
  | help
  deriving DecidableEq, Repr

/-- Options without a value. -/
inductive Flag where
  | optimize
  | reflection
  | version
  | help
  deriving DecidableEq, Repr

def Flag.ofLetter? : Char → Option Flag
  | 'o' => some .optimize
  | 'r' => some .reflection
  | 'V' => some .version
  | 'h' => some .help
  | _ => none

def Flag.ofName? : String → Option Flag
  | "optimize" => some .optimize
  | "reflection" => some .reflection
  | "version" => some .version
  | "help" => some .help
  | _ => none

/-- Options with a value. -/
inductive Setting where
  | config
  | backend
  | stage
  deriving DecidableEq, Repr

def Setting.ofLetter? : Char → Option Setting
  | 'c' => some .config
  | 'b' => some .backend
  | 's' => some .stage
  | _ => none

def Setting.ofName? : String → Option Setting
  | "config" => some .config
  | "backend" => some .backend
  | "stage" => some .stage
  | _ => none

namespace Options

/-- Raises a flag, at most once. -/
def raise (o : Options) : Flag → Except Halt Options
  | .optimize => if o.optimize then .error .usage else .ok { o with optimize := true }
  | .reflection => if o.reflection then .error .usage else .ok { o with reflection := true }
  | .version => .error .version
  | .help => .error .help

/-- Gives a setting its value, at most once. -/
def assign (o : Options) (setting : Setting) (value : String) : Except Halt Options :=
  match setting with
  | .config =>
    if o.config.isSome || value = "" then .error .usage else .ok { o with config := value }
  | .backend =>
    match o.backend, PassId.ofName? value with
    | none, some id => .ok { o with backend := id }
    | _, _ => .error .usage
  | .stage =>
    match o.stage, Stage.ofKey? value with
    | none, some stage => .ok { o with stage }
    | _, _ => .error .usage

/-- Reads letters after a single dash: flags, then perhaps a setting, whose value is what follows.
A setting at the end waits for its value. -/
def readLetters (o : Options) : List Char → Except Halt (Options × Option Setting)
  | [] => .ok (o, none)
  | c :: rest =>
    match Flag.ofLetter? c, Setting.ofLetter? c with
    | some flag, _ => do (← o.raise flag).readLetters rest
    | none, some setting =>
      match rest with
      | [] => .ok (o, some setting)
      | '=' :: value => return (← o.assign setting (String.ofList value), none)
      | value => return (← o.assign setting (String.ofList value), none)
    | none, none => .error .usage

/-- Reads a name after two dashes, with its value if an equals sign follows. -/
def readName (o : Options) (cs : List Char) : Except Halt (Options × Option Setting) :=
  let name := String.ofList (cs.takeWhile (· ≠ '='))
  let value? := match cs.dropWhile (· ≠ '=') with
    | [] => none
    | _ :: value => some (String.ofList value)
  match Flag.ofName? name, Setting.ofName? name, value? with
  | some flag, _, none => return (← o.raise flag, none)
  | none, some setting, none => .ok (o, some setting)
  | none, some setting, some value => return (← o.assign setting value, none)
  | _, _, _ => .error .usage

/-- Reads an argument. Only options are known. -/
def readArgument (o : Options) (arg : String) : Except Halt (Options × Option Setting) :=
  match arg.toList with
  | '-' :: '-' :: name => o.readName name
  | '-' :: c :: letters => o.readLetters (c :: letters)
  | _ => .error .usage

/-- Whether an argument cannot be the value of a setting before it. A single dash can. -/
def isOption (arg : String) : Bool :=
  match arg.toList with
  | '-' :: _ :: _ => true
  | _ => false

/-- Reads arguments from the left, the first perhaps the value that a setting waits for. Nothing may
follow two dashes that stand alone. -/
def readFrom (o : Options) (waiting : Option Setting) : List String → Except Halt Options
  | [] => if waiting.isSome then .error .usage else .ok o
  | arg :: rest =>
    match waiting with
    | some setting =>
      if isOption arg then .error .usage else do (← o.assign setting arg).readFrom none rest
    | none =>
      if arg = "--" then if rest.isEmpty then .ok o else .error .usage
      else do
        let (o, waiting) ← o.readArgument arg
        o.readFrom waiting rest

def ofArguments (args : List String) : Except Halt Options := readFrom {} none args

end Options

end ShaderGraph.Command
