import ShaderGraph.Decimal.Layout
import ShaderGraph.Wgsl.Namer
import ShaderGraph.Wgsl.Shader

namespace ShaderGraph.Wgsl

/-- The names of the parts of a shader, each list in the order of the parts. -/
structure Names where
  types : List (String × List String)
  entryPoints : List String
  procedures : List String
  globals : List String
  deriving Repr

/-- Members have names apart from all others. -/
def memberNames (members : List (Nat × Option String)) : List String :=
  ((members.mapM fun member => Namer.fresh (member.2.getD "member")).run .empty).1

def typeNames (t : TypeDef) : StateM Namer (String × List String) := do
  let name ← Namer.fresh (t.name.getD "type")
  match t.form with
  | .struct members => return (name, memberNames members)
  | _ => return (name, [])

/-- Entry points are named before procedures and globals, so they keep their names. -/
def Shader.names (s : Shader) : Names :=
  let naming : StateM Namer Names := do
    return {
      types := ← s.types.mapM typeNames
      entryPoints := ← s.entryPoints.mapM fun e => Namer.fresh e.name
      procedures := ← s.procedures.mapM fun p => Namer.fresh (p.name.getD "function")
      globals := ← s.globals.mapM fun g => Namer.fresh (g.name.getD "global") }
  (naming.run .empty).1

def at? (names : List String) (place : Nat) : String := names[place]?.getD ""

/-- A type where it is used. -/
def typeText (s : Shader) (names : Names) (place : Nat) : String :=
  match s.form? place with
  | some (.scalar kind) => kind.name
  | some (.vector count kind) => "vec" ++ toString count.toNat ++ "<" ++ kind.name ++ ">"
  | some (.struct _) => at? (names.types.map Prod.fst) place
  | _ => ""

def literalText (kind : Scalar) (word : UInt32) : String :=
  match kind with
  | .f32 => Decimal.Layout.plain.single word ++ "f"
  | .i32 => toString word.toInt32.toInt ++ "i"
  | .u32 => toString word.toNat ++ "u"
  | .bool => if word = 0 then "false" else "true"

/-- A call, also of the constructor of a type. -/
def callText (function : String) (args : List String) : String :=
  function ++ "(" ++ ", ".intercalate args ++ ")"

mutual

def exprText (s : Shader) (names : Names) : Expr → String
  | .literal kind word => literalText kind word
  | .compose type parts => callText (typeText s names type) (exprTexts s names parts)
  | .call function arg => callText function [exprText s names arg]

def exprTexts (s : Shader) (names : Names) : List Expr → List String
  | [] => []
  | e :: rest => exprText s names e :: exprTexts s names rest

end

def line (text : String) : String := "    " ++ text ++ "\n"

def structText (s : Shader) (names : Names) (members : List (Nat × Option String))
    (own : String × List String) : String :=
  let member (m : (Nat × Option String) × String) :=
    line (m.2 ++ ": " ++ typeText s names m.1.1 ++ ",")
  "struct " ++ own.1 ++ " \x7b\n" ++ String.join ((members.zip own.2).map member) ++ "\x7d\n\n"

def structTexts (s : Shader) (names : Names) : String :=
  String.join <| (s.types.zip names.types).map fun (t, own) =>
    match t.form with
    | .struct members => structText s names members own
    | _ => ""

/-- A position starts out as the origin. -/
def originText : String := "vec4<f32>(0f, 0f, 0f, 1f)"

def globalText (s : Shader) (names : Names) (g : Global) (name : String) : String :=
  let start := if g.binding = some .position then " = " ++ originText else ""
  "var<private> " ++ name ++ ": " ++ typeText s names g.type ++ start ++ ";\n"

def globalTexts (s : Shader) (names : Names) : String :=
  if s.globals.isEmpty then ""
  else
    let texts := (s.globals.zip names.globals).map fun (g, name) => globalText s names g name
    String.join texts ++ "\n"

def statementText (s : Shader) (names : Names) : Statement → String
  | .assign target value => at? names.globals target ++ " = " ++ exprText s names value ++ ";"
  | .leave => "return;"

def functionText (name result : String) (body : List String) : String :=
  "fn " ++ name ++ "()" ++ result ++ " \x7b\n" ++ String.join (body.map line) ++ "\x7d\n"

def procedureTexts (s : Shader) (names : Names) : String :=
  String.join <| (s.procedures.zip names.procedures).map fun (p, name) =>
    functionText name "" (p.body.map (statementText s names)) ++ "\n"

/-! Entry points. -/

def attributeText (e : EntryPoint) : String :=
  match e.stage with
  | .vertex => "@vertex "
  | .fragment => "@fragment "
  | .compute =>
    "@compute " ++ callText "@workgroup_size" (e.groupSize.map fun n => toString n.toNat) ++ " "

def Binding.text : Binding → String
  | .position => "@builtin(position)"
  | .location number => "@location(" ++ toString number.toNat ++ ")"

/-- Gives back the variable that holds an output. Numbers count the values on the way: the variable
itself is value 0. The vertical axis of a position points the other way. -/
def outputLines (name : String) : Binding → List String
  | .location _ => ["let _e1 = " ++ name ++ ";", "return _e1;"]
  | .position =>
    ["let _e2 = " ++ name ++ ".y;", name ++ ".y = -(_e2);", "let _e4 = " ++ name ++ ";",
      "return _e4;"]

def entryPointText (s : Shader) (names : Names) (e : EntryPoint) (name : String) : String :=
  let call := at? names.procedures e.procedure ++ "();"
  let output? := do
    let place ← e.output
    let g ← s.globals[place]?
    return (at? names.globals place, g.type, ← g.binding)
  let (result, lines) := match output? with
    | none => ("", [])
    | some (name, type, binding) =>
      (" -> " ++ binding.text ++ " " ++ typeText s names type, outputLines name binding)
  attributeText e ++ "\n" ++ functionText name result (call :: lines)

/-- The text of a shader: structs, variables, procedures, entry points. -/
def Shader.text (s : Shader) : String :=
  let names := s.names
  let entries :=
    (s.entryPoints.zip names.entryPoints).map fun (e, name) => entryPointText s names e name
  structTexts s names ++ globalTexts s names ++ procedureTexts s names ++ "\n".intercalate entries

end ShaderGraph.Wgsl
