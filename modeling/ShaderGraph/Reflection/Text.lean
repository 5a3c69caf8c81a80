import ShaderGraph.Reflection
import ShaderGraph.Toml.Writer

namespace ShaderGraph

/-! A reflection as a TOML document. -/

def EntryPointReflection.toml (e : EntryPointReflection) : String :=
  "\n[[entry_points]]\n" ++ Toml.pairLine "name" (Toml.stringText e.name) ++
    Toml.pairLine "execution_model" (Toml.stringText e.executionModel)

def GlobalReflection.toml (g : GlobalReflection) : String :=
  "\n[[globals]]\n" ++ Toml.pairLine "name" (Toml.stringText g.name) ++
    Toml.pairLine "storage_class" (Toml.stringText g.storageClass) ++
    Toml.pairLine "type_name" (Toml.stringText g.typeName)

/-- Plain keys come first, then a table for each entry point and each global. -/
def Reflection.toml (r : Reflection) : String :=
  Toml.pairLine "id_bound" (toString r.idBound.toNat) ++
    Toml.pairLine "capabilities" (Toml.arrayText r.capabilities) ++
    Toml.pairLine "extension_imports" (Toml.arrayText r.extensionImports) ++
    Toml.pairLine "initializers" (Toml.arrayText r.initializers) ++
    (if r.entryPoints.isEmpty then Toml.pairLine "entry_points" "[]" else "") ++
    (if r.globals.isEmpty then Toml.pairLine "globals" "[]" else "") ++
    String.join (r.entryPoints.map EntryPointReflection.toml) ++
    String.join (r.globals.map GlobalReflection.toml)

/-! A reflection as messages show it. -/

/-- A record with its fields. -/
def shownRecord (name : String) (fields : List (String × String)) : String :=
  let content := ", ".intercalate (fields.map fun (key, value) => key ++ ": " ++ value)
  name ++ " \x7b " ++ content ++ " \x7d"

def EntryPointReflection.shown (e : EntryPointReflection) : String :=
  shownRecord "EntryPointReflection"
    [("name", Text.quoted e.name), ("execution_model", Text.quoted e.executionModel)]

def GlobalReflection.shown (g : GlobalReflection) : String :=
  shownRecord "GlobalReflection" [("name", Text.quoted g.name),
    ("storage_class", Text.quoted g.storageClass), ("type_name", Text.quoted g.typeName)]

def Reflection.shown (r : Reflection) : String :=
  let texts (xs : List String) := Text.bracketed (xs.map Text.quoted)
  shownRecord "ShaderStageReflection" [("id_bound", toString r.idBound.toNat),
    ("capabilities", texts r.capabilities), ("extension_imports", texts r.extensionImports),
    ("initializers", texts r.initializers),
    ("entry_points", Text.bracketed (r.entryPoints.map EntryPointReflection.shown)),
    ("globals", Text.bracketed (r.globals.map GlobalReflection.shown))]

end ShaderGraph
