import ShaderGraph.Table

namespace ShaderGraph.Wgsl

/-- The words of the language that are no names. -/
def reservedWords : List String :=
  ["alias", "break", "case", "const", "const_assert", "continue", "continuing", "default",
   "diagnostic", "discard", "else", "enable", "false", "fn", "for", "if", "let", "loop", "override",
   "requires", "return", "struct", "switch", "true", "var", "while",
   "NULL", "Self", "abstract", "active", "alignas", "alignof", "as", "asm", "asm_fragment", "async",
   "attribute", "auto", "await", "become", "cast", "catch", "class", "co_await", "co_return",
   "co_yield", "coherent", "column_major", "common", "compile", "compile_fragment", "concept",
   "const_cast", "consteval", "constexpr", "constinit", "crate", "debugger", "decltype", "delete",
   "demote", "demote_to_helper", "do", "dynamic_cast", "enum", "explicit", "export", "extends",
   "extern", "external", "fallthrough", "filter", "final", "finally", "friend", "from", "fxgroup",
   "get", "goto", "groupshared", "highp", "impl", "implements", "import", "inline", "instanceof",
   "interface", "layout", "lowp", "macro", "macro_rules", "match", "mediump", "meta", "mod",
   "module", "move", "mut", "mutable", "namespace", "new", "nil", "noexcept", "noinline",
   "nointerpolation", "non_coherent", "noncoherent", "noperspective", "null", "nullptr", "of",
   "operator", "package", "packoffset", "partial", "pass", "patch", "pixelfragment", "precise",
   "precision", "premerge", "priv", "protected", "pub", "public", "readonly", "ref", "regardless",
   "register", "reinterpret_cast", "require", "resource", "restrict", "self", "set", "shared",
   "sizeof", "smooth", "snorm", "static", "static_assert", "static_cast", "std", "subroutine",
   "super", "target", "template", "this", "thread_local", "throw", "trait", "try", "type",
   "typedef", "typeid", "typename", "typeof", "union", "unless", "unorm", "unsafe", "unsized",
   "use", "using", "varying", "virtual", "volatile", "wgsl", "where", "with", "writeonly", "yield"]

/-- How often each name has been asked for after the first time. -/
abbrev Namer := Table String Nat

namespace Namer

def hexText (c : Char) : List Char :=
  let digits := Nat.toDigits 16 c.toNat
  List.replicate (4 - digits.length) '0' ++ digits

/-- Adds a character to a name whose last character comes first. No two underscores follow each
other, and what is no letter, digit or underscore is spelled by its number. -/
def pushChar (done : List Char) (c : Char) : List Char :=
  if c = '_' then if done.head? = some '_' then done else '_' :: done
  else if c.isAlphanum then c :: done
  else '_' :: ((hexText c).reverse ++ 'u' :: done)

/-- A name made of a label: it starts with no digit and ends with no underscore. -/
def baseName (label : String) : String :=
  let spelled := (label.toList.dropWhile Char.isDigit).foldl pushChar []
  let name := (spelled.dropWhile (· = '_')).reverse
  if name.isEmpty then "unnamed" else String.ofList name

/-- A new name. The second and later names of one base get numbers. An underscore keeps the first
apart from these and from the words of the language. -/
def fresh (label : String) : StateM Namer String := do
  let base := baseName label
  match (← get).find? base with
  | some count =>
    modify (·.insert base (count + 1))
    return base ++ "_" ++ toString (count + 1)
  | none =>
    modify (·.insert base 0)
    let endsInDigit := (base.toList.getLast?.map Char.isDigit).getD false
    return if endsInDigit || base ∈ reservedWords then base ++ "_" else base

end Namer

end ShaderGraph.Wgsl
