import ShaderGraph.Command

namespace ShaderGraph

/-- The content of a file, if it can be read. -/
def fileContent? (path : String) : IO (Option ByteArray) := do
  match ← (IO.FS.readBinFile path).toBaseIO with
  | .ok content => return some content
  | .error _ => return none

end ShaderGraph

open ShaderGraph in
def main (args : List String) : IO UInt32 := do
  let outcome ← match Command.Options.ofArguments args with
    | .error halt => pure halt.outcome
    | .ok options => do
      let content ← match options.config with
        | none => pure none
        | some path => fileContent? path
      match options.run content with
      | .ok outcome => pure outcome
      | .error _ => pure { code := 101 }
  IO.print outcome.stdout
  IO.eprint outcome.stderr
  return outcome.code.toUInt32
