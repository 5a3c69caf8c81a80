import ShaderGraph.Emission
import ShaderGraph.Reflection.Text

namespace ShaderGraph

inductive ArtifactKind where
  | binary
  | text
  deriving DecidableEq, Repr

def ArtifactKind.name : ArtifactKind → String
  | .binary => "binary"
  | .text => "text"

/-- What passes take and give. -/
inductive Artifact where
  | binary (value : Binary)
  | text (value : String)
  deriving DecidableEq, Repr

/-! The hexadecimal dump of a binary. -/

/-- Eight digits, the highest first. -/
def hexWord (w : UInt32) : String :=
  String.ofList <| [7, 6, 5, 4, 3, 2, 1, 0].map fun place =>
    Nat.digitChar (w.toNat / Nat.pow 16 place % 16)

/-- Words by eight, the last group with what is left. -/
def rowsOfWords : List UInt32 → List (List UInt32)
  | [] => []
  | w :: rest => (w :: rest.take 7) :: rowsOfWords (rest.drop 7)
termination_by words => words.length
decreasing_by simp only [List.length_drop, List.length_cons]; omega

def hexDump (words : List UInt32) : String :=
  "\n".intercalate ((rowsOfWords words).map fun row => " ".intercalate (row.map hexWord))

namespace Artifact

def kind : Artifact → ArtifactKind
  | .binary _ => .binary
  | .text _ => .text

def binary? : Artifact → Option Binary
  | .binary value => some value
  | .text _ => none

def text? : Artifact → Option String
  | .binary _ => none
  | .text value => some value

/-- An artifact as it is presented: a dump of its words, or the text itself. -/
def display : Artifact → String
  | .binary value => hexDump value.words
  | .text value => value

@[simp] theorem display_text (value : String) : display (.text value) = value := rfl

end Artifact

/-- A binary in short: the count of its words in place of the words. -/
def Binary.shown (b : Binary) : String :=
  "BinaryArtifact \x7b words: [" ++ toString b.words.length ++ " words], reflection: " ++
    b.reflection.shown ++ " \x7d"

def Artifact.shown : Artifact → String
  | .binary value => "Binary(" ++ value.shown ++ ")"
  | .text value => "Text(" ++ Text.quoted value ++ ")"

end ShaderGraph
