namespace ShaderGraph.Toml

/-- The ways to write a string. -/
inductive Quoting where
  | basic
  | literal
  | multilineBasic
  | multilineLiteral
  deriving DecidableEq, Repr

/-- A control character other than tab and newline. -/
def isCode (c : Char) : Bool :=
  c ≠ '\t' && c ≠ '\n' && (c.toNat < 0x20 || c.toNat = 0x7f)

/-- Length of the longest run of a character; `run` is the length of the one that is open. -/
def longestRun (mark : Char) (run : Nat) : List Char → Nat
  | [] => run
  | c :: rest =>
    if c = mark then longestRun mark (run + 1) rest else max run (longestRun mark 0 rest)

/-- The first quoting that needs no escapes, else one that has them. -/
def Quoting.choose (s : List Char) : Quoting :=
  let codes := s.any isCode
  let escapes := s.contains '\\'
  let newlines := s.contains '\n'
  let doubles := longestRun '"' 0 s
  let singles := longestRun '\'' 0 s
  if !codes && !escapes && doubles = 0 && !newlines then .basic
  else if !codes && singles = 0 && !newlines then .literal
  else if !codes && !escapes && doubles ≤ 2 then .multilineBasic
  else if !codes && singles ≤ 2 then .multilineLiteral
  else if newlines then .multilineBasic
  else .basic

def hexDigitUpper (n : Nat) : Char := (Nat.digitChar n).toUpper

/-- A character between double quotes, quotes apart. -/
def escaped (multiline : Bool) (c : Char) : List Char :=
  if c = '\x08' then ['\\', 'b']
  else if c = '\t' then ['\\', 't']
  else if c = '\n' then if multiline then [c] else ['\\', 'n']
  else if c = '\x0c' then ['\\', 'f']
  else if c = '\r' then ['\\', 'r']
  else if c = '\\' then ['\\', '\\']
  else if isCode c then
    ['\\', 'u', '0', '0', hexDigitUpper (c.toNat / 16), hexDigitUpper (c.toNat % 16)]
  else [c]

/-- A text between double quotes. On one line each quote is escaped; over several lines the third
of a run, where the run counts from the last escape. -/
def basicBody (multiline : Bool) (run : Nat) : List Char → List Char
  | [] => []
  | c :: rest =>
    if c = '"' then
      if !multiline || run = 2 then '\\' :: '"' :: basicBody multiline 0 rest
      else '"' :: basicBody multiline (run + 1) rest
    else escaped multiline c ++ basicBody multiline 0 rest

/-- Several lines start after a line break, which belongs to the quotes. -/
def opening (s : List Char) : List Char := if s.contains '\n' then ['\n'] else []

def stringText (s : String) : String :=
  let cs := s.toList
  String.ofList <| match Quoting.choose cs with
  | .basic => ['"'] ++ basicBody false 0 cs ++ ['"']
  | .literal => ['\''] ++ cs ++ ['\'']
  | .multilineBasic => ['"', '"', '"'] ++ opening cs ++ basicBody true 0 cs ++ ['"', '"', '"']
  | .multilineLiteral => ['\'', '\'', '\''] ++ opening cs ++ cs ++ ['\'', '\'', '\'']

/-- A list of strings, each on a line of its own if there are two or more. -/
def arrayText : List String → String
  | [] => "[]"
  | [s] => "[" ++ stringText s ++ "]"
  | many => "[\n" ++ String.join (many.map fun s => "    " ++ stringText s ++ ",\n") ++ "]"

def pairLine (key value : String) : String := key ++ " = " ++ value ++ "\n"

end ShaderGraph.Toml
