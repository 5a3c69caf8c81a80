import ShaderGraph.Toml.Value

namespace ShaderGraph.Toml

/-! Reading takes a text apart from the left: each function gives what it read and the rest. -/

def isBlank (c : Char) : Bool := c = ' ' || c = '\t'

def skipBlank (cs : List Char) : List Char := cs.dropWhile isBlank

/-- A character that may stand in comments and, as itself, in strings. -/
def isPlain (c : Char) : Bool :=
  c = '\t' || (0x20 ≤ c.toNat && c.toNat ≤ 0x7E) || 0x80 ≤ c.toNat

/-- Takes a line break. -/
def newline? : List Char → Option (List Char)
  | '\n' :: rest => some rest
  | '\r' :: '\n' :: rest => some rest
  | _ => none

/-- Goes past a comment, if there is one. -/
def skipComment : List Char → List Char
  | '#' :: rest => rest.dropWhile isPlain
  | cs => cs

/-- Takes the end of a line, after blanks and a comment. The end of the text will do. -/
def lineEnd (cs : List Char) : Except Fault (List Char) :=
  match skipComment (skipBlank cs) with
  | [] => .ok []
  | rest =>
    match newline? rest with
    | some rest => .ok rest
    | none => .error .malformed

/-- Goes past blanks, comments and line breaks. -/
def skipLines : Nat → List Char → List Char
  | 0, cs => cs
  | fuel + 1, cs =>
    let rest := skipComment (skipBlank cs)
    match newline? rest with
    | some rest => skipLines fuel rest
    | none => rest

def hexDigit? (c : Char) : Option Nat :=
  if c.isDigit then some (c.toNat - '0'.toNat)
  else if 'a' ≤ c && c ≤ 'f' then some (c.toNat - 'a'.toNat + 10)
  else if 'A' ≤ c && c ≤ 'F' then some (c.toNat - 'A'.toNat + 10)
  else none

/-- A number of digits in a base. -/
def valueOfDigits (base : Nat) (digits : List Nat) : Nat :=
  digits.foldl (fun value digit => base * value + digit) 0

/-- The character whose code point `count` hexadecimal digits give. -/
def codePoint? (count : Nat) (cs : List Char) : Option (Char × List Char) := do
  let digits ← (cs.take count).mapM hexDigit?
  let value := valueOfDigits 16 digits
  if digits.length = count && (value < 0xD800 || (0xDFFF < value && value < 0x110000)) then
    some (Char.ofNat value, cs.drop count)
  else none

/-- What follows a backslash. -/
def escape? : List Char → Option (Char × List Char)
  | 'b' :: rest => some ('\x08', rest)
  | 't' :: rest => some ('\t', rest)
  | 'n' :: rest => some ('\n', rest)
  | 'f' :: rest => some ('\x0c', rest)
  | 'r' :: rest => some ('\r', rest)
  | '"' :: rest => some ('"', rest)
  | '\\' :: rest => some ('\\', rest)
  | 'u' :: rest => codePoint? 4 rest
  | 'U' :: rest => codePoint? 8 rest
  | _ => none

/-! Strings. The text read so far has its last character first. -/

/-- The rest of a string in double quotes. -/
def basicString (done : List Char) : Nat → List Char → Except Fault (String × List Char)
  | _ + 1, '"' :: rest => .ok (String.ofList done.reverse, rest)
  | fuel + 1, '\\' :: rest =>
    match escape? rest with
    | some (c, rest) => basicString (c :: done) fuel rest
    | none => .error .malformed
  | fuel + 1, c :: rest =>
    if isPlain c then basicString (c :: done) fuel rest else .error .malformed
  | _, _ => .error .malformed

/-- The rest of a string in single quotes. -/
def literalString (done : List Char) : List Char → Except Fault (String × List Char)
  | [] => .error .malformed
  | c :: rest =>
    if c = '\'' then .ok (String.ofList done.reverse, rest)
    else if isPlain c then literalString (c :: done) rest
    else .error .malformed

/-- Goes past blanks and line breaks. -/
def skipGaps : Nat → List Char → List Char
  | 0, cs => cs
  | fuel + 1, cs =>
    match newline? (skipBlank cs) with
    | some rest => skipGaps fuel rest
    | none => skipBlank cs

/-- A backslash at the end of a line goes with all blanks and line breaks after it. -/
def continuation? (cs : List Char) : Option (List Char) := do
  let rest ← newline? (skipBlank cs)
  return skipGaps (rest.length + 1) rest

/-- The rest of a string in three quotes of a kind. One or two quotes inside stand for themselves,
also right before the closing ones. Only double quotes have escapes. -/
def multilineString (quote : Char) (done : List Char) :
    Nat → List Char → Except Fault (String × List Char)
  | 0, _ => .error .malformed
  | _, [] => .error .malformed
  | fuel + 1, c :: rest =>
    if c = quote then
      let run := (rest.takeWhile (· = quote)).length + 1
      let after := (c :: rest).drop run
      if run ≤ 2 then multilineString quote (List.replicate run quote ++ done) fuel after
      else if run ≤ 5 then
        .ok (String.ofList (List.replicate (run - 3) quote ++ done).reverse, after)
      else .error .malformed
    else if c = '\\' && quote = '"' then
      match continuation? rest with
      | some rest => multilineString quote done fuel rest
      | none =>
        match escape? rest with
        | some (c, rest) => multilineString quote (c :: done) fuel rest
        | none => .error .malformed
    else
      match newline? (c :: rest) with
      | some rest => multilineString quote ('\n' :: done) fuel rest
      | none =>
        if isPlain c then multilineString quote (c :: done) fuel rest else .error .malformed

/-- A string of any kind, its first quote still ahead. -/
def string (cs : List Char) : Except Fault (String × List Char) :=
  let afterBreak (rest : List Char) := (newline? rest).getD rest
  match cs with
  | '"' :: '"' :: '"' :: rest => multilineString '"' [] (rest.length + 1) (afterBreak rest)
  | '"' :: rest => basicString [] (rest.length + 1) rest
  | '\'' :: '\'' :: '\'' :: rest => multilineString '\'' [] (rest.length + 1) (afterBreak rest)
  | '\'' :: rest => literalString [] rest
  | _ => .error .malformed

/-! Keys. -/

def isBare (c : Char) : Bool := c.isAlphanum || c = '-' || c = '_'

def simpleKey : List Char → Except Fault (String × List Char)
  | '"' :: rest => basicString [] (rest.length + 1) rest
  | '\'' :: rest => literalString [] rest
  | cs =>
    let key := cs.takeWhile isBare
    if key.isEmpty then .error .malformed else .ok (String.ofList key, cs.dropWhile isBare)

/-- Keys with dots between them, and the blanks around them. -/
def keyPath : Nat → List Char → Except Fault (List String × List Char)
  | 0, _ => .error .tooDeep
  | fuel + 1, cs => do
    let (key, rest) ← simpleKey (skipBlank cs)
    match skipBlank rest with
    | '.' :: rest =>
      let (keys, rest) ← keyPath fuel rest
      return (key :: keys, rest)
    | rest => return ([key], rest)

/-- The most keys that dots can join. -/
def maxKeys : Nat := 79

/-- The most arrays and inline tables inside one another. -/
def maxDepth : Nat := 79

/-- A dotted key, divided into the keys that lead to a table and the last one. -/
def dottedKey (cs : List Char) : Except Fault (List String × String × List Char) := do
  let (keys, rest) ← keyPath maxKeys cs
  match keys.getLast? with
  | some key => return (keys.dropLast, key, rest)
  | none => throw .malformed

end ShaderGraph.Toml
