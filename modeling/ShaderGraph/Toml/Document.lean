import ShaderGraph.Toml.Number

namespace ShaderGraph.Toml

/-- A value, with at most `depth` arrays and inline tables inside one another. -/
def value : Nat → List Char → Except Fault (Value × List Char)
  | depth, cs =>
    match cs with
    | '"' :: _ | '\'' :: _ => do
      let (s, rest) ← string cs
      return (.string s, rest)
    | '[' :: rest =>
      match depth with
      | 0 => .error .tooDeep
      | depth + 1 => items (value depth) [] (rest.length + 1) rest
    | '\x7b' :: rest =>
      match depth with
      | 0 => .error .tooDeep
      | depth + 1 =>
        match skipBlank rest with
        | '\x7d' :: rest => return (.table .inline [], rest)
        | _ => pairs (value depth) [] (rest.length + 1) rest
    | 't' :: 'r' :: 'u' :: 'e' :: rest => return (.boolean true, rest)
    | 'f' :: 'a' :: 'l' :: 's' :: 'e' :: rest => return (.boolean false, rest)
    | _ =>
      match datetime? cs, float? cs with
      | some rest, _ => return (.datetime, rest)
      | none, some result => do return (.float, ← result)
      | none, none => do
        let (n, rest) ← integer cs
        return (.integer n, rest)
where
  /-- The rest of an array. A comma may follow the last item. -/
  items (item : List Char → Except Fault (Value × List Char)) (done : List Value) :
      Nat → List Char → Except Fault (Value × List Char)
    | 0, _ => .error .malformed
    | fuel + 1, cs => do
      let cs := skipLines cs.length cs
      match cs with
      | ']' :: rest => return (.array false done.reverse, rest)
      | _ =>
        let (v, rest) ← item cs
        match skipLines rest.length rest with
        | ',' :: rest => items item (v :: done) fuel rest
        | ']' :: rest => return (.array false (v :: done).reverse, rest)
        | _ => throw .malformed
  /-- The rest of an inline table that is not empty. -/
  pairs (item : List Char → Except Fault (Value × List Char)) (done : Entries) :
      Nat → List Char → Except Fault (Value × List Char)
    | 0, _ => .error .malformed
    | fuel + 1, cs => do
      let (path, key, rest) ← dottedKey cs
      match rest with
      | '=' :: rest =>
        let (v, rest) ← item (skipBlank rest)
        let done ← done.insertPair path key v
        match skipBlank rest with
        | ',' :: rest => pairs item done fuel rest
        | '\x7d' :: rest => return (.table .inline done, rest)
        | _ => throw .malformed
      | _ => throw .malformed

/-- A document under construction. The table of the last header is kept apart until the next. -/
structure Draft where
  root : Entries := []
  /-- The keys of the last header, none before the first. -/
  path : List String := []
  growing : Bool := false
  current : Entries := []

namespace Draft

/-- Puts the table of the last header into its place. -/
def close (d : Draft) : Except Fault Entries :=
  match d.path.getLast? with
  | none => .ok d.current
  | some key => do
    let table : Value := .table .header d.current
    let put (_ : Origin) (entries : Entries) : Except Fault (Unit × Entries) :=
      match entries.lookup key with
      | some (.array true items) => .ok ((), entries.set key (.array true (items ++ [table])))
      | _ => .ok ((), entries.set key (if d.growing then .array true [table] else table))
    return (← Entries.descend false put d.path.dropLast .header d.root).2

/-- Starts the table of a header. A table that only headers of tables inside it have made so far
goes on with these; any other must be new. -/
def openTable (d : Draft) (path : List String) (key : String) : Except Fault Draft := do
  let start (_ : Origin) (entries : Entries) : Except Fault (Entries × Entries) :=
    match entries.lookup key with
    | none => .ok ([], entries)
    | some (.table .implied children) => .ok (children, entries.filter (·.1 ≠ key))
    | some _ => .error (.duplicateKey key)
  let (current, root) ← Entries.descend false start path .header (← d.close)
  return { root, path := path ++ [key], growing := false, current }

/-- Starts another table of an array of tables. -/
def openArray (d : Draft) (path : List String) (key : String) : Except Fault Draft := do
  let start (_ : Origin) (entries : Entries) : Except Fault (Unit × Entries) :=
    match entries.lookup key with
    | none => .ok ((), entries.set key (.array true []))
    | some (.array true _) => .ok ((), entries)
    | some _ => .error (.duplicateKey key)
  let (_, root) ← Entries.descend false start path .header (← d.close)
  return { root, path := path ++ [key], growing := true, current := [] }

/-- A line with a header or a pair. -/
def line (d : Draft) (cs : List Char) : Except Fault (Draft × List Char) :=
  match cs with
  | '[' :: '[' :: rest => do
    let (path, key, rest) ← dottedKey rest
    match rest with
    | ']' :: ']' :: rest => return (← d.openArray path key, ← lineEnd rest)
    | _ => throw .malformed
  | '[' :: rest => do
    let (path, key, rest) ← dottedKey rest
    match rest with
    | ']' :: rest => return (← d.openTable path key, ← lineEnd rest)
    | _ => throw .malformed
  | _ => do
    let (path, key, rest) ← dottedKey cs
    match rest with
    | '=' :: rest =>
      let (v, rest) ← value maxDepth (skipBlank rest)
      let rest ← lineEnd rest
      return ({ d with current := ← d.current.insertPair path key v }, rest)
    | _ => throw .malformed

/-- Lines to the end of the text. Each takes a character at least. -/
def lines (d : Draft) : Nat → List Char → Except Fault Entries
  | 0, _ => d.close
  | fuel + 1, cs =>
    match skipBlank cs with
    | [] => d.close
    | rest =>
      match newline? rest with
      | some rest => lines d fuel rest
      | none =>
        if rest.head? = some '#' then do lines d fuel (← lineEnd rest)
        else do
          let (d, rest) ← d.line rest
          lines d fuel rest

end Draft

/-- Reads a document. A byte order mark in front of it is no part of it. -/
def parse (text : String) : Except Fault Entries :=
  let cs := match text.toList with
    | '\ufeff' :: rest => rest
    | cs => cs
  Draft.lines {} (cs.length + 1) cs

end ShaderGraph.Toml
