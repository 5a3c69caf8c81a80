namespace ShaderGraph.Toml

/-- Why a text is no TOML document. -/
inductive Fault where
  | malformed
  | outOfRange
  | tooDeep
  | duplicateKey (key : String)
  /-- A key leads through something that is no table, or no table that can still grow. -/
  | notATable (key : String)
  deriving DecidableEq, Repr

/-- How a table came about, which decides what may still be added to it. -/
inductive Origin where
  /-- By its own header. -/
  | header
  /-- By the header of a table inside it. -/
  | implied
  /-- By a dotted key. -/
  | dotted
  /-- In braces, complete as it stands. -/
  | inline
  deriving DecidableEq, Repr

inductive Value where
  | string (value : String)
  | integer (value : Int)
  | float
  | boolean (value : Bool)
  | datetime
  /-- An array, made of tables with headers of their own if it is `growing`. -/
  | array (growing : Bool) (items : List Value)
  | table (origin : Origin) (entries : List (String × Value))
  deriving Repr

abbrev Entries := List (String × Value)

namespace Entries

/-- Puts a value in place of that of its key, or at the end. -/
def set (entries : Entries) (key : String) (value : Value) : Entries :=
  if entries.any (·.1 = key) then
    entries.map fun entry => if entry.1 = key then (key, value) else entry
  else entries ++ [(key, value)]

/-- Changes the table that keys lead to, and the tables on the way to it. Tables that are not there
are made. From an array of tables the way goes on in its last one. Only a dotted key cares about
headers: it must not lead into a table that has one. -/
def descend {α : Type} (dotted : Bool) (change : Origin → Entries → Except Fault (α × Entries)) :
    List String → Origin → Entries → Except Fault (α × Entries)
  | [], origin, entries => change origin entries
  | key :: path, _, entries =>
    match entries.lookup key with
    | none => do
      let origin : Origin := if dotted then .dotted else .implied
      let (result, children) ← descend dotted change path origin []
      return (result, entries.set key (.table origin children))
    | some (.table origin children) => do
      if origin = .inline then throw (.notATable key)
      if dotted && origin = .header then throw (.duplicateKey key)
      let (result, children) ← descend dotted change path origin children
      return (result, entries.set key (.table origin children))
    | some (.array true items) =>
      match items.getLast? with
      | some (.table origin children) => do
        let (result, children) ← descend dotted change path origin children
        return (result, entries.set key (.array true (items.dropLast ++ [.table origin children])))
      | _ => throw (.notATable key)
    | some _ => throw (.notATable key)

/-- Adds a value under a key that is not there yet. A dotted key adds only to tables made by dotted
keys. -/
def insertPair (entries : Entries) (path : List String) (key : String) (value : Value) :
    Except Fault Entries := do
  let add (origin : Origin) (table : Entries) : Except Fault (Unit × Entries) :=
    if (!path.isEmpty && origin ≠ .dotted) || table.any (·.1 = key) then .error (.duplicateKey key)
    else .ok ((), table ++ [(key, value)])
  return (← descend true add path .header entries).2

end Entries

end ShaderGraph.Toml
