import ShaderGraph.Decimal.Layout
import ShaderGraph.Spirv.ExtInst
import ShaderGraph.Spirv.Module

namespace ShaderGraph.Spirv

/-- How a listing shows floating point constants. -/
def Listing.floatLayout : Decimal.Layout := .plain

def idText (id : UInt32) : String := "%" ++ toString id.toNat

/-- The names of set flags, or that there are none. -/
def MaskKind.listed (kind : MaskKind) (bits : UInt32) : String :=
  if bits = 0 then "None" else "|".intercalate ((kind.setFlags bits).map Flag.name)

/-- The name of a value; dimensions without the word they all start with. -/
def Enumerant.listed (kind : EnumKind) (e : Enumerant kind) : String :=
  if kind = .dim then (e.name.drop 3).toString else e.name

def Operand.listed : Operand → String
  | .id value => idText value
  | .literal value | .extInst value => toString value.toNat
  | .wide value => toString value.toNat
  | .text value => Text.quoted value
  | .opcode value => value.name
  | .enumerant kind value => value.listed kind
  | .mask kind bits => kind.listed bits

namespace Instruction

/-- The line of an instruction whose operands have their texts. -/
def line (i : Instruction) (operands : List String) : String :=
  let gap := if operands.isEmpty then "" else " "
  (i.result.map fun id => idText id ++ " = ").getD "" ++
    "Op" ++ i.opcode.name ++
    (i.resultType.map fun id => "  " ++ idText id ++ gap).getD "" ++
    gap ++ " ".intercalate operands

def listed (i : Instruction) : String := i.line (i.operands.map Operand.listed)

/-- A constant as its type reads the bits. -/
def constantText (type : NumberType) : Operand → String
  | .literal bits =>
    match type with
    | .integer _ true => toString bits.toInt32.toInt
    | .integer _ false => toString bits.toNat
    | .float _ => Listing.floatLayout.single bits
  | .wide bits =>
    match type with
    | .integer _ true => toString bits.toInt64.toInt
    | .integer _ false => toString bits.toNat
    | .float _ => Listing.floatLayout.double bits
  | other => other.listed

/-- A line at module scope. A constant needs a type that is known to be a number. -/
def listedGlobal (types : NumberTypes) (i : Instruction) : Except Abort String :=
  match i.opcode, i.resultType, i.operands with
  | .opConstant, some id, [operand] =>
    match types.find? id with
    | some type => .ok (i.line [constantText type operand])
    | none => .error (.untypedConstant id)
  | _, _, _ => .ok i.listed

/-- A line in a block. Instructions of the standard set are shown by name. -/
def listedInBlock (standard : List UInt32) (i : Instruction) : String :=
  match i.opcode, i.operands with
  | .opExtInst, .id set :: .extInst number :: rest =>
    match if set ∈ standard then glslName? number else none with
    | some name => i.line (idText set :: name :: rest.map Operand.listed)
    | none => i.listed
  | _, _ => i.listed

end Instruction

namespace Module

/-- The ids under which the standard instruction set is imported. -/
def standardSets (m : Module) : List UInt32 :=
  m.imports.filterMap fun i =>
    match i.operands with
    | [.text name] => if name = glslSetName then i.result else none
    | _ => none

def numberTypes (m : Module) : NumberTypes := m.declarations.foldl NumberTypes.track .empty

def headerLines (m : Module) : List String :=
  ["; SPIR-V", "; Version: " ++ toString m.major.toNat ++ "." ++ toString m.minor.toNat,
    "; Generator: rspirv", "; Bound: " ++ toString m.bound.toNat]

def functionLines (standard : List UInt32) (f : FunctionBody) : List String :=
  f.definition.listed :: f.parameters.map Instruction.listed ++
    f.blocks.flatMap (fun block =>
      block.label.listed :: block.body.map (Instruction.listedInBlock standard)) ++
    [f.ending.listed]

/-- A module as text. -/
def listing (m : Module) : Except Abort String := do
  let globals ← m.globals.mapM (Instruction.listedGlobal m.numberTypes)
  return "\n".intercalate
    (m.headerLines ++ globals ++ m.functions.flatMap (functionLines m.standardSets))

end Module

end ShaderGraph.Spirv
