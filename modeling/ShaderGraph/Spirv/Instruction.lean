import ShaderGraph.Spirv.Enumerant
import ShaderGraph.Spirv.Frame
import ShaderGraph.Spirv.Grammar
import ShaderGraph.Spirv.Mask
import ShaderGraph.Spirv.Packed
import ShaderGraph.Text.Quoted

namespace ShaderGraph.Spirv

/-- An operand of an instruction, after its result type and result. -/
inductive Operand where
  | id (value : UInt32)
  | literal (value : UInt32)
  /-- A number of two words. -/
  | wide (value : UInt64)
  | text (value : String)
  | extInst (number : UInt32)
  | opcode (value : Opcode)
  | enumerant (kind : EnumKind) (value : Enumerant kind)
  | mask (kind : MaskKind) (bits : UInt32)
  deriving DecidableEq, Repr

structure Instruction where
  opcode : Opcode
  resultType : Option UInt32
  result : Option UInt32
  operands : List Operand
  deriving DecidableEq, Repr

/-- The words of an operand; of a wide number the low word comes first. -/
def Operand.words : Operand → List UInt32
  | .id value | .literal value | .extInst value => [value]
  | .wide value => [value.toUInt32, (value >>> 32).toUInt32]
  | .text value => packText value
  | .opcode value => [.ofNat value.code]
  | .enumerant _ value => [value.code]
  | .mask _ bits => [bits]

namespace Instruction

def frame (i : Instruction) : Frame :=
  ⟨i.opcode.code, i.resultType.toList ++ i.result.toList ++ i.operands.flatMap Operand.words⟩

def words (i : Instruction) : List UInt32 := i.frame.words

end Instruction

/-! How messages show an instruction. -/

/-- A name in capitals, its words divided by underscores. -/
def capitalized (name : String) : String :=
  String.ofList (go none name.toList)
where
  go (previous : Option Char) : List Char → List Char
    | [] => []
    | c :: rest =>
      let startsWord := c.isUpper && match previous with
        | none => false
        | some p => !p.isUpper || (rest.head?.map Char.isLower).getD false
      (if startsWord then ['_', c] else [c.toUpper]) ++ go (some c) rest

/-- The flags of a mask, each bit by its first name. -/
def MaskKind.shown (kind : MaskKind) (bits : UInt32) : String :=
  let flags := (kind.setFlags bits).foldl (fun shown flag =>
    if shown.any (·.bit = flag.bit) then shown else shown ++ [flag]) []
  let names := flags.map fun flag => capitalized flag.name
  kind.name ++ "(" ++ (if bits = 0 then "0x0" else " | ".intercalate names) ++ ")"

def Operand.shown : Operand → String
  | .id value => "IdRef(" ++ toString value.toNat ++ ")"
  | .literal value => "LiteralBit32(" ++ toString value.toNat ++ ")"
  | .wide value => "LiteralBit64(" ++ toString value.toNat ++ ")"
  | .text value => "LiteralString(" ++ Text.quoted value ++ ")"
  | .extInst number => "LiteralExtInstInteger(" ++ toString number.toNat ++ ")"
  | .opcode value => "LiteralSpecConstantOpInteger(" ++ value.name ++ ")"
  | .enumerant kind value => kind.name ++ "(" ++ value.name ++ ")"
  | .mask kind bits => kind.name ++ "(" ++ kind.shown bits ++ ")"

def Opcode.shownClass (op : Opcode) : String :=
  "Instruction \x7b opname: " ++ Text.quoted op.name ++ ", opcode: " ++ op.name ++
    ", capabilities: [], extensions: [], operands: " ++
    Text.bracketed op.grammar.logicalOperands ++ " \x7d"

def Instruction.shown (i : Instruction) : String :=
  let id (value : Option UInt32) := Text.optional (value.map fun v => toString v.toNat)
  "Instruction \x7b class: " ++ i.opcode.shownClass ++ ", result_type: " ++ id i.resultType ++
    ", result_id: " ++ id i.result ++ ", operands: " ++
    Text.bracketed (i.operands.map Operand.shown) ++ " \x7d"

end ShaderGraph.Spirv
