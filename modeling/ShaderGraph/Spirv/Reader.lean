import ShaderGraph.Abort
import ShaderGraph.Spirv.Enumerant.Parameters
import ShaderGraph.Spirv.NumberType
import ShaderGraph.Spirv.ReadFault

namespace ShaderGraph.Spirv

/-- A place in a stream of words, within an instruction. -/
structure Cursor where
  rest : List UInt32
  /-- Words from the start of the module. -/
  position : Nat
  /-- Words the instruction still has, by its own count. -/
  limit : Nat
  deriving Repr

def Cursor.offset (c : Cursor) : Nat := 4 * c.position

/-- Goes past words. -/
def Cursor.skip (c : Cursor) (count : Nat) : Cursor :=
  ⟨c.rest.drop count, c.position + count, c.limit - count⟩

abbrev Reader := StateT Cursor (Except (Stop ReadFault))

namespace Reader

def fail {α : Type} (fault : ReadFault) : Reader α := throw (.error fault)

def offset : Reader Nat := return (← get).offset

def atLimit : Reader Bool := return (← get).limit = 0

def word : Reader UInt32 := do
  let c ← get
  match c.limit, c.rest with
  | 0, _ => fail (.operand (.limitReached c.offset))
  | _, [] => fail (.operand (.streamExpected c.offset))
  | _, value :: _ => do
    set (c.skip 1)
    return value

/-- A word that stands for a name. Without one the end of the module is blamed, also where the
instruction ended first. -/
def code : Reader UInt32 := do
  let c ← get
  match c.limit, c.rest with
  | 0, _ | _, [] => fail (.operand (.streamExpected c.offset))
  | _, value :: _ => do
    set (c.skip 1)
    return value

def enumerant (kind : EnumKind) : Reader (Enumerant kind) := do
  let start ← offset
  let value ← code
  match Enumerant.ofCode? kind value with
  | some e => return e
  | none => fail (.operand (.unknownEnumerant kind start value))

def mask (kind : MaskKind) : Reader UInt32 := do
  let start ← offset
  let bits ← code
  if kind.covers bits then return bits
  else fail (.operand (.unknownMask kind start bits))

/-- A text, which ends with the first zero byte that the instruction holds. -/
def text : Reader String := do
  let c ← get
  if c.rest.length < c.limit then throw (.abort (.textPastEnd c.offset))
  match unpackBytes (c.rest.take c.limit) with
  | none => fail (.operand (.limitReached (c.offset + 4 * c.limit)))
  | some (bytes, _) =>
    match Text.decodeUtf8 ⟨bytes.toArray⟩ with
    | .error fault => fail (.operand (.badText c.offset fault))
    | .ok value => do
      set (c.skip (packedLength bytes.length))
      return value

def wide : Reader UInt64 := do
  let low ← word
  let high ← word
  return low.toUInt64 ||| high.toUInt64 <<< 32

/-- A number of a type, of one word if the type is not known. -/
def number (count : Nat) : Option NumberType → Reader Operand
  | none => return .literal (← word)
  | some type => do
    match type.wordCount? with
    | some 1 => return .literal (← word)
    | some _ => return .wide (← wide)
    | none => fail (.typeUnsupported (← offset) count)

/-- An operand of a kind that says by itself how it is read. Numbers as wide as a type, cases and
operations on constants depend on the instruction around them. -/
def plain : OperandKind → Reader (List Operand)
  | .id => return [.id (← word)]
  | .extInst => return [.extInst (← word)]
  | .text => return [.text (← text)]
  | .idPair => return [.id (← word), .id (← word)]
  | .enumerant kind => return [.enumerant kind (← enumerant kind)]
  | .mask kind => return [.mask kind (← mask kind)]
  | .literal => return [.literal (← word)]
  | .contextNumber | .switchCase | .constantOperation => do
    throw (.abort (.operandWithoutContext (← offset)))

/-- What follows an operand as part of it. -/
def parametersOf : Operand → List OperandKind
  | .enumerant kind value => kind.parameters value.code
  | .mask kind bits => kind.parameters bits
  | _ => []

/-- An operand and its parameters. -/
def whole (kind : OperandKind) : Reader (List Operand) := do
  let head ← plain kind
  let parameters ← (head.flatMap parametersOf).mapM plain
  return head ++ parameters.flatten

/-- The opcode of an operation on constants and one operand for each place of its grammar. -/
def constantOperation (count : Nat) : Reader (List Operand) := do
  let value ← word
  match Opcode.ofCode? (value.toNat % 0x10000) with
  | none => fail (.constantOperationUnknown (← offset) count)
  | some opcode =>
    let operands ← opcode.grammar.operands.mapM fun place => whole place.1
    return .opcode opcode :: operands.flatten

/-- An operand. Numbers are as wide as `type` says. -/
def operand (count : Nat) (type : Option NumberType) : OperandKind → Reader (List Operand)
  | .contextNumber => return [← number count type]
  | .switchCase => return [← number count type, .id (← word)]
  | .constantOperation => constantOperation count
  | kind => whole kind

/-- Operands of a kind up to the end of the instruction, after those read so far, of which the
last comes first. Each takes a word at least, so `fuel` is enough if it is not less than the words
that are left. -/
def many (count : Nat) (type : Option NumberType) (kind : OperandKind) (done : List Operand) :
    Nat → Reader (List Operand)
  | 0 => return done.reverse
  | fuel + 1 => do
    if ← atLimit then return done.reverse
    many count type kind ((← operand count type kind).reverse ++ done) fuel

/-- The type that fixes the width of numbers: that of the result, else that of the first operand. -/
def widthType (types : NumberTypes) (resultType : Option UInt32) (operands : List Operand) :
    Option NumberType :=
  match resultType, operands with
  | some id, _ => types.find? id
  | none, .id id :: _ => types.find? id
  | none, _ => none

/-- The operands of a grammar, after those already read. -/
def operands (count : Nat) (types : NumberTypes) (resultType : Option UInt32)
    (before : List Operand) : List (OperandKind × Quantifier) → Reader (List Operand)
  | [] => return before
  | (kind, quantifier) :: places => do
    if ← atLimit then
      match quantifier with
      | .one => fail (.operandExpected (← offset) count)
      | .zeroOrOne | .zeroOrMore => return before
    else
      let type := widthType types resultType before
      match quantifier with
      | .zeroOrMore => many count type kind before.reverse (← get).limit
      | .one | .zeroOrOne =>
        operands count types resultType (before ++ (← operand count type kind)) places

/-- An id that a grammar has in front of the operands. -/
def leadingId (count : Nat) (present : Bool) : Reader (Option UInt32) := do
  if !present then return none
  if ← atLimit then fail (.operandExpected (← offset) count)
  return some (← word)

/-- The rest of an instruction whose first word has been read. -/
def body (count : Nat) (types : NumberTypes) (opcode : Opcode) : Reader Instruction := do
  let resultType ← leadingId count opcode.grammar.hasResultType
  let result ← leadingId count opcode.grammar.hasResult
  let operands ← operands count types resultType [] opcode.grammar.operands
  if !(← atLimit) then fail (.operandExceeded (← offset) count)
  return { opcode, resultType, result, operands }

end Reader

/-- Reads the `count`-th instruction, whose first word is at `position`. -/
def readInstruction (types : NumberTypes) (count position : Nat) (first : UInt32)
    (rest : List UInt32) : Attempt ReadFault (Instruction × Cursor) :=
  let offset := 4 * position
  if Frame.countOf first = 0 then Attempt.fail (.wordCountZero offset count)
  else
    match Opcode.ofCode? (Frame.codeOf first) with
    | none => Attempt.fail (.opcodeUnknown offset count (Frame.codeOf first))
    | some opcode =>
      (Reader.body count types opcode).run ⟨rest, position + 1, Frame.countOf first - 1⟩

/-- Reads instructions to the end of the stream or up to the first that cannot be read. Each takes
a word at least, so `fuel` is enough if it is not less than the count of words. -/
def readInstructions (types : NumberTypes) (count position : Nat) (done : List Instruction) :
    Nat → List UInt32 → List Instruction × Option (Stop ReadFault)
  | 0, _ | _, [] => (done.reverse, none)
  | fuel + 1, first :: rest =>
    match readInstruction types count position first rest with
    | .error stop => (done.reverse, some stop)
    | .ok (i, cursor) =>
      readInstructions (types.track i) (count + 1) cursor.position (i :: done) fuel cursor.rest

end ShaderGraph.Spirv
