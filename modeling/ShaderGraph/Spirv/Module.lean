import ShaderGraph.Spirv.Reader

namespace ShaderGraph.Spirv

/-- The parts of a module outside its functions, in the order in which they are written. -/
inductive Section where
  | capability
  | extension
  | extImport
  | memoryModel
  | entryPoint
  | executionMode
  | source
  | name
  | processed
  | decoration
  /-- Types, constants and variables at module scope. -/
  | declaration
  deriving DecidableEq, Repr

/-- The section an instruction belongs to wherever it stands. -/
def Opcode.section? : Opcode → Option Section
  | .opCapability => some .capability
  | .opExtension => some .extension
  | .opExtInstImport => some .extImport
  | .opMemoryModel => some .memoryModel
  | .opEntryPoint => some .entryPoint
  | .opExecutionMode => some .executionMode
  | .opString | .opSourceExtension | .opSource | .opSourceContinued => some .source
  | .opName | .opMemberName => some .name
  | .opModuleProcessed => some .processed
  | .opDecorate | .opMemberDecorate => some .decoration
  | .opConstantSampler | .opSpecConstantOp => some .declaration
  | opcode => if opcode.isType || opcode.isConstant then some .declaration else none

structure BasicBlock where
  label : Instruction
  body : List Instruction
  deriving DecidableEq, Repr

structure FunctionBody where
  definition : Instruction
  parameters : List Instruction
  blocks : List BasicBlock
  ending : Instruction
  deriving DecidableEq, Repr

structure Module where
  major : UInt32
  minor : UInt32
  bound : UInt32
  capabilities : List Instruction
  extensions : List Instruction
  imports : List Instruction
  memoryModel : Option Instruction
  entryPoints : List Instruction
  executionModes : List Instruction
  sources : List Instruction
  names : List Instruction
  processed : List Instruction
  decorations : List Instruction
  declarations : List Instruction
  functions : List FunctionBody
  deriving DecidableEq, Repr

/-! Sorting instructions into a module. -/

/-- A function whose end has not been met. -/
structure OpenFunction where
  definition : Instruction
  parameters : List Instruction
  blocks : List BasicBlock
  /-- The block whose end has not been met. -/
  current : Option BasicBlock

/-- Instructions sorted so far. -/
structure Arrangement where
  filed : List (Section × Instruction) := []
  functions : List FunctionBody := []
  opened : Option OpenFunction := none

namespace Arrangement

def file (a : Arrangement) (s : Section) (i : Instruction) : Arrangement :=
  { a with filed := a.filed ++ [(s, i)] }

def current? (a : Arrangement) : Option BasicBlock := a.opened.bind OpenFunction.current

/-- Adds an instruction to the open block. -/
def append (a : Arrangement) (i : Instruction) : Except LayoutFault Arrangement :=
  match a.opened with
  | some f =>
    match f.current with
    | some block =>
      let block := { block with body := block.body ++ [i] }
      .ok { a with opened := some { f with current := some block } }
    | none => .error (.detachedInstruction i)
  | none => .error (.detachedInstruction i)

def openFunction (a : Arrangement) (i : Instruction) : Except LayoutFault Arrangement :=
  match a.opened with
  | some _ => .error .nestedFunction
  | none => .ok { a with opened := some ⟨i, [], [], none⟩ }

def closeFunction (a : Arrangement) (i : Instruction) : Except LayoutFault Arrangement :=
  match a.opened with
  | none => .error .mismatchedFunctionEnd
  | some f =>
    match f.current with
    | some _ => .error .unclosedBlock
    | none =>
      .ok { a with
        functions := a.functions ++ [⟨f.definition, f.parameters, f.blocks, i⟩], opened := none }

def addParameter (a : Arrangement) (i : Instruction) : Except LayoutFault Arrangement :=
  match a.opened with
  | none => .error .detachedFunctionParameter
  | some f => .ok { a with opened := some { f with parameters := f.parameters ++ [i] } }

def openBlock (a : Arrangement) (i : Instruction) : Except LayoutFault Arrangement :=
  match a.opened with
  | none => .error .detachedBlock
  | some f =>
    match f.current with
    | some _ => .error .nestedBlock
    | none => .ok { a with opened := some { f with current := some ⟨i, []⟩ } }

def closeBlock (a : Arrangement) (i : Instruction) : Except LayoutFault Arrangement :=
  match a.opened with
  | none => .error .mismatchedTerminator
  | some f =>
    match f.current with
    | none => .error .mismatchedTerminator
    | some block =>
      .ok { a with opened := some { f with
        blocks := f.blocks ++ [{ block with body := block.body ++ [i] }], current := none } }

/-- Puts an instruction where it belongs. -/
def place (a : Arrangement) (i : Instruction) : Except LayoutFault Arrangement :=
  match i.opcode.section? with
  | some s => .ok (a.file s i)
  | none =>
    match i.opcode with
    | .opLine | .opNoLine => if a.current?.isSome then a.append i else .ok (a.file .declaration i)
    | .opVariable | .opUndef => if a.opened.isNone then .ok (a.file .declaration i) else a.append i
    | .opFunction => a.openFunction i
    | .opFunctionEnd => a.closeFunction i
    | .opFunctionParameter => a.addParameter i
    | .opLabel => a.openBlock i
    | opcode => if opcode.isTerminator then a.closeBlock i else a.append i

/-- Accepts instructions that leave nothing open. -/
def finish (a : Arrangement) : Except LayoutFault Arrangement :=
  match a.opened with
  | none => .ok a
  | some f => .error (if f.current.isSome then .unclosedBlock else .unclosedFunction)

def sectionOf (a : Arrangement) (s : Section) : List Instruction :=
  a.filed.filterMap fun (t, i) => if t = s then some i else none

end Arrangement

namespace Module

/-- The version is in the middle bytes of its word, major before minor. -/
def ofArrangement (version bound : UInt32) (a : Arrangement) : Module where
  major := (version >>> 16) &&& 0xFF
  minor := (version >>> 8) &&& 0xFF
  bound := bound
  capabilities := a.sectionOf .capability
  extensions := a.sectionOf .extension
  imports := a.sectionOf .extImport
  memoryModel := (a.sectionOf .memoryModel).getLast?
  entryPoints := a.sectionOf .entryPoint
  executionModes := a.sectionOf .executionMode
  sources := a.sectionOf .source
  names := a.sectionOf .name
  processed := a.sectionOf .processed
  decorations := a.sectionOf .decoration
  declarations := a.sectionOf .declaration
  functions := a.functions

/-- Takes the header off a stream: version, bound and the words after it. -/
def readHeader : List UInt32 → Except ReadFault (UInt32 × UInt32 × List UInt32)
  | magic :: version :: _ :: bound :: _ :: rest =>
    if magic = magicNumber then .ok (version, bound, rest)
    else if magic = 0x03022307 then .error .endiannessUnsupported
    else .error .headerIncorrect
  | words => .error (.headerIncomplete (4 * words.length))

/-- Reads a module. The first instruction that cannot be read, or that stands where it must not,
decides the fault. -/
def ofWords (words : List UInt32) : Attempt ReadFault Module :=
  match readHeader words with
  | .error fault => Attempt.fail fault
  | .ok (version, bound, rest) =>
    let (instructions, stop?) := readInstructions .empty 1 5 [] rest.length rest
    match instructions.foldlM Arrangement.place {} with
    | .error fault => Attempt.fail (.layout fault)
    | .ok arrangement =>
      match stop?, arrangement.finish with
      | some stop, _ => .error stop
      | none, .error fault => Attempt.fail (.layout fault)
      | none, .ok arrangement => .ok (ofArrangement version bound arrangement)

/-- The instructions outside functions, section by section. -/
def globals (m : Module) : List Instruction :=
  m.capabilities ++ m.extensions ++ m.imports ++ m.memoryModel.toList ++ m.entryPoints ++
    m.executionModes ++ m.sources ++ m.names ++ m.processed ++ m.decorations ++ m.declarations

end Module

def BasicBlock.instructions (b : BasicBlock) : List Instruction := b.label :: b.body

def FunctionBody.instructions (f : FunctionBody) : List Instruction :=
  f.definition :: f.parameters ++ f.blocks.flatMap BasicBlock.instructions ++ [f.ending]

namespace Module

def instructions (m : Module) : List Instruction :=
  m.globals ++ m.functions.flatMap FunctionBody.instructions

/-- The generator number of modules that are written back. -/
def generator : UInt32 := 0x000F0000

def header (m : Module) : Header := ⟨m.major <<< 16 ||| m.minor <<< 8, generator, m.bound⟩

def words (m : Module) : List UInt32 := m.header.words ++ m.instructions.flatMap Instruction.words

end Module

end ShaderGraph.Spirv
