import ShaderGraph.Emission
import ShaderGraph.Proofs.Collection.Link

namespace ShaderGraph

open Spirv

def NodeRef.isLiteral : NodeRef → Bool
  | .literal _ => true
  | _ => false

/-- What an instruction of a module is there for. -/
inductive ModulePart where
  | capability (capability : Capability)
  | extImport (id : ImportId)
  | memoryModel
  | entryPoint (id : FunctionId) (name : String) (model : ExecutionModel)
  | executionMode (id : FunctionId) (mode : List UInt32)
  | name (node : NodeRef) (text : String)
  | decoration (id : OpId) (decoration : Decoration)
  | declaration (node : NodeRef)
  | functionHead (id : FunctionId)
  | line (id : OpId)
  | label (id : BlockId)
  | functionEnd

@[simp] theorem Piece.filterMap_mention?_node (target : NodeRef) (rest : List Piece) :
    (Piece.node target :: rest).filterMap Piece.mention? = target :: rest.filterMap Piece.mention? := rfl

@[simp] theorem Piece.filterMap_mention?_word (value : UInt32) (rest : List Piece) :
    (Piece.word value :: rest).filterMap Piece.mention? = rest.filterMap Piece.mention? := rfl

@[simp] theorem Piece.filterMap_mention?_text (value : String) (rest : List Piece) :
    (Piece.text value :: rest).filterMap Piece.mention? = rest.filterMap Piece.mention? := rfl

namespace Library

/-- How an argument is written: literals stand for themselves, other nodes are named. -/
inductive Becomes (lib : Library) : NodeRef → Piece → Prop
  | int {id value} : lib.literalAt id = .ok (.int value) → Becomes lib (.literal id) (.word value)
  | float {id bits} : lib.literalAt id = .ok (.float bits) → Becomes lib (.literal id) (.word bits)
  | text {id value} : lib.literalAt id = .ok (.text value) → Becomes lib (.literal id) (.text value)
  | node {node} : node.isLiteral = false → Becomes lib node (.node node)

/-- How a type is declared: the opcode, and what stands after the id. -/
inductive DeclaredAs (lib : Library) (shape : TypeShape) : Opcode → List Piece → Prop
  | void : shape.kind = .void → DeclaredAs lib shape .opTypeVoid []
  | bool : shape.kind = .bool → DeclaredAs lib shape .opTypeBool []
  | int {width signed} : shape.kind = .int width signed →
      DeclaredAs lib shape .opTypeInt [.word width, .word (if signed then 1 else 0)]
  | float {width} : shape.kind = .float width → DeclaredAs lib shape .opTypeFloat [.word width]
  | vector {count component} : shape.kind = .vector count → shape.component = some component →
      DeclaredAs lib shape .opTypeVector [.node (.type component), .word count]
  | matrix {columns column} : shape.kind = .matrix columns → shape.component = some column →
      DeclaredAs lib shape .opTypeMatrix [.node (.type column), .word columns]
  | array {element length others piece} : shape.kind = .array → shape.component = some element →
      shape.parameters = length :: others → lib.Becomes length piece →
      DeclaredAs lib shape .opTypeArray [.node (.type element), piece]
  | runtimeArray {element} : shape.kind = .runtimeArray → shape.component = some element →
      DeclaredAs lib shape .opTypeRuntimeArray [.node (.type element)]
  | struct {members} : shape.kind = .struct → List.Forall₂ lib.Becomes shape.parameters members →
      DeclaredAs lib shape .opTypeStruct members
  | pointer {storageClass pointee} : shape.kind = .pointer storageClass → shape.dereference = some pointee →
      DeclaredAs lib shape .opTypePointer [.word storageClass.code, .node (.type pointee)]
  | function {result params} : shape.kind = .function → shape.component = some result →
      List.Forall₂ lib.Becomes shape.parameters params →
      DeclaredAs lib shape .opTypeFunction (.node (.type result) :: params)
  | image {dim depth arrayed multisampled sampled sampledType} :
      shape.kind = .image dim depth arrayed multisampled sampled → shape.component = some sampledType →
      DeclaredAs lib shape .opTypeImage [.node (.type sampledType), .word dim.code, .word depth,
        .word (if arrayed then 1 else 0), .word (if multisampled then 1 else 0), .word sampled, .word 0]
  | sampledImage {image} : shape.kind = .sampledImage → shape.component = some image →
      DeclaredAs lib shape .opTypeSampledImage [.node (.type image)]
  | sampler : shape.kind = .sampler → DeclaredAs lib shape .opTypeSampler []

/-- How an instruction of the library is written: its type and its id if it has a result, then its arguments. -/
inductive Reads (lib : Library) (id : OpId) : Draft → Prop
  | result {op type pieces} : lib.opAt id = .ok op → op.resultType = some type →
      List.Forall₂ lib.Becomes op.args pieces →
      Reads lib id ⟨op.opcode, .node (.type type) :: .node (.op id) :: pieces⟩
  | plain {op pieces} : lib.opAt id = .ok op → op.resultType = none → List.Forall₂ lib.Becomes op.args pieces →
      Reads lib id ⟨op.opcode, pieces⟩

/-- The instruction for a part of a module, however long it is. -/
inductive Instructs (lib : Library) (interface : List OpId) : ModulePart → Draft → Prop
  | capability {capability} :
      Instructs lib interface (.capability capability) ⟨.opCapability, [.word capability.code]⟩
  | extImport {id item} : lib.importAt id = .ok item →
      Instructs lib interface (.extImport id) ⟨.opExtInstImport, [.node (.extImport id), .text item.name]⟩
  /-- Logical addresses and the memory model of GLSL. -/
  | memoryModel : Instructs lib interface .memoryModel ⟨.opMemoryModel, [.word 0, .word 1]⟩
  | entryPoint {id name model} : Instructs lib interface (.entryPoint id name model)
      ⟨.opEntryPoint, [.word model.code, .node (.function id), .text name] ++ interface.map (.node <| .op ·)⟩
  | executionMode {id mode} : Instructs lib interface (.executionMode id mode)
      ⟨.opExecutionMode, .node (.function id) :: mode.map .word⟩
  | name {node text} : Instructs lib interface (.name node text) ⟨.opName, [.node node, .text text]⟩
  | decoration {id decoration} : Instructs lib interface (.decoration id decoration)
      ⟨.opDecorate, .node (.op id) :: .word decoration.kind.code :: decoration.literals.map .word⟩
  | type {id decl opcode pieces} : lib.typeAt id = .ok decl → lib.DeclaredAs decl.shape opcode pieces →
      Instructs lib interface (.declaration (.type id)) ⟨opcode, .node (.type id) :: pieces⟩
  | op {id draft} : lib.Reads id draft → Instructs lib interface (.declaration (.op id)) draft
  /-- A function has its result type, itself, no hints for its use, and its signature. -/
  | functionHead {id function type result} : lib.functionAt id = .ok function →
      lib.typeAt function.functionType = .ok type → type.shape.component = some result →
      Instructs lib interface (.functionHead id) ⟨.opFunction, [.node (.type result), .node (.function id), .word 0,
        .node (.type function.functionType)]⟩
  | line {id draft} : lib.Reads id draft → Instructs lib interface (.line id) draft
  | label {id} : Instructs lib interface (.label id) ⟨.opLabel, [.node (.block id)]⟩
  | functionEnd : Instructs lib interface .functionEnd ⟨.opFunctionEnd, []⟩

/-- Writes the instruction for a part of a module. Only types and instructions of the library are ever declared. -/
def write (lib : Library) (interface : List OpId) : ModulePart → Attempt EmitError Draft
  | .capability capability => Draft.checked ⟨.opCapability, [.word capability.code]⟩
  | .extImport id => lib.importDraft id
  | .memoryModel => Draft.checked ⟨.opMemoryModel, [.word 0, .word 1]⟩
  | .entryPoint id name model => Draft.checked ⟨.opEntryPoint,
      [.word model.code, .node (.function id), .text name] ++ interface.map (.node <| .op ·)⟩
  | .executionMode id mode => Draft.checked ⟨.opExecutionMode, .node (.function id) :: mode.map .word⟩
  | .name node text => Draft.checked ⟨.opName, [.node node, .text text]⟩
  | .decoration id decoration => Draft.checked ⟨.opDecorate,
      .node (.op id) :: .word decoration.kind.code :: decoration.literals.map .word⟩
  | .declaration (.type id) => lib.typeDraft id
  | .declaration (.op id) | .line id => lib.opDraft id
  | .declaration node => .error (.abort (.missingNode node))
  | .functionHead id => do
    let function ← lib.functionAt id
    let type ← lib.typeAt function.functionType
    let result ← type.need type.shape.component "return type"
    Draft.checked ⟨.opFunction, [result, .node (.function id), .word 0, .node (.type function.functionType)]⟩
  | .label id => Draft.checked ⟨.opLabel, [.node (.block id)]⟩
  | .functionEnd => return ⟨.opFunctionEnd, []⟩

variable {lib : Library} {interface : List OpId}

/-! What is written is what the part says, if it is not too long. -/

theorem checked_eq_ok_iff {draft result : Draft} :
    draft.checked = .ok result ↔ draft = result ∧ draft.wordCount ≤ maxWordCount := by
  unfold Draft.checked
  split
  · next fits => simp [fits]
  · next tooLong => simp [tooLong, Attempt.fail]

theorem checked_eq_error_iff {draft : Draft} {stop : Stop EmitError} : draft.checked = .error stop ↔
    stop = .error (.instructionTooLong draft.opcode draft.wordCount) ∧ maxWordCount < draft.wordCount := by
  unfold Draft.checked
  split
  · next fits => simp [fits]
  · next tooLong => simp [Nat.lt_of_not_le tooLong, Attempt.fail, eq_comm]

theorem pieceOf_eq_ok_iff {arg : NodeRef} {piece : Piece} : lib.pieceOf arg = .ok piece ↔ lib.Becomes arg piece := by
  constructor
  · intro found
    cases arg with
    | literal id =>
      obtain ⟨value, atId, found⟩ := Outcome.bind_eq_ok_iff.mp found
      cases value <;> cases Outcome.pure_eq_ok_iff.mp found
      · exact .int atId
      · exact .float atId
      · exact .text atId
    | _ =>
      cases Outcome.pure_eq_ok_iff.mp found
      exact .node rfl
  · rintro (atId | atId | atId | plain)
    · exact Outcome.bind_eq_ok_iff.mpr ⟨_, atId, rfl⟩
    · exact Outcome.bind_eq_ok_iff.mpr ⟨_, atId, rfl⟩
    · exact Outcome.bind_eq_ok_iff.mpr ⟨_, atId, rfl⟩
    · cases arg with
      | literal => cases plain
      | _ => rfl

theorem piecesOf_eq_ok_iff {args : List NodeRef} {pieces : List Piece} :
    lib.piecesOf args = .ok pieces ↔ List.Forall₂ lib.Becomes args pieces := by
  simp only [piecesOf, Outcome.mapM_eq_ok_iff, pieceOf_eq_ok_iff]

theorem need_eq_ok_iff {decl : TypeDecl} {operand : Option TypeId} {what : String} {piece : Piece} :
    decl.need operand what = .ok piece ↔ ∃ id, operand = some id ∧ .node (.type id) = piece := by
  cases operand <;> simp [TypeDecl.need, Attempt.fail]

theorem declaredAs_of_typeOperands {decl : TypeDecl} {opcode : Opcode} {pieces : List Piece}
    (found : lib.typeOperands decl = .ok (opcode, pieces)) : lib.DeclaredAs decl.shape opcode pieces := by
  unfold typeOperands at found
  cases kind : decl.shape.kind with
  | void | bool | int | float | sampler =>
    simp only [kind] at found
    cases Outcome.pure_eq_ok_iff.mp found
    constructor
    exact kind
  | vector | matrix | runtimeArray | image | sampledImage | pointer =>
    simp only [kind] at found
    obtain ⟨piece, needed, found⟩ := Outcome.bind_eq_ok_iff.mp found
    obtain ⟨id, known, rfl⟩ := need_eq_ok_iff.mp needed
    cases Outcome.pure_eq_ok_iff.mp found
    constructor
    · exact kind
    · exact known
  | array =>
    simp only [kind] at found
    obtain ⟨piece, needed, found⟩ := Outcome.bind_eq_ok_iff.mp found
    obtain ⟨id, known, rfl⟩ := need_eq_ok_iff.mp needed
    cases parameters : decl.shape.parameters with
    | nil =>
      simp only [parameters] at found
      cases found
    | cons length others =>
      simp only [parameters] at found
      obtain ⟨last, made, found⟩ := Outcome.bind_eq_ok_iff.mp found
      cases Outcome.pure_eq_ok_iff.mp found
      exact .array kind known parameters (pieceOf_eq_ok_iff.mp (Outcome.lift_eq_ok_iff.mp made))
  | struct =>
    simp only [kind] at found
    obtain ⟨members, made, found⟩ := Outcome.bind_eq_ok_iff.mp found
    cases Outcome.pure_eq_ok_iff.mp found
    exact .struct kind (piecesOf_eq_ok_iff.mp (Outcome.lift_eq_ok_iff.mp made))
  | function =>
    simp only [kind] at found
    obtain ⟨piece, needed, found⟩ := Outcome.bind_eq_ok_iff.mp found
    obtain ⟨id, known, rfl⟩ := need_eq_ok_iff.mp needed
    obtain ⟨params, made, found⟩ := Outcome.bind_eq_ok_iff.mp found
    cases Outcome.pure_eq_ok_iff.mp found
    exact .function kind known (piecesOf_eq_ok_iff.mp (Outcome.lift_eq_ok_iff.mp made))

theorem typeOperands_eq_ok_iff {decl : TypeDecl} {opcode : Opcode} {pieces : List Piece} :
    lib.typeOperands decl = .ok (opcode, pieces) ↔ lib.DeclaredAs decl.shape opcode pieces := by
  refine ⟨declaredAs_of_typeOperands, fun declared => ?_⟩
  unfold typeOperands
  cases declared with
  | void kind | bool kind | int kind | float kind | sampler kind =>
    simp only [kind]
    rfl
  | vector kind known | matrix kind known | runtimeArray kind known | image kind known | sampledImage kind known
  | pointer kind known =>
    simp only [kind, known]
    rfl
  | array kind known parameters made =>
    simp only [kind, known, parameters]
    exact Outcome.lift_bind_of_ok (pieceOf_eq_ok_iff.mpr made) _
  | struct kind made =>
    simp only [kind]
    exact Outcome.lift_bind_of_ok (piecesOf_eq_ok_iff.mpr made) _
  | function kind known made =>
    simp only [kind, known]
    exact Outcome.lift_bind_of_ok (piecesOf_eq_ok_iff.mpr made) _

theorem opDraft_eq_checked {id : OpId} {draft : Draft} (reads : lib.Reads id draft) :
    lib.opDraft id = draft.checked := by
  cases reads with
  | result atId typed made =>
    rw [opDraft, Outcome.lift_bind_of_ok atId, Outcome.lift_bind_of_ok (piecesOf_eq_ok_iff.mpr made), typed]
    rfl
  | plain atId typed made =>
    rw [opDraft, Outcome.lift_bind_of_ok atId, Outcome.lift_bind_of_ok (piecesOf_eq_ok_iff.mpr made), typed]
    rfl

theorem reads_of_opDraft {id : OpId} {draft : Draft} (found : lib.opDraft id = .ok draft) : lib.Reads id draft := by
  obtain ⟨op, atId, found⟩ := Outcome.bind_eq_ok_iff.mp found
  obtain ⟨pieces, made, found⟩ := Outcome.bind_eq_ok_iff.mp found
  obtain ⟨rfl, _⟩ := checked_eq_ok_iff.mp found
  have atId := Outcome.lift_eq_ok_iff.mp atId
  have made := piecesOf_eq_ok_iff.mp (Outcome.lift_eq_ok_iff.mp made)
  cases typed : op.resultType with
  | none => exact .plain atId typed made
  | some type => exact .result atId typed made

/-- The instruction for a part is what is written, unless it is too long. -/
theorem write_eq_checked {part : ModulePart} {draft : Draft} (instructs : lib.Instructs interface part draft) :
    lib.write interface part = draft.checked := by
  cases instructs with
  | capability | memoryModel | entryPoint | executionMode | name | decoration | label | functionEnd => rfl
  | extImport atId => exact Outcome.lift_bind_of_ok atId _
  | type atId declared =>
    rw [write, typeDraft, Outcome.lift_bind_of_ok atId, typeOperands_eq_ok_iff.mpr declared]
    rfl
  | op reads | line reads => exact opDraft_eq_checked reads
  | functionHead atId atType known =>
    rw [write, Outcome.lift_bind_of_ok atId, Outcome.lift_bind_of_ok atType, known]
    rfl

theorem instructs_of_write {part : ModulePart} {draft : Draft} (written : lib.write interface part = .ok draft) :
    lib.Instructs interface part draft := by
  cases part with
  | capability | memoryModel | entryPoint | executionMode | name | decoration | label =>
    obtain ⟨rfl, _⟩ := checked_eq_ok_iff.mp written
    constructor
  | functionEnd =>
    cases Outcome.pure_eq_ok_iff.mp written
    exact .functionEnd
  | extImport id =>
    obtain ⟨item, atId, written⟩ := Outcome.bind_eq_ok_iff.mp written
    obtain ⟨rfl, _⟩ := checked_eq_ok_iff.mp written
    exact .extImport (Outcome.lift_eq_ok_iff.mp atId)
  | declaration node =>
    cases node with
    | type id =>
      obtain ⟨decl, atId, written⟩ := Outcome.bind_eq_ok_iff.mp written
      obtain ⟨⟨opcode, pieces⟩, operands, written⟩ := Outcome.bind_eq_ok_iff.mp written
      obtain ⟨rfl, _⟩ := checked_eq_ok_iff.mp written
      exact .type (Outcome.lift_eq_ok_iff.mp atId) (declaredAs_of_typeOperands operands)
    | op id => exact .op (reads_of_opDraft written)
    | _ => cases written
  | functionHead id =>
    obtain ⟨function, atId, written⟩ := Outcome.bind_eq_ok_iff.mp written
    obtain ⟨type, atType, written⟩ := Outcome.bind_eq_ok_iff.mp written
    obtain ⟨result, needed, written⟩ := Outcome.bind_eq_ok_iff.mp written
    obtain ⟨component, known, rfl⟩ := need_eq_ok_iff.mp needed
    obtain ⟨rfl, _⟩ := checked_eq_ok_iff.mp written
    exact .functionHead (Outcome.lift_eq_ok_iff.mp atId) (Outcome.lift_eq_ok_iff.mp atType) known
  | line id => exact .line (reads_of_opDraft written)

theorem write_eq_ok_iff {part : ModulePart} {draft : Draft} : lib.write interface part = .ok draft ↔
    lib.Instructs interface part draft ∧ draft.wordCount ≤ maxWordCount := by
  constructor
  · intro written
    have instructs := instructs_of_write written
    rw [write_eq_checked instructs] at written
    exact ⟨instructs, (checked_eq_ok_iff.mp written).2⟩
  · rintro ⟨instructs, short⟩
    rw [write_eq_checked instructs]
    exact checked_eq_ok_iff.mpr ⟨rfl, short⟩

/-! What an instruction names. -/

theorem mem_of_becomes {args : List NodeRef} {pieces : List Piece} (made : List.Forall₂ lib.Becomes args pieces)
    {node : NodeRef} (mention : node ∈ pieces.filterMap Piece.mention?) : node ∈ args ∧ node.isLiteral = false := by
  obtain ⟨piece, member, mention⟩ := List.mem_filterMap.mp mention
  obtain ⟨arg, inside, becomes⟩ := Outcome.exists_of_forall₂ made member
  cases becomes with
  | int | float | text => cases mention
  | node plain =>
    cases mention
    exact ⟨inside, plain⟩

theorem DeclaredAs.isType {shape : TypeShape} {opcode : Opcode} {pieces : List Piece}
    (declared : lib.DeclaredAs shape opcode pieces) : opcode.isType = true := by
  cases declared <;> rfl

/-- The declaration of a type names nodes that the type is made of. -/
theorem DeclaredAs.mem_refs {shape : TypeShape} {opcode : Opcode} {pieces : List Piece}
    (declared : lib.DeclaredAs shape opcode pieces) {node : NodeRef}
    (mention : node ∈ pieces.filterMap Piece.mention?) : node ∈ shape.refs ∧ node.isLiteral = false := by
  cases declared with
  | void | bool | int | float | sampler => simp at mention
  | vector _ known | matrix _ known | runtimeArray _ known | image _ known | sampledImage _ known
  | pointer _ known =>
    obtain rfl : node = _ := by simpa using mention
    simp [TypeShape.refs, known, NodeRef.isLiteral]
  | array _ known parameters made =>
    rcases List.mem_cons.mp mention with rfl | later
    · simp [TypeShape.refs, known, NodeRef.isLiteral]
    · obtain ⟨inside, plain⟩ := mem_of_becomes (.cons made .nil) later
      obtain rfl := List.mem_singleton.mp inside
      simp [TypeShape.refs, parameters, plain]
  | struct _ made =>
    obtain ⟨inside, plain⟩ := mem_of_becomes made mention
    simp [TypeShape.refs, inside, plain]
  | function _ known made =>
    rcases List.mem_cons.mp mention with rfl | later
    · simp [TypeShape.refs, known, NodeRef.isLiteral]
    · obtain ⟨inside, plain⟩ := mem_of_becomes made later
      simp [TypeShape.refs, inside, plain]

/-- An instruction of the library names its type and itself, and those of its arguments that are no literals. -/
theorem Reads.mention {id : OpId} {draft : Draft} (reads : lib.Reads id draft) {node : NodeRef}
    (mention : node ∈ draft.mentions) : ∃ op, lib.opAt id = .ok op ∧ ((∃ type, op.resultType = some type ∧
      (node = .type type ∨ node = .op id)) ∨ node ∈ op.args ∧ node.isLiteral = false) := by
  cases reads with
  | @result op type pieces atId typed made =>
    refine ⟨op, atId, ?_⟩
    have named : node = .type type ∨ node = .op id ∨ node ∈ pieces.filterMap Piece.mention? := by
      simpa [Draft.mentions] using mention
    rcases named with isType | itself | later
    · exact .inl ⟨type, typed, .inl isType⟩
    · exact .inl ⟨type, typed, .inr itself⟩
    · exact .inr (mem_of_becomes made later)
  | plain atId _ made => exact ⟨_, atId, .inr (mem_of_becomes made mention)⟩

theorem Reads.opcode {id : OpId} {draft : Draft} (reads : lib.Reads id draft) :
    ∃ op, lib.opAt id = .ok op ∧ draft.opcode = op.opcode := by
  cases reads with
  | result atId => exact ⟨_, atId, rfl⟩
  | plain atId => exact ⟨_, atId, rfl⟩

end Library

end ShaderGraph
