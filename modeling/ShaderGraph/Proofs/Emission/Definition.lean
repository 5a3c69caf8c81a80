import ShaderGraph.Proofs.Emission.Outline

namespace ShaderGraph

open Spirv

/-- The place of the result among the operands of the instructions that always have one: imports,
types, labels and functions. -/
def Spirv.Opcode.resultPlace? (opcode : Opcode) : Option Nat :=
  if opcode = .opExtInstImport ∨ opcode = .opLabel ∨ opcode.isType = true then some 0
  else if opcode = .opFunction then some 1
  else none

/-- An instruction of a module. If it is one of the library's, it comes with its place there. -/
structure Line where
  op : Option OpId
  draft : Draft

/-- The instruction of the library that a part of a module is. -/
def ModulePart.op? : ModulePart → Option OpId
  | .declaration (.op id) | .line id => some id
  | _ => none

namespace Library

/-- Whether an instruction has a result, which it has if it has a type. -/
def hasResult (lib : Library) (id : OpId) : Bool :=
  match lib.opAt id with
  | .ok op => op.resultType.isSome
  | .error _ => false

def resultOf? (lib : Library) (id : OpId) : Option NodeRef :=
  if lib.hasResult id then some (.op id) else none

def moduleLines (lib : Library) (c : Closure) (interface : List OpId) : Attempt EmitError (List Line) :=
  (lib.outline c).mapM fun part => Line.mk part.op? <$> lib.write interface part

def blockDefinitions (lib : Library) (id : BlockId) : List NodeRef :=
  .block id :: (lib.blockOps id).filterMap lib.resultOf?

def functionDefinitions (lib : Library) (id : FunctionId) : List NodeRef :=
  .function id :: (lib.parameterOps id).filterMap lib.resultOf? ++
    (lib.bodyBlocks id).flatMap lib.blockDefinitions

/-- The nodes that the instructions of a module define, in order. -/
def definitions (lib : Library) (c : Closure) : List NodeRef :=
  c.imports.map .extImport ++ c.order ++ c.functions.flatMap lib.functionDefinitions

/-- The node that a part of a module defines. -/
def defined? (lib : Library) : ModulePart → Option NodeRef
  | .extImport id => some (.extImport id)
  | .declaration node => some node
  | .functionHead id => some (.function id)
  | .line id => lib.resultOf? id
  | .label id => some (.block id)
  | .capability _ | .memoryModel | .entryPoint .. | .executionMode .. | .name .. | .decoration .. | .functionEnd => none

end Library

namespace Line

def resultPlace? (lib : Library) (line : Line) : Option Nat :=
  line.draft.opcode.resultPlace?.or (if line.op.any lib.hasResult then some 1 else none)

/-- The id that an instruction defines. -/
def result? (lib : Library) (idOf : NodeRef → UInt32) (line : Line) : Option UInt32 :=
  (line.resultPlace? lib).bind fun place => (line.draft.frame idOf).operands[place]?

end Line

namespace Library

variable {lib : Library} {c : Closure} {interface : List OpId}

theorem hasResult_eq {id : OpId} {op : Op} (atId : lib.opAt id = .ok op) :
    lib.hasResult id = op.resultType.isSome := by
  rw [hasResult, atId]

theorem filterMap_resultOf? (lib : Library) (ids : List OpId) :
    ids.filterMap lib.resultOf? = (ids.filter lib.hasResult).map .op := by
  induction ids with
  | nil => rfl
  | cons id rest ih => cases has : lib.hasResult id <;> simp [resultOf?, has, ih]

theorem filterMap_defined?_functionParts (lib : Library) (id : FunctionId) :
    (lib.functionParts id).filterMap lib.defined? = lib.functionDefinitions id := by
  have lines (ops : List OpId) : (ops.map ModulePart.line).filterMap lib.defined? = ops.filterMap lib.resultOf? := by
    rw [List.filterMap_map]
    rfl
  have block (id : BlockId) : (lib.blockParts id).filterMap lib.defined? = lib.blockDefinitions id := by
    have first : lib.defined? (.label id) = some (.block id) := rfl
    rw [blockParts, blockDefinitions, List.filterMap_cons_some first, lines]
  simp only [functionParts, functionDefinitions, List.cons_append, List.filterMap_append, List.filterMap_flatMap, block,
    lines, List.filterMap_cons_some (rfl : lib.defined? (.functionHead id) = some (.function id)),
    List.filterMap_cons_none (rfl : lib.defined? .functionEnd = none), List.filterMap_nil, List.append_nil]

/-- Of the parts that stand before the declarations only the imports define something. -/
theorem filterMap_defined?_outline (lib : Library) (c : Closure) :
    (lib.outline c).filterMap lib.defined? = lib.definitions c := by
  have silent {parts : List ModulePart} (none : ∀ part ∈ parts, lib.defined? part = none) :
      parts.filterMap lib.defined? = [] := List.filterMap_eq_nil_iff.mpr none
  have required : (c.capabilities.map ModulePart.capability).filterMap lib.defined? = [] :=
    silent (by simp [defined?])
  have entered : (c.functions.filterMap lib.entryPoint?).filterMap lib.defined? = [] := by
    refine silent fun part member => ?_
    obtain ⟨id, _, made⟩ := List.mem_filterMap.mp member
    obtain ⟨name, model, rfl⟩ := exists_of_entryPoint? made
    rfl
  have executed : (c.functions.filterMap lib.requiredMode?).filterMap lib.defined? = [] := by
    refine silent fun part member => ?_
    obtain ⟨id, _, made⟩ := List.mem_filterMap.mp member
    obtain ⟨mode, rfl⟩ := exists_of_requiredMode? made
    rfl
  have named (nodes : List NodeRef) : (nodes.filterMap lib.namePart?).filterMap lib.defined? = [] := by
    refine silent fun part member => ?_
    obtain ⟨node, _, made⟩ := List.mem_filterMap.mp member
    obtain ⟨text, rfl⟩ := exists_of_namePart? made
    rfl
  have decorated : (c.order.flatMap lib.decorationParts).filterMap lib.defined? = [] := by
    refine silent fun part member => ?_
    obtain ⟨node, _, made⟩ := List.mem_flatMap.mp member
    obtain ⟨id, decoration, _, rfl⟩ := exists_of_decorationParts made
    rfl
  have imported : (c.imports.map ModulePart.extImport).filterMap lib.defined? = c.imports.map .extImport := by
    rw [List.filterMap_map]
    exact congrFun List.filterMap_eq_map c.imports
  have declared : (c.order.map ModulePart.declaration).filterMap lib.defined? = c.order := by
    rw [List.filterMap_map]
    exact List.filterMap_some
  simp only [outline, List.filterMap_append, required, imported, entered, executed, named, decorated, declared,
    List.filterMap_flatMap, filterMap_defined?_functionParts, definitions, List.nil_append, List.append_nil,
    List.filterMap_cons_none (rfl : lib.defined? .memoryModel = none), List.filterMap_nil]

/-- The lines of a module are its instructions. -/
theorem draft_moduleLines (lib : Library) (c : Closure) (interface : List OpId) :
    List.map Line.draft <$> lib.moduleLines c interface = (lib.outline c).mapM (lib.write interface) := by
  refine (Outcome.mapM_eq_map_mapM (fun part => ?_) (lib.outline c)).symm
  simp [Functor.map_map]

end Library

/-- What an operand word is: the id of a node, or a number. -/
def Piece.slots : Piece → List (NodeRef ⊕ UInt32)
  | .node target => [.inl target]
  | .word value => [.inr value]
  | .text value => (packText value).map .inr

namespace Line

/-- What stands at the place of the result of an instruction. -/
def slot? (lib : Library) (line : Line) : Option (NodeRef ⊕ UInt32) :=
  (line.resultPlace? lib).bind fun place => (line.draft.pieces.flatMap Piece.slots)[place]?

variable {lib : Library}

theorem result?_eq (idOf : NodeRef → UInt32) (line : Line) :
    line.result? lib idOf = (line.slot? lib).map (Sum.elim idOf id) := by
  have words : Piece.words idOf = fun piece => piece.slots.map (Sum.elim idOf id) := by
    funext piece
    cases piece <;> simp [Piece.words, Piece.slots, Function.comp_def]
  have operands : (line.draft.frame idOf).operands =
      (line.draft.pieces.flatMap Piece.slots).map (Sum.elim idOf id) := by
    simp only [Draft.frame, List.map_flatMap, words]
  cases place : line.resultPlace? lib with
  | none => simp [result?, slot?, place]
  | some place => simp [result?, slot?, *]

theorem mem_mentions_of_slot? {line : Line} {node : NodeRef} (slot : line.slot? lib = some (.inl node)) :
    node ∈ line.draft.mentions := by
  obtain ⟨place, _, found⟩ := Option.bind_eq_some_iff.mp slot
  obtain ⟨piece, inside, member⟩ := List.mem_flatMap.mp (List.mem_of_getElem? found)
  refine List.mem_filterMap.mpr ⟨piece, inside, ?_⟩
  cases piece with
  | node target =>
    cases List.mem_singleton.mp member
    rfl
  | word value => simp [Piece.slots] at member
  | text value => simp [Piece.slots] at member

theorem slot?_first {line : Line} {node : NodeRef} {rest : List Piece}
    (place : line.draft.opcode.resultPlace? = some 0) (pieces : line.draft.pieces = .node node :: rest) :
    line.slot? lib = some (.inl node) := by
  simp [slot?, resultPlace?, place, pieces, Piece.slots]

theorem slot?_second {line : Line} {first node : NodeRef} {rest : List Piece}
    (place : line.resultPlace? lib = some 1) (pieces : line.draft.pieces = .node first :: .node node :: rest) :
    line.slot? lib = some (.inl node) := by
  simp [slot?, place, pieces, Piece.slots]

theorem slot?_plain {draft : Draft} (place : draft.opcode.resultPlace? = none) :
    slot? lib ⟨none, draft⟩ = none := by
  simp [slot?, resultPlace?, place]

theorem slot?_op {id : OpId} {draft : Draft} (reads : lib.Reads id draft)
    (ordinary : ∀ op, lib.opAt id = .ok op → op.opcode.resultPlace? = none) :
    slot? lib ⟨some id, draft⟩ = (lib.resultOf? id).map Sum.inl := by
  cases reads with
  | @result op type pieces atId typed made =>
    have known : lib.hasResult id = true := by simp [Library.hasResult_eq atId, typed]
    rw [Library.resultOf?, if_pos known, Option.map_some]
    exact slot?_second (by simp [resultPlace?, ordinary op atId, known]) rfl
  | @plain op pieces atId typed made =>
    have unknown : lib.hasResult id = false := by simp [Library.hasResult_eq atId, typed]
    simp [slot?, resultPlace?, ordinary op atId, Library.resultOf?, unknown]

/-- At the place of its result an instruction has the node that its part of the module defines. -/
theorem slot?_part {interface : List OpId} {part : ModulePart} {draft : Draft}
    (instructs : lib.Instructs interface part draft)
    (ordinary : ∀ id ∈ part.op?, ∀ op, lib.opAt id = .ok op → op.opcode.resultPlace? = none)
    (typed : ∀ id, part = .declaration (.op id) → lib.hasResult id = true) :
    slot? lib ⟨part.op?, draft⟩ = (lib.defined? part).map Sum.inl := by
  cases instructs with
  | capability | memoryModel | entryPoint | executionMode | name | decoration | functionEnd => exact slot?_plain rfl
  | extImport | label => exact slot?_first rfl rfl
  | type atId declared => exact slot?_first (by simp [Opcode.resultPlace?, declared.isType]) rfl
  | functionHead => exact slot?_second rfl rfl
  | @op id draft reads =>
    have result : lib.resultOf? id = some (.op id) := if_pos (typed id rfl)
    exact (slot?_op reads (ordinary id rfl)).trans (by rw [result]; rfl)
  | @line id draft reads => exact slot?_op reads (ordinary id rfl)

end Line

end ShaderGraph
