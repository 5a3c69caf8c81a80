import ShaderGraph.Proofs.Emission.Definition

namespace ShaderGraph

open Spirv

namespace Library

/-- Parameters of types and arguments of instructions. -/
inductive HasOperand (lib : Library) : NodeRef → NodeRef → Prop
  | parameter {id decl target} : lib.typeAt id = .ok decl → target ∈ decl.shape.parameters →
      HasOperand lib (.type id) target
  | argument {id op target} : lib.opAt id = .ok op → target ∈ op.args → HasOperand lib (.op id) target

/-- Whether an instruction is declared outside of functions. -/
def IsDeclaration (lib : Library) (op : Op) : Prop :=
  op.opcode.isConstant = true ∨ lib.DeclaresGlobal op

/-- What is reachable from a root fits together to a module, with these functions in it: constants and
global variables have a type and stand in no function, every other instruction stands in one place of one
function, and operands that are instructions or blocks can be referred to. -/
structure WellPlaced (lib : Library) (root : NodeRef) (functions : List FunctionId) : Prop where
  declarations : ∀ id op, lib.Reachable [root] (.op id) → lib.opAt id = .ok op → lib.IsDeclaration op →
    op.resultType.isSome = true ∧ id ∉ functions.flatMap lib.functionOps
  others : ∀ id op, lib.Reachable [root] (.op id) → lib.opAt id = .ok op → ¬lib.IsDeclaration op →
    (functions.flatMap lib.functionOps).count id = 1
  blocks : (functions.flatMap lib.bodyBlocks).Nodup
  results : ∀ node id, lib.Reachable [root] node → lib.HasOperand node (.op id) → lib.hasResult id = true
  targets : ∀ node id, lib.Reachable [root] node → lib.HasOperand node (.block id) →
    id ∈ functions.flatMap lib.bodyBlocks
  branches : ∀ id op, lib.Reachable [root] (.op id) → lib.opAt id = .ok op →
    op.opcode = .opBranchConditional → ∀ arg ∈ op.args.tail, arg.isBlock = true ∨ arg.isLiteral = true
  opcodes : ∀ id op, lib.Reachable [root] (.op id) → lib.opAt id = .ok op → op.opcode.resultPlace? = none

variable {lib : Library} {root : NodeRef} {c : Closure}

theorem opAt_of_hasResult {id : OpId} (has : lib.hasResult id = true) :
    ∃ op, lib.opAt id = .ok op ∧ op.resultType.isSome = true := by
  unfold hasResult at has
  split at has
  · next op atId => exact ⟨op, atId, has⟩
  · cases has

section Defined

variable (reaches : c.IsReachablePart lib [root])

include reaches

theorem type_mem_definitions {id : TypeId} (reachable : lib.Reachable [root] (.type id)) :
    .type id ∈ lib.definitions c := by
  have ordered : .type id ∈ c.order := (reaches.order _).mpr (.inl ⟨id, (reaches.types id).mpr reachable, rfl⟩)
  simp [definitions, ordered]

theorem function_mem_definitions {id : FunctionId} (reachable : lib.Reachable [root] (.function id)) :
    .function id ∈ lib.definitions c := by
  have listed := (reaches.functions id).mpr reachable
  simp only [definitions, List.mem_append, List.mem_flatMap]
  exact .inr ⟨id, listed, by simp [functionDefinitions]⟩

theorem import_mem_definitions {id : ImportId} (reachable : lib.Reachable [root] (.extImport id)) :
    .extImport id ∈ lib.definitions c := by
  have listed := (reaches.imports id).mpr reachable
  simp [definitions, listed]

theorem op_mem_order_iff {id : OpId} : .op id ∈ c.order ↔
    lib.Reachable [root] (.op id) ∧ ∃ op, lib.opAt id = .ok op ∧ lib.IsDeclaration op := by
  simp only [reaches.order, reaches.constants, reaches.globals, IsDeclaration, Opcode.isConstant_iff, reduceCtorEq,
    and_false, exists_false, false_or, NodeRef.op.injEq, exists_eq_right']
  constructor
  · rintro (⟨reachable, op, atId, isConstant⟩ | ⟨reachable, op, atId, isGlobal⟩)
    · exact ⟨reachable, op, atId, .inl isConstant⟩
    · exact ⟨reachable, op, atId, .inr isGlobal⟩
  · rintro ⟨reachable, op, atId, isConstant | isGlobal⟩
    · exact .inl ⟨reachable, op, atId, isConstant⟩
    · exact .inr ⟨reachable, op, atId, isGlobal⟩

end Defined

theorem block_mem_definitions {id : BlockId} (listed : id ∈ c.functions.flatMap lib.bodyBlocks) :
    .block id ∈ lib.definitions c := by
  obtain ⟨function, inside, body⟩ := List.mem_flatMap.mp listed
  simp only [definitions, List.mem_append, List.mem_flatMap]
  refine .inr ⟨function, inside, ?_⟩
  simp only [functionDefinitions, List.mem_append, List.mem_flatMap]
  exact .inr ⟨id, body, by simp [blockDefinitions]⟩

theorem placed_mem_definitions {id : OpId} (listed : id ∈ c.functions.flatMap lib.functionOps)
    (has : lib.hasResult id = true) : .op id ∈ lib.definitions c := by
  have result : lib.resultOf? id = some (.op id) := by simp [resultOf?, has]
  obtain ⟨function, inside, place⟩ := List.mem_flatMap.mp listed
  simp only [definitions, List.mem_append, List.mem_flatMap]
  refine .inr ⟨function, inside, ?_⟩
  simp only [functionDefinitions, List.mem_append, List.mem_flatMap, List.mem_cons, List.mem_filterMap]
  rcases List.mem_append.mp place with parameter | body
  · exact .inl (.inr ⟨id, parameter, result⟩)
  · obtain ⟨block, listedBlock, line⟩ := List.mem_flatMap.mp body
    refine .inr ⟨block, listedBlock, ?_⟩
    simp only [blockDefinitions, List.mem_cons, List.mem_filterMap]
    exact .inr ⟨id, line, result⟩

section Module

variable (reaches : c.IsReachablePart lib [root]) (placed : lib.WellPlaced root c.functions)

include reaches placed

theorem op_mem_definitions {id : OpId} (reachable : lib.Reachable [root] (.op id))
    (has : lib.hasResult id = true) : .op id ∈ lib.definitions c := by
  obtain ⟨op, atId, _⟩ := opAt_of_hasResult has
  by_cases declaration : lib.IsDeclaration op
  · have ordered := (op_mem_order_iff reaches).mpr ⟨reachable, op, atId, declaration⟩
    simp [definitions, ordered]
  · have once := placed.others id op reachable atId declaration
    have listed : id ∈ c.functions.flatMap lib.functionOps := List.count_pos_iff.mp (by omega)
    exact placed_mem_definitions listed has

omit reaches in
/-- Operands that are neither blocks nor literals are looked at by the walk. -/
theorem needs_of_hasOperand {node target : NodeRef} (reachable : lib.Reachable [root] node)
    (operand : lib.HasOperand node target) (noBlock : target.isBlock = false)
    (noLiteral : target.isLiteral = false) : lib.Needs node target := by
  cases operand with
  | parameter atId member => exact .parameter atId member
  | @argument id op _ atId member =>
    by_cases branch : op.opcode = .opBranchConditional
    · cases args : op.args with
      | nil => simp [args] at member
      | cons first others =>
        rw [args] at member
        rcases List.mem_cons.mp member with rfl | later
        · exact .condition atId branch (by simp [args])
        · have plain := placed.branches id op reachable atId branch target (by simpa [args] using later)
          simp [noBlock, noLiteral] at plain
    · exact .argument atId branch member noBlock

/-- Every node that is an operand of an instruction or of a type is defined. -/
theorem operand_mem_definitions {node target : NodeRef} (reachable : lib.Reachable [root] node)
    (operand : lib.HasOperand node target) (noLiteral : target.isLiteral = false) :
    target ∈ lib.definitions c := by
  cases target with
  | literal id => cases noLiteral
  | block id => exact block_mem_definitions (placed.targets node id reachable operand)
  | type id =>
    have needs := needs_of_hasOperand placed reachable operand rfl rfl
    exact type_mem_definitions reaches (reachable.link (.needs needs))
  | function id =>
    have needs := needs_of_hasOperand placed reachable operand rfl rfl
    exact function_mem_definitions reaches (reachable.link (.needs needs))
  | extImport id =>
    have needs := needs_of_hasOperand placed reachable operand rfl rfl
    exact import_mem_definitions reaches (reachable.link (.needs needs))
  | op id =>
    have needs := needs_of_hasOperand placed reachable operand rfl rfl
    have typed := placed.results node id reachable operand
    exact op_mem_definitions reaches placed (reachable.link (.needs needs)) typed

theorem type_mentions {id : TypeId} {decl : TypeDecl} {opcode : Opcode} {pieces : List Piece}
    (reachable : lib.Reachable [root] (.type id)) (atId : lib.typeAt id = .ok decl)
    (declared : lib.DeclaredAs decl.shape opcode pieces) {node : NodeRef}
    (mention : node ∈ pieces.filterMap Piece.mention?) : node ∈ lib.definitions c := by
  obtain ⟨member, noLiteral⟩ := declared.mem_refs mention
  simp only [TypeShape.refs, List.mem_append, List.mem_map, Option.mem_toList] at member
  rcases member with (⟨target, known, rfl⟩ | ⟨target, known, rfl⟩) | parameter
  · exact type_mem_definitions reaches (reachable.link (.needs (.dereference atId known)))
  · exact type_mem_definitions reaches (reachable.link (.needs (.component atId known)))
  · exact operand_mem_definitions reaches placed reachable (.parameter atId parameter) noLiteral

theorem op_mentions {id : OpId} {draft : Draft} (reachable : lib.Reachable [root] (.op id)) (reads : lib.Reads id draft)
    {node : NodeRef} (mention : node ∈ draft.mentions) : node ∈ lib.definitions c := by
  obtain ⟨op, atId, ⟨type, typed, rfl | rfl⟩ | ⟨member, noLiteral⟩⟩ := reads.mention mention
  · exact type_mem_definitions reaches (reachable.link (.needs (.resultType atId typed)))
  · exact op_mem_definitions reaches placed reachable (by simp [hasResult_eq atId, typed])
  · exact operand_mem_definitions reaches placed reachable (.argument atId member) noLiteral

omit placed in
theorem named_mem_definitions {node : NodeRef} (named : node ∈ c.order ++ c.functions.map NodeRef.function) :
    node ∈ lib.definitions c := by
  rcases List.mem_append.mp named with ordered | listed
  · simp [definitions, ordered]
  · obtain ⟨id, member, rfl⟩ := List.mem_map.mp listed
    exact function_mem_definitions reaches ((reaches.functions id).mp member)

/-- Every node that an instruction of a module names is defined in it. -/
theorem part_mentions {interface : List OpId} (interfaced : ∀ id ∈ interface, id ∈ c.globals) {part : ModulePart}
    {draft : Draft} (member : part ∈ lib.outline c) (instructs : lib.Instructs interface part draft) {node : NodeRef}
    (mention : node ∈ draft.mentions) : node ∈ lib.definitions c := by
  have belongs := belongsTo_of_mem_outline member
  have own {id : FunctionId} (listed : id ∈ c.functions) : .function id ∈ lib.definitions c :=
    function_mem_definitions reaches ((reaches.functions id).mp listed)
  cases instructs with
  | capability | memoryModel | functionEnd => simp [Draft.mentions] at mention
  | @extImport id =>
    obtain rfl : node = .extImport id := by simpa [Draft.mentions] using mention
    exact import_mem_definitions reaches ((reaches.imports id).mp belongs)
  | @entryPoint id =>
    have named : node = .function id ∨ ∃ op ∈ interface, node = .op op := by
      simpa [Draft.mentions, List.filterMap_map, Function.comp_def, Piece.mention?, eq_comm] using mention
    rcases named with rfl | ⟨op, inside, rfl⟩
    · exact own belongs
    · have ordered := (reaches.order (.op op)).mpr (.inr (.inr ⟨op, interfaced op inside, rfl⟩))
      simp [definitions, ordered]
  | @executionMode id =>
    obtain rfl : node = .function id := by
      simpa [Draft.mentions, List.filterMap_map, Function.comp_def, Piece.mention?] using mention
    exact own belongs
  | @name target =>
    obtain rfl : node = target := by simpa [Draft.mentions] using mention
    exact named_mem_definitions reaches belongs
  | @decoration id =>
    obtain rfl : node = .op id := by
      simpa [Draft.mentions, List.filterMap_map, Function.comp_def, Piece.mention?] using mention
    exact named_mem_definitions reaches (List.mem_append_left _ belongs)
  | type atId declared =>
    rcases List.mem_cons.mp mention with rfl | later
    · exact named_mem_definitions reaches (List.mem_append_left _ belongs)
    · exact type_mentions reaches placed (reachable_of_mem_order reaches belongs) atId declared later
  | op reads => exact op_mentions reaches placed (reachable_of_mem_order reaches belongs) reads mention
  | @functionHead id function type result atId atType known =>
    have signature := ((reaches.functions id).mp belongs).link (.signature atId)
    have named : node = .type result ∨ node = .function id ∨ node = .type function.functionType := by
      simpa [Draft.mentions] using mention
    rcases named with rfl | rfl | rfl
    · exact type_mem_definitions reaches (signature.link (.needs (.component atType known)))
    · exact own belongs
    · exact type_mem_definitions reaches signature
  | line reads =>
    obtain ⟨function, listed, inside⟩ := List.mem_flatMap.mp belongs
    exact op_mentions reaches placed (((reaches.functions function).mp listed).of_functionOps inside) reads mention
  | @label id =>
    obtain rfl : node = .block id := by simpa [Draft.mentions] using mention
    exact block_mem_definitions belongs

end Module

end Library

end ShaderGraph
