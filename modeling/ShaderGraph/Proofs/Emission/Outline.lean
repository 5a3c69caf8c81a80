import ShaderGraph.Proofs.Collection.Termination
import ShaderGraph.Proofs.Emission.Instruction
import ShaderGraph.Proofs.Emission.Numbering

namespace ShaderGraph

open Spirv

namespace Library

/-- The instructions of a block in the order in which they are written out. -/
def blockOps (lib : Library) (id : BlockId) : List OpId :=
  match lib.blockAt id with
  | .ok block => block.locals ++ block.lines
  | .error _ => []

def bodyBlocks (lib : Library) (id : FunctionId) : List BlockId :=
  match lib.functionAt id with
  | .ok function => function.blocks
  | .error _ => []

def parameterOps (lib : Library) (id : FunctionId) : List OpId :=
  match lib.functionAt id with
  | .ok function =>
    match lib.blockAt function.parameterBlock with
    | .ok block => block.lines
    | .error _ => []
  | .error _ => []

/-- The instructions that a function consists of, apart from labels and its own. -/
def functionOps (lib : Library) (id : FunctionId) : List OpId :=
  lib.parameterOps id ++ (lib.bodyBlocks id).flatMap lib.blockOps

def entryPoint? (lib : Library) (id : FunctionId) : Option ModulePart :=
  match lib.functionAt id with
  | .ok function => function.executionModel.map (.entryPoint id function.name)
  | .error _ => none

/-- The mode that an entry point cannot do without: fragments are placed from the upper left corner, and work
groups are of size one. -/
def requiredMode? (lib : Library) (id : FunctionId) : Option ModulePart :=
  match lib.functionAt id with
  | .ok function =>
    if function.executionModel = some .fragment then some (.executionMode id [7])
    else if function.executionModel = some .glCompute then some (.executionMode id [17, 1, 1, 1])
    else none
  | .error _ => none

/-- Structs and functions have names, and some of the instructions. -/
def namePart? (lib : Library) : NodeRef → Option ModulePart
  | .type id =>
    match lib.typeAt id with
    | .ok decl => if decl.shape.kind = .struct then some (.name (.type id) decl.name) else none
    | .error _ => none
  | .op id =>
    match lib.opAt id with
    | .ok op => op.debugName.map (.name (.op id))
    | .error _ => none
  | .function id =>
    match lib.functionAt id with
    | .ok function => some (.name (.function id) function.name)
    | .error _ => none
  | _ => none

def decorationParts (lib : Library) : NodeRef → List ModulePart
  | .op id =>
    match lib.opAt id with
    | .ok op => op.decorations.map (.decoration id)
    | .error _ => []
  | _ => []

/-- A block: its label, then its local variables and its lines. -/
def blockParts (lib : Library) (id : BlockId) : List ModulePart :=
  .label id :: (lib.blockOps id).map .line

/-- A function: its parameters, then its blocks, in between the lines that set it off. -/
def functionParts (lib : Library) (id : FunctionId) : List ModulePart :=
  .functionHead id :: (lib.parameterOps id).map .line ++ (lib.bodyBlocks id).flatMap lib.blockParts ++ [.functionEnd]

/-- The parts of a module, in the order that its sections have to be in. -/
def outline (lib : Library) (c : Closure) : List ModulePart :=
  c.capabilities.map .capability ++ c.imports.map .extImport ++ [.memoryModel] ++
    c.functions.filterMap lib.entryPoint? ++ c.functions.filterMap lib.requiredMode? ++
    (c.order ++ c.functions.map NodeRef.function).filterMap lib.namePart? ++ c.order.flatMap lib.decorationParts ++
    c.order.map .declaration ++ c.functions.flatMap lib.functionParts

/-- Whether the storage class of a variable is that of inputs, which is one, or that of outputs, which is three. -/
def isInterfaceVariable (lib : Library) (id : OpId) : Bool :=
  match lib.opAt id with
  | .ok { args := .literal storageClass :: _, .. } =>
    match lib.literalAt storageClass with
    | .ok (.int value) => value = 1 ∨ value = 3
    | _ => false
  | _ => false

/-- The interface that all entry points share. -/
def interfaceOf (lib : Library) (c : Closure) : List OpId :=
  c.globals.filter lib.isInterfaceVariable

end Library

/-- A part of a module is about what was collected. -/
def ModulePart.BelongsTo (lib : Library) (c : Closure) : ModulePart → Prop
  | .capability required => required ∈ c.capabilities
  | .extImport id => id ∈ c.imports
  | .entryPoint id .. | .executionMode id _ | .functionHead id => id ∈ c.functions
  | .name node _ => node ∈ c.order ++ c.functions.map NodeRef.function
  | .decoration id _ => .op id ∈ c.order
  | .declaration node => node ∈ c.order
  | .line id => id ∈ c.functions.flatMap lib.functionOps
  | .label id => id ∈ c.functions.flatMap lib.bodyBlocks
  | .memoryModel | .functionEnd => True

namespace Library

variable {lib : Library} {c : Closure} {interface : List OpId}

theorem blockOps_eq {id : BlockId} {block : Block} (atId : lib.blockAt id = .ok block) :
    lib.blockOps id = block.locals ++ block.lines := by
  rw [blockOps, atId]

theorem bodyBlocks_eq {id : FunctionId} {function : Function} (atId : lib.functionAt id = .ok function) :
    lib.bodyBlocks id = function.blocks := by
  rw [bodyBlocks, atId]

theorem parameterOps_eq {id : FunctionId} {function : Function} {block : Block}
    (atId : lib.functionAt id = .ok function) (atBlock : lib.blockAt function.parameterBlock = .ok block) :
    lib.parameterOps id = block.lines := by
  simp only [parameterOps, atId, atBlock]

/-! The parts of an outline. -/

theorem exists_of_entryPoint? {id : FunctionId} {part : ModulePart} (made : lib.entryPoint? id = some part) :
    ∃ name model, part = .entryPoint id name model := by
  unfold entryPoint? at made
  split at made
  · obtain ⟨model, _, rfl⟩ := Option.map_eq_some_iff.mp made
    exact ⟨_, model, rfl⟩
  · cases made

theorem exists_of_requiredMode? {id : FunctionId} {part : ModulePart} (made : lib.requiredMode? id = some part) :
    ∃ mode, part = .executionMode id mode := by
  unfold requiredMode? at made
  split at made
  · split_ifs at made
    · exact ⟨_, (Option.some.inj made).symm⟩
    · exact ⟨_, (Option.some.inj made).symm⟩
  · cases made

theorem exists_of_namePart? {node : NodeRef} {part : ModulePart} (made : lib.namePart? node = some part) :
    ∃ text, part = .name node text := by
  unfold namePart? at made
  split at made
  · split at made
    · split_ifs at made
      exact ⟨_, (Option.some.inj made).symm⟩
    · cases made
  · split at made
    · obtain ⟨text, _, rfl⟩ := Option.map_eq_some_iff.mp made
      exact ⟨text, rfl⟩
    · cases made
  · split at made
    · exact ⟨_, (Option.some.inj made).symm⟩
    · cases made
  · cases made

theorem exists_of_decorationParts {node : NodeRef} {part : ModulePart} (member : part ∈ lib.decorationParts node) :
    ∃ id decoration, node = .op id ∧ part = .decoration id decoration := by
  unfold decorationParts at member
  split at member
  · next id =>
    split at member
    · obtain ⟨decoration, _, rfl⟩ := List.mem_map.mp member
      exact ⟨id, decoration, rfl, rfl⟩
    · cases member
  · cases member

theorem functionParts_cases {id : FunctionId} {part : ModulePart} (member : part ∈ lib.functionParts id) :
    part = .functionHead id ∨ (∃ op ∈ lib.functionOps id, part = .line op) ∨
      (∃ block ∈ lib.bodyBlocks id, part = .label block) ∨ part = .functionEnd := by
  simp only [functionParts, blockParts, List.cons_append, List.mem_cons, List.mem_append, List.mem_map,
    List.mem_flatMap, List.not_mem_nil, or_false] at member
  rcases member with head | (⟨op, inside, rfl⟩ | ⟨block, body, rfl | ⟨op, inside, rfl⟩⟩) | last
  · exact .inl head
  · exact .inr (.inl ⟨op, List.mem_append_left _ inside, rfl⟩)
  · exact .inr (.inr (.inl ⟨block, body, rfl⟩))
  · exact .inr (.inl ⟨op, List.mem_append_right _ (List.mem_flatMap.mpr ⟨block, body, inside⟩), rfl⟩)
  · exact .inr (.inr (.inr last))

theorem belongsTo_of_functionParts {id : FunctionId} {part : ModulePart} (listed : id ∈ c.functions)
    (member : part ∈ lib.functionParts id) : part.BelongsTo lib c := by
  rcases functionParts_cases member with rfl | ⟨op, inside, rfl⟩ | ⟨block, body, rfl⟩ | rfl
  · exact listed
  · exact List.mem_flatMap.mpr ⟨id, listed, inside⟩
  · exact List.mem_flatMap.mpr ⟨id, listed, body⟩
  · trivial

theorem belongsTo_of_mem_outline {part : ModulePart} (member : part ∈ lib.outline c) : part.BelongsTo lib c := by
  simp only [outline, List.mem_append, List.mem_map, List.mem_filterMap, List.mem_flatMap, List.mem_singleton] at member
  rcases member with (((((((⟨_, required, rfl⟩ | ⟨id, listed, rfl⟩) | rfl) | ⟨id, listed, made⟩) | ⟨id, listed, made⟩) |
    ⟨node, named, made⟩) | ⟨node, ordered, made⟩) | ⟨node, ordered, rfl⟩) | ⟨id, listed, body⟩
  · exact required
  · exact listed
  · trivial
  · obtain ⟨name, model, rfl⟩ := exists_of_entryPoint? made
    exact listed
  · obtain ⟨mode, rfl⟩ := exists_of_requiredMode? made
    exact listed
  · obtain ⟨text, rfl⟩ := exists_of_namePart? made
    simpa [ModulePart.BelongsTo] using named
  · obtain ⟨id, decoration, rfl, rfl⟩ := exists_of_decorationParts made
    exact ordered
  · exact ordered
  · exact belongsTo_of_functionParts listed body

/-! Writing a module is writing its parts. -/

theorem entryPointDraft_eq_write {id : FunctionId} {function : Function} (atId : lib.functionAt id = .ok function) :
    lib.entryPointDraft interface id = (lib.entryPoint? id).mapM (lib.write interface) := by
  rw [entryPointDraft, Outcome.lift_bind_of_ok atId, entryPoint?, atId]
  cases stage : function.executionModel with
  | none => simp [stage]
  | some model => simp [stage, write]

theorem executionModeDraft_eq_write {id : FunctionId} {function : Function}
    (atId : lib.functionAt id = .ok function) :
    lib.executionModeDraft id = (lib.requiredMode? id).mapM (lib.write interface) := by
  rw [executionModeDraft, Outcome.lift_bind_of_ok atId, requiredMode?, atId]
  have apart : ExecutionModel.glCompute ≠ .fragment := by decide
  cases stage : function.executionModel with
  | none => simp [stage]
  | some model =>
    by_cases fragment : model = .fragment
    · simp [stage, fragment, executionMode?, write]
    · by_cases compute : model = .glCompute
      · simp [stage, compute, apart, executionMode?, write]
      · simp [stage, fragment, compute, executionMode?]

theorem nameDraft_eq_write {node : NodeRef} (held : lib.Holds node) :
    lib.nameDraft node = (lib.namePart? node).mapM (lib.write interface) := by
  cases node with
  | type id =>
    obtain ⟨decl, atId⟩ : ∃ decl, lib.typeAt id = .ok decl := exists_follow_iff.mpr held
    have known : lib.debugName? (.type id) = .ok (if decl.shape.kind = .struct then some decl.name else none) := by
      rw [debugName?, atId]
      rfl
    rw [nameDraft, Outcome.lift_bind_of_ok known, namePart?, atId]
    by_cases isStruct : decl.shape.kind = .struct
    · simp [isStruct, write]
    · simp [isStruct]
  | op id =>
    obtain ⟨op, atId⟩ : ∃ op, lib.opAt id = .ok op := exists_follow_iff.mpr held
    have known : lib.debugName? (.op id) = .ok op.debugName := by
      rw [debugName?, atId]
      rfl
    rw [nameDraft, Outcome.lift_bind_of_ok known, namePart?, atId]
    cases named : op.debugName with
    | none => simp [named]
    | some text => simp [named, write]
  | function id =>
    obtain ⟨function, atId⟩ : ∃ function, lib.functionAt id = .ok function := exists_follow_iff.mpr held
    have known : lib.debugName? (.function id) = .ok (some function.name) := by
      rw [debugName?, atId]
      rfl
    rw [nameDraft, Outcome.lift_bind_of_ok known, namePart?, atId]
    simp [write]
  | _ => rfl

theorem decorationDrafts_eq_write {node : NodeRef} (atNode : ∀ id, node = .op id → ∃ op, lib.opAt id = .ok op) :
    lib.decorationDrafts node = (lib.decorationParts node).mapM (lib.write interface) := by
  cases node with
  | op id =>
    obtain ⟨op, atId⟩ := atNode id rfl
    rw [decorationDrafts, Outcome.lift_bind_of_ok atId, decorationParts, atId]
    simp [List.mapM_map, Function.comp_def, write]
  | _ => rfl

theorem declarationDrafts_eq_write {node : NodeRef} (declared : (∃ id, node = .type id) ∨ ∃ id, node = .op id) :
    lib.declarationDrafts node = [ModulePart.declaration node].mapM (lib.write interface) := by
  rcases declared with ⟨id, rfl⟩ | ⟨id, rfl⟩
  · simp [declarationDrafts, write]
  · simp [declarationDrafts, write]

theorem mapM_opDraft (ids : List OpId) :
    ids.mapM lib.opDraft = (ids.map ModulePart.line).mapM (lib.write interface) := by
  rw [List.mapM_map]
  rfl

theorem blockDrafts_eq_write {id : BlockId} {block : Block} (atId : lib.blockAt id = .ok block) :
    lib.blockDrafts id = (lib.blockParts id).mapM (lib.write interface) := by
  rw [blockDrafts, Outcome.lift_bind_of_ok atId, blockParts, blockOps_eq atId, List.mapM_cons, ← mapM_opDraft]
  rfl

theorem functionDrafts_eq_write {id : FunctionId} {function : Function} {block : Block}
    (atId : lib.functionAt id = .ok function) (atBlock : lib.blockAt function.parameterBlock = .ok block)
    (atBody : ∀ id ∈ function.blocks, ∃ block, lib.blockAt id = .ok block) :
    lib.functionDrafts id = (lib.functionParts id).mapM (lib.write interface) := by
  have bodies : List.flatten <$> function.blocks.mapM lib.blockDrafts =
      (function.blocks.flatMap lib.blockParts).mapM (lib.write interface) := by
    refine Outcome.flatten_mapM fun id member => ?_
    obtain ⟨block, atId⟩ := atBody id member
    exact blockDrafts_eq_write atId
  have head : lib.write interface (.functionHead id) = (do
      let type ← lib.typeAt function.functionType
      let result ← type.need type.shape.component "return type"
      Draft.checked ⟨.opFunction, [result, .node (.function id), .word 0, .node (.type function.functionType)]⟩) := by
    rw [write, Outcome.lift_bind_of_ok atId]
  have last : lib.write interface .functionEnd = pure ⟨.opFunctionEnd, []⟩ := rfl
  rw [functionDrafts, Outcome.lift_bind_of_ok atId, functionParts, parameterOps_eq atId atBlock, bodyBlocks_eq atId,
    List.cons_append, List.cons_append, List.mapM_cons, List.mapM_append, List.mapM_append, head, ← bodies,
    ← mapM_opDraft]
  simp only [bind_assoc, pure_bind, Outcome.lift_bind_of_ok atBlock, bind_map_left, List.mapM_cons, List.mapM_nil, last]
  rfl

section Reach

variable {root : NodeRef}

theorem Reachable.of_bodyBlocks {function : FunctionId} {block : BlockId}
    (reachable : lib.Reachable [root] (.function function)) (listed : block ∈ lib.bodyBlocks function) :
    lib.Reachable [root] (.block block) := by
  unfold bodyBlocks at listed
  split at listed
  · next atId => exact reachable.link (.body atId listed)
  · cases listed

theorem Reachable.of_blockOps {block : BlockId} {id : OpId} (reachable : lib.Reachable [root] (.block block))
    (listed : id ∈ lib.blockOps block) : lib.Reachable [root] (.op id) := by
  unfold blockOps at listed
  split at listed
  · next atId =>
    rcases List.mem_append.mp listed with localVariable | line
    · exact reachable.link (.localVariable atId localVariable)
    · exact reachable.link (.line atId line)
  · cases listed

theorem Reachable.of_functionOps {function : FunctionId} {id : OpId}
    (reachable : lib.Reachable [root] (.function function)) (listed : id ∈ lib.functionOps function) :
    lib.Reachable [root] (.op id) := by
  rcases List.mem_append.mp listed with parameter | body
  · unfold parameterOps at parameter
    split at parameter
    · next atId =>
      split at parameter
      · next atBlock => exact (reachable.link (.parameterBlock atId)).link (.line atBlock parameter)
      · cases parameter
    · cases parameter
  · obtain ⟨block, inside, line⟩ := List.mem_flatMap.mp body
    exact (reachable.of_bodyBlocks inside).of_blockOps line

theorem reachable_of_mem_order (reaches : c.IsReachablePart lib [root]) {node : NodeRef} (ordered : node ∈ c.order) :
    lib.Reachable [root] node := by
  rcases (reaches.order node).mp ordered with ⟨id, member, rfl⟩ | ⟨id, member, rfl⟩ | ⟨id, member, rfl⟩
  · exact (reaches.types id).mp member
  · exact ((reaches.constants id).mp member).1
  · exact ((reaches.globals id).mp member).1

end Reach

theorem isInterface_iff_code {storageClass : StorageClass} : storageClass.isInterface = true ↔
    storageClass.code = StorageClass.input.code ∨ storageClass.code = StorageClass.output.code := by
  have byCode (other : StorageClass) : storageClass = other ↔ storageClass.code = other.code := by
    cases storageClass
    cases other
    simp
  simp [StorageClass.isInterface, byCode]

theorem isInterfaceVariable_eq {id : OpId} {op : Op} {storageClass : StorageClass} (atId : lib.opAt id = .ok op)
    (stored : lib.storageClassOf op = .ok (some storageClass)) :
    lib.isInterfaceVariable id = storageClass.isInterface := by
  obtain ⟨_, literal, rest, value, args, atLiteral, known⟩ := storageClassOf_eq_some_iff.mp stored
  obtain ⟨_, _, _, _, _⟩ := op
  subst args
  rw [Bool.eq_iff_iff, isInterface_iff_code, Enumerant.code_of_ofCode? known, isInterfaceVariable, atId]
  simp [atLiteral, StorageClass.input, StorageClass.output]

section Interface

variable {root : NodeRef} (reaches : c.IsReachablePart lib [root])

include reaches

theorem exists_storageClass {id : OpId} (listed : id ∈ c.globals) :
    ∃ op storageClass, lib.opAt id = .ok op ∧ lib.storageClassOf op = .ok (some storageClass) := by
  obtain ⟨_, op, atId, opcode, literal, rest, value, storageClass, args, atLiteral, known, _⟩ :=
    (reaches.globals id).mp listed
  exact ⟨op, storageClass, atId,
    storageClassOf_eq_some_iff.mpr ⟨opcode, literal, rest, value, args, atLiteral, known⟩⟩

theorem interface_eq_interfaceOf : lib.interface c.globals = .ok (lib.interfaceOf c) := by
  refine Outcome.filterM_eq_filter fun id listed => ?_
  obtain ⟨op, storageClass, atId, stored⟩ := exists_storageClass reaches listed
  simp [isInterfaceVariable_eq atId stored, atId, stored, bind, Except.bind, pure, Except.pure]

end Interface

section Collected

variable {root : NodeRef} (found : lib.dependencies root = .ok c)

include found

theorem isReachablePart_of_dependencies : c.IsReachablePart lib [root] := by
  obtain ⟨past, w, finished, rfl⟩ := Collecting.of_dependencies found
  exact finished.isReachablePart

/-- Where collecting ends, all that is reachable is there, but for literals and imports. -/
theorem holds_of_dependencies {node : NodeRef} (reachable : lib.Reachable [root] node)
    (noLeaf : node.isLeaf = false) : lib.Holds node :=
  by_contra fun absent => (not_dangles_of_dependencies found).2 node node reachable (.node noLeaf absent)

theorem order_cases {node : NodeRef} (member : node ∈ c.order) :
    lib.Holds node ∧ ((∃ id, node = .type id) ∨ ∃ id, node = .op id) := by
  have reaches := isReachablePart_of_dependencies found
  have held := holds_of_dependencies found (reachable_of_mem_order reaches member)
  rcases (reaches.order node).mp member with ⟨id, _, rfl⟩ | ⟨id, _, rfl⟩ | ⟨id, _, rfl⟩
  · exact ⟨held rfl, .inl ⟨id, rfl⟩⟩
  · exact ⟨held rfl, .inr ⟨id, rfl⟩⟩
  · exact ⟨held rfl, .inr ⟨id, rfl⟩⟩

/-- The sections of a module are the parts of its outline, written one after another. -/
theorem moduleDrafts_eq_write : lib.moduleDrafts c interface = (lib.outline c).mapM (lib.write interface) := by
  have reaches := isReachablePart_of_dependencies found
  have functionAt {id : FunctionId} (listed : id ∈ c.functions) : ∃ function, lib.functionAt id = .ok function :=
    exists_follow_iff.mpr (holds_of_dependencies found ((reaches.functions id).mp listed) rfl)
  have required : (c.capabilities.mapM fun capability => Draft.checked ⟨.opCapability, [.word capability.code]⟩) =
      (c.capabilities.map ModulePart.capability).mapM (lib.write interface) := by
    rw [List.mapM_map]
    rfl
  have imported : c.imports.mapM lib.importDraft = (c.imports.map ModulePart.extImport).mapM (lib.write interface) := by
    rw [List.mapM_map]
    rfl
  have entered : c.functions.filterMapM (lib.entryPointDraft interface) =
      (c.functions.filterMap lib.entryPoint?).mapM (lib.write interface) := by
    refine Outcome.filterMapM_eq_mapM fun id listed => ?_
    obtain ⟨function, atId⟩ := functionAt listed
    exact entryPointDraft_eq_write atId
  have executed : c.functions.filterMapM lib.executionModeDraft =
      (c.functions.filterMap lib.requiredMode?).mapM (lib.write interface) := by
    refine Outcome.filterMapM_eq_mapM fun id listed => ?_
    obtain ⟨function, atId⟩ := functionAt listed
    exact executionModeDraft_eq_write atId
  have named : (c.order ++ c.functions.map NodeRef.function).filterMapM lib.nameDraft =
      ((c.order ++ c.functions.map NodeRef.function).filterMap lib.namePart?).mapM (lib.write interface) := by
    refine Outcome.filterMapM_eq_mapM fun node member => ?_
    have held : lib.Holds node := by
      rcases List.mem_append.mp member with ordered | listed
      · exact (order_cases found ordered).1
      · obtain ⟨id, inside, rfl⟩ := List.mem_map.mp listed
        exact holds_of_dependencies found ((reaches.functions id).mp inside) rfl
    exact nameDraft_eq_write held
  have decorated : List.flatten <$> c.order.mapM lib.decorationDrafts =
      (c.order.flatMap lib.decorationParts).mapM (lib.write interface) := by
    refine Outcome.flatten_mapM fun node member => decorationDrafts_eq_write ?_
    rintro id rfl
    exact exists_follow_iff.mpr (order_cases found member).1
  have declared : List.flatten <$> c.order.mapM lib.declarationDrafts =
      (c.order.map ModulePart.declaration).mapM (lib.write interface) := by
    rw [List.map_eq_flatMap]
    exact Outcome.flatten_mapM fun node member => declarationDrafts_eq_write (order_cases found member).2
  have bodies : List.flatten <$> c.functions.mapM lib.functionDrafts =
      (c.functions.flatMap lib.functionParts).mapM (lib.write interface) := by
    refine Outcome.flatten_mapM fun id listed => ?_
    have reachable := (reaches.functions id).mp listed
    obtain ⟨function, atId⟩ := functionAt listed
    obtain ⟨block, atBlock⟩ : ∃ block, lib.blockAt function.parameterBlock = .ok block :=
      exists_follow_iff.mpr (holds_of_dependencies found (reachable.link (.parameterBlock atId)) rfl)
    refine functionDrafts_eq_write atId atBlock fun block inside => ?_
    exact exists_follow_iff.mpr (holds_of_dependencies found (reachable.link (.body atId inside)) rfl)
  -- What decides which parts there are was looked up above, so the parts are all that is left to fail.
  have memory : [ModulePart.memoryModel].mapM (lib.write interface) =
      pure [⟨.opMemoryModel, [.word 0, .word 1]⟩] := rfl
  simp only [moduleDrafts, outline, List.mapM_append, ← required, ← imported, ← entered, ← executed, ← named,
    ← decorated, ← declared, ← bodies, memory, bind_assoc, pure_bind, bind_map_left]
  rfl

end Collected

theorem emitType_eq_write {entry : TypeId} (found : lib.dependencies (.type entry) = .ok c) :
    lib.emitType entry = (do
      let drafts ← (lib.outline c).mapM (lib.write (lib.interfaceOf c))
      let numbering ← (numbering c (lib.interfaceOf c) drafts).checked
      return ⟨emitWords numbering drafts, ← lib.reflect c (.ofNat numbering.bound)⟩) := by
  rw [emitType, Outcome.lift_bind_of_ok found, emit,
    Outcome.lift_bind_of_ok (interface_eq_interfaceOf (isReachablePart_of_dependencies found)),
    moduleDrafts_eq_write found]

/-- How a module comes about, part by part. -/
theorem exists_written {entry : TypeId} {binary : Binary} (emitted : lib.emitType entry = .ok binary) :
    ∃ c drafts, lib.dependencies (.type entry) = .ok c ∧
      (lib.outline c).mapM (lib.write (lib.interfaceOf c)) = .ok drafts ∧
      (numbering c (lib.interfaceOf c) drafts).bound < UInt32.size ∧
      binary.words = emitWords (numbering c (lib.interfaceOf c) drafts) drafts ∧
      lib.reflect c (.ofNat (numbering c (lib.interfaceOf c) drafts).bound) = .ok binary.reflection := by
  obtain ⟨c, collected, _⟩ := Outcome.bind_eq_ok_iff.mp emitted
  have found := Outcome.lift_eq_ok_iff.mp collected
  rw [emitType_eq_write found] at emitted
  obtain ⟨drafts, written, emitted⟩ := Outcome.bind_eq_ok_iff.mp emitted
  obtain ⟨numbering, checked, emitted⟩ := Outcome.bind_eq_ok_iff.mp emitted
  obtain ⟨reflection, reflected, made⟩ := Outcome.bind_eq_ok_iff.mp emitted
  obtain ⟨fits, rfl⟩ := Numbering.checked_eq_ok_iff.mp (Outcome.lift_eq_ok_iff.mp checked)
  cases Outcome.pure_eq_ok_iff.mp made
  exact ⟨c, drafts, found, written, fits, rfl, Outcome.lift_eq_ok_iff.mp reflected⟩

end Library

end ShaderGraph
