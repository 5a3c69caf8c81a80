import ShaderGraph.Proofs.Construction.Soundness
import ShaderGraph.Proofs.Emission.Placement

namespace ShaderGraph

open Spirv

/-- The nodes a declaration refers to. -/
def TypeDecl.refs (decl : TypeDecl) : List NodeRef :=
  decl.shape.refs ++ decl.pointer.toList.map .type ++ decl.functions.map .function

namespace Library

/-- Another library holds the same wherever the walk over the first one comes from a root: the same nodes,
the same literals as operands of these nodes, and the same initializers of the variables among them. All
else may differ. -/
structure AgreeFrom (lib other : Library) (root : NodeRef) : Prop where
  types : ∀ id, lib.Reachable [root] (.type id) → other.typeAt id = lib.typeAt id
  functions : ∀ id, lib.Reachable [root] (.function id) → other.functionAt id = lib.functionAt id
  blocks : ∀ id, lib.Reachable [root] (.block id) → other.blockAt id = lib.blockAt id
  ops : ∀ id, lib.Reachable [root] (.op id) → other.opAt id = lib.opAt id
  imports : ∀ id, lib.Reachable [root] (.extImport id) → other.importAt id = lib.importAt id
  literals : ∀ node id, lib.Reachable [root] node → lib.HasOperand node (.literal id) →
    other.literalAt id = lib.literalAt id
  initializers : ∀ id op, lib.Reachable [root] (.op id) → lib.opAt id = .ok op → lib.DeclaresGlobal op →
    other.initializer? id = lib.initializer? id

variable {lib other : Library} {root : NodeRef}

namespace AgreeFrom

section Walk

variable (agree : lib.AgreeFrom other root)

include agree

theorem storageClassOf_eq {id : OpId} {op : Op} (reachable : lib.Reachable [root] (.op id))
    (atId : lib.opAt id = .ok op) : other.storageClassOf op = lib.storageClassOf op := by
  unfold storageClassOf
  split
  · split
    · next literal rest args =>
      have operand : lib.HasOperand (.op id) (.literal literal) := .argument atId (by simp [args])
      rw [agree.literals _ literal reachable operand]
    · rfl
  · rfl

theorem opTasks_eq {id : OpId} {op : Op} (reachable : lib.Reachable [root] (.op id))
    (atId : lib.opAt id = .ok op) : other.opTasks id op = lib.opTasks id op := by
  have same : other.isGlobal op = lib.isGlobal op := by
    rw [isGlobal, isGlobal, agree.storageClassOf_eq reachable atId]
  unfold opTasks
  rw [same]
  refine Outcome.bind_congr_ok fun answer known => ?_
  cases answer with
  | false => rfl
  | true => simp only [agree.initializers id op reachable atId (isGlobal_eq_true_iff.mp known)]

/-- Visiting a reachable node comes to the same. -/
theorem tasks_eq {node : NodeRef} (reachable : lib.Reachable [root] node) : other.tasks node = lib.tasks node := by
  cases node with
  | type id => rw [tasks, tasks, agree.types id reachable]
  | function id => rw [tasks, tasks, agree.functions id reachable]
  | block id => rw [tasks, tasks, agree.blocks id reachable]
  | op id =>
    rw [tasks, tasks, agree.ops id reachable]
    exact Outcome.bind_congr_ok fun op atId => agree.opTasks_eq reachable atId
  | literal id => rfl
  | extImport id => rfl

/-- The walk is the same, step by step, since it never leaves the reachable nodes. -/
theorem run_eq {w : Walk} {tasks : List Task} (inside : ∀ node, .visit node ∈ tasks → lib.Reachable [root] node) :
    Walk.run other w tasks = Walk.run lib w tasks := by
  fun_induction Walk.run lib w tasks with
  | case1 w => rw [Walk.run]
  | case2 w node rest entered ih =>
    rw [Walk.run, dif_pos entered]
    exact ih fun target member => inside target (List.mem_cons_of_mem _ member)
  | case3 w node rest fresh cause found =>
    have same := (agree.tasks_eq (inside node (List.mem_cons_self ..))).trans found
    rw [Walk.run, dif_neg fresh]
    split
    · next other =>
      cases other.symm.trans same
      rfl
    · next other => cases other.symm.trans same
  | case4 w node rest fresh steps found ih =>
    have reachable := inside node (List.mem_cons_self ..)
    have same := (agree.tasks_eq reachable).trans found
    rw [Walk.run, dif_neg fresh]
    split
    · next other => cases other.symm.trans same
    · next other =>
      cases other.symm.trans same
      refine ih fun target member => ?_
      rcases List.mem_append.mp member with linked | later
      · exact reachable.link ((visit_mem_tasks_iff found).mp linked)
      · exact inside target (List.mem_cons_of_mem _ later)
  | case5 w task rest other ih =>
    rw [Walk.run]
    · exact ih fun target member => inside target (List.mem_cons_of_mem _ member)
    · exact other

end Walk

theorem dependencies_eq {entry : TypeId} (agree : lib.AgreeFrom other (.type entry)) :
    other.dependencies (.type entry) = lib.dependencies (.type entry) := by
  have root : lib.Reachable [.type entry] (.type entry) := .root (List.mem_singleton_self _)
  have walk : Walk.run other {} [.visit (.type entry)] = Walk.run lib {} [.visit (.type entry)] :=
    agree.run_eq (by simpa using root)
  simp only [dependencies, Walk.collect, displayName, agree.types entry root, walk]

section Emission

variable (agree : lib.AgreeFrom other root)

include agree

theorem pieceOf_eq {node target : NodeRef} (reachable : lib.Reachable [root] node)
    (operand : lib.HasOperand node target) : other.pieceOf target = lib.pieceOf target := by
  cases target with
  | literal id => rw [pieceOf, pieceOf, agree.literals node id reachable operand]
  | _ => rfl

theorem typeDraft_eq {id : TypeId} (reachable : lib.Reachable [root] (.type id)) :
    other.typeDraft id = lib.typeDraft id := by
  unfold typeDraft
  rw [agree.types id reachable]
  refine Outcome.bind_congr_ok fun decl atId => ?_
  have atId := Outcome.lift_eq_ok_iff.mp atId
  have piece : ∀ target ∈ decl.shape.parameters, other.pieceOf target = lib.pieceOf target :=
    fun target member => agree.pieceOf_eq reachable (.parameter atId member)
  have pieces : other.piecesOf decl.shape.parameters = lib.piecesOf decl.shape.parameters :=
    Outcome.mapM_congr piece
  have operands : other.typeOperands decl = lib.typeOperands decl := by
    unfold typeOperands
    cases decl.shape.kind with
    | array =>
      cases parameters : decl.shape.parameters with
      | nil => rfl
      | cons length rest => simp only [piece length (by simp [parameters])]
    | struct => simp only [pieces]
    | function => simp only [pieces]
    | _ => rfl
  rw [operands]

theorem opDraft_eq {id : OpId} (reachable : lib.Reachable [root] (.op id)) :
    other.opDraft id = lib.opDraft id := by
  unfold opDraft
  rw [agree.ops id reachable]
  refine Outcome.bind_congr_ok fun op atId => ?_
  have atId := Outcome.lift_eq_ok_iff.mp atId
  have pieces : other.piecesOf op.args = lib.piecesOf op.args :=
    Outcome.mapM_congr fun target member => agree.pieceOf_eq reachable (.argument atId member)
  rw [pieces]

theorem blockDrafts_eq {id : BlockId} (reachable : lib.Reachable [root] (.block id)) :
    other.blockDrafts id = lib.blockDrafts id := by
  unfold blockDrafts
  rw [agree.blocks id reachable]
  refine Outcome.bind_congr_ok fun block atId => ?_
  have atId := Outcome.lift_eq_ok_iff.mp atId
  have ops : (block.locals ++ block.lines).mapM other.opDraft = (block.locals ++ block.lines).mapM lib.opDraft := by
    refine Outcome.mapM_congr fun op member => ?_
    rcases List.mem_append.mp member with localVariable | line
    · exact agree.opDraft_eq (reachable.link (.localVariable atId localVariable))
    · exact agree.opDraft_eq (reachable.link (.line atId line))
  rw [ops]

theorem functionDrafts_eq {id : FunctionId} (reachable : lib.Reachable [root] (.function id)) :
    other.functionDrafts id = lib.functionDrafts id := by
  unfold functionDrafts
  rw [agree.functions id reachable]
  refine Outcome.bind_congr_ok fun function atId => ?_
  have atId := Outcome.lift_eq_ok_iff.mp atId
  have parameterBlock := reachable.link (.parameterBlock atId)
  have blocks : function.blocks.mapM other.blockDrafts = function.blocks.mapM lib.blockDrafts :=
    Outcome.mapM_congr fun block member => agree.blockDrafts_eq (reachable.link (.body atId member))
  rw [agree.types _ (reachable.link (.signature atId)), agree.blocks _ parameterBlock, blocks]
  refine bind_congr fun type => bind_congr fun result => bind_congr fun head => ?_
  refine Outcome.bind_congr_ok fun block atBlock => ?_
  have atBlock := Outcome.lift_eq_ok_iff.mp atBlock
  have parameters : block.lines.mapM other.opDraft = block.lines.mapM lib.opDraft :=
    Outcome.mapM_congr fun op member => agree.opDraft_eq (parameterBlock.link (.line atBlock member))
  rw [parameters]

theorem nameDraft_eq {node : NodeRef} (reachable : lib.Reachable [root] node) :
    other.nameDraft node = lib.nameDraft node := by
  have same : other.debugName? node = lib.debugName? node := by
    cases node with
    | type id => rw [debugName?, debugName?, agree.types id reachable]
    | op id => rw [debugName?, debugName?, agree.ops id reachable]
    | function id => rw [debugName?, debugName?, agree.functions id reachable]
    | _ => rfl
  rw [nameDraft, nameDraft, same]

theorem decorationDrafts_eq {node : NodeRef} (reachable : lib.Reachable [root] node) :
    other.decorationDrafts node = lib.decorationDrafts node := by
  cases node with
  | op id => rw [decorationDrafts, decorationDrafts, agree.ops id reachable]
  | _ => rfl

theorem declarationDrafts_eq {node : NodeRef} (reachable : lib.Reachable [root] node) :
    other.declarationDrafts node = lib.declarationDrafts node := by
  cases node with
  | type id => rw [declarationDrafts, declarationDrafts, agree.typeDraft_eq reachable]
  | op id => rw [declarationDrafts, declarationDrafts, agree.opDraft_eq reachable]
  | _ => rfl

theorem reflectGlobal_eq {id : OpId} (reachable : lib.Reachable [root] (.op id)) :
    other.reflectGlobal id = lib.reflectGlobal id := by
  have name : other.displayName (.op id) = lib.displayName (.op id) := by
    rw [displayName, displayName, agree.ops id reachable]
  unfold reflectGlobal
  rw [agree.ops id reachable, name]
  refine Outcome.bind_congr_ok fun op atId => ?_
  rw [agree.storageClassOf_eq reachable atId]
  refine bind_congr fun storageClass => bind_congr fun name => ?_
  cases typed : op.resultType with
  | none => rfl
  | some pointer =>
    have pointerType := reachable.link (.needs (.resultType atId typed))
    have pointee : other.pointeeName pointer = lib.pointeeName pointer := by
      unfold pointeeName
      rw [agree.types pointer pointerType]
      refine Outcome.bind_congr_ok fun decl atPointer => ?_
      cases known : decl.shape.dereference with
      | none => rfl
      | some target => simp only [agree.types target (pointerType.link (.needs (.dereference atPointer known)))]
    simp only [pointee]

variable {c : Closure} (reaches : c.IsReachablePart lib [root])

include reaches

theorem interface_eq : other.interface c.globals = lib.interface c.globals := by
  refine Outcome.filterM_congr fun id member => ?_
  have reachable := ((reaches.globals id).mp member).1
  rw [agree.ops id reachable]
  refine Outcome.bind_congr_ok fun op atId => ?_
  rw [agree.storageClassOf_eq reachable atId]

theorem moduleDrafts_eq (interface : List OpId) :
    other.moduleDrafts c interface = lib.moduleDrafts c interface := by
  have ordered {node : NodeRef} (member : node ∈ c.order) := reachable_of_mem_order reaches member
  have listed {id : FunctionId} (member : id ∈ c.functions) := (reaches.functions id).mp member
  have imports : c.imports.mapM other.importDraft = c.imports.mapM lib.importDraft :=
    Outcome.mapM_congr fun id member => by
      rw [importDraft, importDraft, agree.imports id ((reaches.imports id).mp member)]
  have entryPoints : c.functions.filterMapM (other.entryPointDraft interface) =
      c.functions.filterMapM (lib.entryPointDraft interface) :=
    Outcome.filterMapM_congr fun id member => by
      rw [entryPointDraft, entryPointDraft, agree.functions id (listed member)]
  have modes : c.functions.filterMapM other.executionModeDraft = c.functions.filterMapM lib.executionModeDraft :=
    Outcome.filterMapM_congr fun id member => by
      rw [executionModeDraft, executionModeDraft, agree.functions id (listed member)]
  have names : (c.order ++ c.functions.map NodeRef.function).filterMapM other.nameDraft =
      (c.order ++ c.functions.map NodeRef.function).filterMapM lib.nameDraft := by
    refine Outcome.filterMapM_congr fun node member => ?_
    rcases List.mem_append.mp member with declared | function
    · exact agree.nameDraft_eq (ordered declared)
    · obtain ⟨id, inside, rfl⟩ := List.mem_map.mp function
      exact agree.nameDraft_eq (listed inside)
  have decorations : c.order.mapM other.decorationDrafts = c.order.mapM lib.decorationDrafts :=
    Outcome.mapM_congr fun node member => agree.decorationDrafts_eq (ordered member)
  have declarations : c.order.mapM other.declarationDrafts = c.order.mapM lib.declarationDrafts :=
    Outcome.mapM_congr fun node member => agree.declarationDrafts_eq (ordered member)
  have functions : c.functions.mapM other.functionDrafts = c.functions.mapM lib.functionDrafts :=
    Outcome.mapM_congr fun id member => agree.functionDrafts_eq (listed member)
  simp only [moduleDrafts, imports, entryPoints, modes, names, decorations, declarations, functions]

theorem reflect_eq (bound : UInt32) : other.reflect c bound = lib.reflect c bound := by
  have listed {id : FunctionId} (member : id ∈ c.functions) := (reaches.functions id).mp member
  have imports : (c.imports.mapM fun id => return (← other.importAt id).name) =
      c.imports.mapM fun id => return (← lib.importAt id).name :=
    Outcome.mapM_congr fun id member => by rw [agree.imports id ((reaches.imports id).mp member)]
  have initializers : (c.initializers.mapM fun id => return (← other.functionAt id).name) =
      c.initializers.mapM fun id => return (← lib.functionAt id).name := by
    refine Outcome.mapM_congr fun id member => ?_
    obtain ⟨op, content, reachable, atOp, declares, recorded⟩ := (reaches.initializers id).mp member
    rw [agree.functions id (reachable.link (.initializer atOp declares recorded))]
  have entryPoints : c.functions.filterMapM other.reflectEntryPoint = c.functions.filterMapM lib.reflectEntryPoint :=
    Outcome.filterMapM_congr fun id member => by
      rw [reflectEntryPoint, reflectEntryPoint, agree.functions id (listed member)]
  have globals : c.globals.mapM other.reflectGlobal = c.globals.mapM lib.reflectGlobal :=
    Outcome.mapM_congr fun id member => agree.reflectGlobal_eq ((reaches.globals id).mp member).1
  simp only [reflect, imports, initializers, entryPoints, globals]

theorem emit_eq : other.emit c = lib.emit c := by
  simp only [emit, agree.interface_eq reaches, agree.moduleDrafts_eq reaches, agree.reflect_eq reaches]

end Emission

end AgreeFrom

/-- What is emitted for an entry type depends on nothing but what the entry type reaches: libraries that
agree there give the same words and the same reflection, or fail in the same way. -/
theorem emitType_eq_of_agreeFrom {entry : TypeId} (agree : lib.AgreeFrom other (.type entry)) :
    other.emitType entry = lib.emitType entry := by
  unfold emitType
  rw [agree.dependencies_eq]
  refine Outcome.bind_congr_ok fun c collected => ?_
  obtain ⟨past, w, collecting, rfl⟩ := Collecting.of_dependencies (Outcome.lift_eq_ok_iff.mp collected)
  exact agree.emit_eq collecting.isReachablePart

/-! Adding to a library changes nothing for what was there. -/

instance (lib : Library) (node : NodeRef) : Decidable (lib.Holds node) :=
  match node with
  | .type id => inferInstanceAs (Decidable (id.index < lib.types.size))
  | .function id => inferInstanceAs (Decidable (id.index < lib.functions.size))
  | .block id => inferInstanceAs (Decidable (id.index < lib.blocks.size))
  | .op id => inferInstanceAs (Decidable (id.index < lib.ops.size))
  | .literal id => inferInstanceAs (Decidable (id.index < lib.literals.size))
  | .extImport id => inferInstanceAs (Decidable (id.index < lib.imports.size))

/-- Every reference in a library leads to a node of it. -/
structure Whole (lib : Library) : Prop where
  types : ∀ decl ∈ lib.types, ∀ ref ∈ decl.refs, lib.Holds ref
  functions : ∀ function ∈ lib.functions, ∀ ref ∈ function.refs, lib.Holds ref
  blocks : ∀ block ∈ lib.blocks, ∀ ref ∈ block.refs, lib.Holds ref
  ops : ∀ op ∈ lib.ops, ∀ ref ∈ op.refs, lib.Holds ref
  initializers : ∀ id function, lib.initializer? id = some function → lib.Holds (.function function)

/-- A library starts with the nodes of another one and keeps the initializers of its variables. -/
structure Extends (lib other : Library) : Prop where
  types : lib.types.toList <+: other.types.toList
  functions : lib.functions.toList <+: other.functions.toList
  blocks : lib.blocks.toList <+: other.blocks.toList
  ops : lib.ops.toList <+: other.ops.toList
  literals : lib.literals.toList <+: other.literals.toList
  imports : lib.imports.toList <+: other.imports.toList
  initializers : ∀ id op, lib.opAt id = .ok op → lib.DeclaresGlobal op → other.initializer? id = lib.initializer? id

theorem mem_of_follow {α : Type} {nodes : Array α} {index : Nat} {node : NodeRef} {found : α}
    (there : follow nodes index node = .ok found) : found ∈ nodes :=
  Array.mem_of_getElem? (follow_eq_ok_iff.mp there)

theorem follow_of_prefix {α : Type} {nodes more : Array α} {index : Nat} (node : NodeRef)
    (kept : nodes.toList <+: more.toList) (inside : index < nodes.size) :
    follow more index node = follow nodes index node := by
  have same : more[index]? = nodes[index]? := by
    rw [← Array.getElem?_toList, ← Array.getElem?_toList]
    exact (List.prefix_iff_getElem?.mp kept index inside).trans (List.getElem?_eq_getElem _).symm
  rw [follow, follow, same]

theorem Whole.holds_of_link (whole : lib.Whole) {node target : NodeRef} (link : lib.Link node target) :
    lib.Holds target := by
  have inType {id : TypeId} {decl : TypeDecl} (atId : lib.typeAt id = .ok decl) := whole.types decl (mem_of_follow atId)
  have inFunction {id : FunctionId} {function : Function} (atId : lib.functionAt id = .ok function) :=
    whole.functions function (mem_of_follow atId)
  have inBlock {id : BlockId} {block : Block} (atId : lib.blockAt id = .ok block) :=
    whole.blocks block (mem_of_follow atId)
  cases link with
  | needs needs =>
    cases node with
    | type id =>
      obtain ⟨decl, atId, member⟩ := needs_type_iff.mp needs
      exact inType atId target (by simp [TypeDecl.refs, member])
    | op id =>
      obtain ⟨op, atId, member⟩ := needs.mem_op_refs
      exact whole.ops op (mem_of_follow atId) target member
    | _ => cases needs
  | pointer atId known => exact inType atId _ (by simp [TypeDecl.refs, known])
  | owned atId member => exact inType atId _ (by simp [TypeDecl.refs, member])
  | signature atId => exact inFunction atId _ (by simp [Function.refs])
  | parameterBlock atId => exact inFunction atId _ (by simp [Function.refs])
  | body atId member => exact inFunction atId _ (by simp [Function.refs, member])
  | line atId member => exact inBlock atId _ (by simp [Block.refs, member])
  | localVariable atId member => exact inBlock atId _ (by simp [Block.refs, member])
  | initializer _ _ known => exact whole.initializers _ _ known

theorem Whole.holds_of_hasOperand (whole : lib.Whole) {node target : NodeRef} (operand : lib.HasOperand node target) :
    lib.Holds target := by
  cases operand with
  | parameter atId member =>
    exact whole.types _ (mem_of_follow atId) target (by simp [TypeDecl.refs, TypeShape.refs, member])
  | argument atId member => exact whole.ops _ (mem_of_follow atId) target (by simp [Op.refs, member])

theorem Whole.holds_of_reachable (whole : lib.Whole) {node : NodeRef} (held : lib.Holds root)
    (reachable : lib.Reachable [root] node) : lib.Holds node := by
  rcases reachable.eq_or_link with rfl | ⟨_, link⟩
  · exact held
  · exact whole.holds_of_link link

theorem Whole.agreeFrom_of_extends (whole : lib.Whole) (larger : lib.Extends other) (held : lib.Holds root) :
    lib.AgreeFrom other root := by
  have holds {node : NodeRef} (reachable : lib.Reachable [root] node) : lib.Holds node :=
    whole.holds_of_reachable held reachable
  exact {
    types := fun id reachable => follow_of_prefix _ larger.types (holds reachable)
    functions := fun id reachable => follow_of_prefix _ larger.functions (holds reachable)
    blocks := fun id reachable => follow_of_prefix _ larger.blocks (holds reachable)
    ops := fun id reachable => follow_of_prefix _ larger.ops (holds reachable)
    imports := fun id reachable => follow_of_prefix _ larger.imports (holds reachable)
    literals := fun node id _ operand => follow_of_prefix _ larger.literals (whole.holds_of_hasOperand operand)
    initializers := fun id op _ atId declares => larger.initializers id op atId declares }

/-- The ring with more around it: a stage that reads the ring, a name for the ring, and an initializer recorded
for an instruction that is no variable. -/
def ringAmongOthers : Library where
  types := ring.types.push
    { name := "Stage", shape := { kind := .struct, parameters := [.type ⟨0⟩] }, functions := [⟨1⟩] }
  functions := ring.functions.push
    { name := "main", functionType := ⟨3⟩, parameterBlock := ⟨0⟩, blocks := [⟨2⟩], executionModel := some .vertex }
  blocks := ring.blocks.push ⟨[⟨2⟩], []⟩
  ops := ring.ops.push { opcode := .opReturn, resultType := none, args := [] }
  literals := ring.literals.push (.text "unused")
  imports := #[⟨"GLSL.std.450"⟩]
  typeNames := .ofList [("Node", ⟨0⟩)]
  globals := .ofList [(⟨1⟩, ⟨some ⟨1⟩⟩)]

theorem ring_whole : ring.Whole where
  types := by decide
  functions := by decide
  blocks := by decide
  ops := by decide
  initializers _ _ known := by cases known

theorem ring_extends : ring.Extends ringAmongOthers where
  types := ⟨_, rfl⟩
  functions := ⟨_, rfl⟩
  blocks := ⟨_, rfl⟩
  ops := ⟨_, rfl⟩
  literals := ⟨_, rfl⟩
  imports := ⟨_, rfl⟩
  initializers id op atId declares := by
    obtain ⟨index⟩ := id
    match index, atId with
    | 0, _ => rfl
    | 1, atId =>
      cases atId
      cases declares.1
    | _ + 2, atId => cases atId

theorem ring_unaffected :
    ring.AgreeFrom ringAmongOthers (.type ⟨0⟩) ∧ ∃ binary, ring.emitType ⟨0⟩ = .ok binary ∧
      ringAmongOthers.emitType ⟨0⟩ = .ok binary ∧ binary.reflection.idBound = 9 := by
  have agree : ring.AgreeFrom ringAmongOthers (.type ⟨0⟩) :=
    ring_whole.agreeFrom_of_extends ring_extends (by decide)
  have bound : (fun binary => binary.reflection.idBound) <$> ring.emitType ⟨0⟩ = .ok 9 := by decide +kernel
  obtain ⟨binary, emitted, bound⟩ := Outcome.map_eq_ok_iff.mp bound
  exact ⟨agree, binary, emitted, (emitType_eq_of_agreeFrom agree).trans emitted, bound⟩

end Library

end ShaderGraph
