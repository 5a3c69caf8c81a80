import Mathlib.Logic.Relation
import ShaderGraph.Closure.Walk
import ShaderGraph.Proofs.Outcome

namespace ShaderGraph

open Spirv

/-- The node whose declaration a task records. -/
def Task.declared? : Task → Option NodeRef
  | .addType id => some (.type id)
  | .addConstant id | .addGlobal id => some (.op id)
  | .visit _ | .require _ | .addInitializer _ => none

@[simp] theorem Task.filterMap_declared?_visit (node : NodeRef) (rest : List Task) :
    (Task.visit node :: rest).filterMap Task.declared? = rest.filterMap Task.declared? := rfl

/-- The nodes a shape is made of. -/
def TypeShape.refs (shape : TypeShape) : List NodeRef :=
  shape.dereference.toList.map .type ++ shape.component.toList.map .type ++ shape.parameters

/-- The nodes an instruction is made of. -/
def Op.refs (op : Op) : List NodeRef :=
  op.resultType.toList.map .type ++ op.args

namespace Library

/-- A variable at module scope: its first argument is an integer literal that holds one of the six
storage classes whose variables live there. -/
def DeclaresGlobal (lib : Library) (op : Op) : Prop :=
  op.opcode = .opVariable ∧ ∃ id rest value storageClass,
    op.args = .literal id :: rest ∧ lib.literalAt id = .ok (.int value) ∧
      Enumerant.ofCode? .storageClass value = some storageClass ∧
      storageClass ∈ [StorageClass.uniform, .uniformConstant, .storageBuffer, .input, .output, .priv]

/-- What a node is made of, and what is therefore looked at before the node itself is declared. -/
inductive Needs (lib : Library) : NodeRef → NodeRef → Prop
  | dereference {id decl target} : lib.typeAt id = .ok decl → decl.shape.dereference = some target →
      Needs lib (.type id) (.type target)
  | component {id decl target} : lib.typeAt id = .ok decl → decl.shape.component = some target →
      Needs lib (.type id) (.type target)
  | parameter {id decl target} : lib.typeAt id = .ok decl → target ∈ decl.shape.parameters →
      Needs lib (.type id) target
  | resultType {id op target} : lib.opAt id = .ok op → op.resultType = some target →
      Needs lib (.op id) (.type target)
  | condition {id op target} : lib.opAt id = .ok op → op.opcode = .opBranchConditional →
      op.args.head? = some target → Needs lib (.op id) target
  | argument {id op target} : lib.opAt id = .ok op → op.opcode ≠ .opBranchConditional →
      target ∈ op.args → target.isBlock = false → Needs lib (.op id) target

/-- One step of the walk over a library. -/
inductive Link (lib : Library) : NodeRef → NodeRef → Prop
  | needs {node target} : lib.Needs node target → Link lib node target
  | pointer {id decl target} : lib.typeAt id = .ok decl → decl.pointer = some target →
      Link lib (.type id) (.type target)
  | owned {id decl target} : lib.typeAt id = .ok decl → target ∈ decl.functions →
      Link lib (.type id) (.function target)
  | signature {id function} : lib.functionAt id = .ok function →
      Link lib (.function id) (.type function.functionType)
  | parameterBlock {id function} : lib.functionAt id = .ok function →
      Link lib (.function id) (.block function.parameterBlock)
  | body {id function target} : lib.functionAt id = .ok function → target ∈ function.blocks →
      Link lib (.function id) (.block target)
  | line {id block target} : lib.blockAt id = .ok block → target ∈ block.lines →
      Link lib (.block id) (.op target)
  | localVariable {id block target} : lib.blockAt id = .ok block → target ∈ block.locals →
      Link lib (.block id) (.op target)
  | initializer {id op target} : lib.opAt id = .ok op → lib.DeclaresGlobal op →
      lib.initializer? id = some target → Link lib (.op id) (.function target)

/-- The nodes that are declared at module scope, and the task that does it. -/
inductive Declares (lib : Library) : NodeRef → Task → Prop
  | type {id} : Declares lib (.type id) (.addType id)
  | constant {id op} : lib.opAt id = .ok op → op.opcode.isConstant = true →
      Declares lib (.op id) (.addConstant id)
  | globalVariable {id op} : lib.opAt id = .ok op → lib.DeclaresGlobal op →
      Declares lib (.op id) (.addGlobal id)

variable {lib : Library}

theorem needs_type_iff {id : TypeId} {target : NodeRef} :
    lib.Needs (.type id) target ↔ ∃ decl, lib.typeAt id = .ok decl ∧ target ∈ decl.shape.refs := by
  constructor
  · intro needs
    cases needs with
    | dereference atId known => exact ⟨_, atId, by simp [TypeShape.refs, known]⟩
    | component atId known => exact ⟨_, atId, by simp [TypeShape.refs, known]⟩
    | parameter atId member => exact ⟨_, atId, by simp [TypeShape.refs, member]⟩
  · intro ⟨decl, atId, member⟩
    simp only [TypeShape.refs, List.mem_append, List.mem_map, Option.mem_toList] at member
    rcases member with (⟨type, known, rfl⟩ | ⟨type, known, rfl⟩) | listed
    · exact .dereference atId known
    · exact .component atId known
    · exact .parameter atId listed

theorem Needs.mem_op_refs {id : OpId} {target : NodeRef} (needs : lib.Needs (.op id) target) :
    ∃ op, lib.opAt id = .ok op ∧ target ∈ op.refs := by
  cases needs with
  | resultType atId known => exact ⟨_, atId, by simp [Op.refs, known]⟩
  | condition atId _ first => exact ⟨_, atId, by simp [Op.refs, List.mem_of_head? first]⟩
  | argument atId _ member _ => exact ⟨_, atId, by simp [Op.refs, member]⟩

theorem Declares.declared?_eq {node : NodeRef} {task : Task} (declares : lib.Declares node task) :
    task.declared? = some node := by
  cases declares <;> rfl

theorem storageClassOf_eq_some_iff {op : Op} {storageClass : StorageClass} :
    lib.storageClassOf op = .ok (some storageClass) ↔
      op.opcode = .opVariable ∧ ∃ id rest value, op.args = .literal id :: rest ∧
        lib.literalAt id = .ok (.int value) ∧
        Enumerant.ofCode? .storageClass value = some storageClass := by
  unfold storageClassOf
  by_cases isVariable : op.opcode = .opVariable
  · simp only [isVariable, if_true, true_and]
    constructor
    · intro found
      split at found
      · rename_i id rest args
        obtain ⟨value, atId, found⟩ := Outcome.bind_eq_ok_iff.mp found
        cases value with
        | int value => exact ⟨id, rest, value, args, atId, Outcome.pure_eq_ok_iff.mp found⟩
        | float bits => cases Outcome.pure_eq_ok_iff.mp found
        | text value => cases Outcome.pure_eq_ok_iff.mp found
      · cases Outcome.pure_eq_ok_iff.mp found
    · rintro ⟨id, rest, value, args, atId, known⟩
      simp only [args, atId]
      exact Outcome.pure_eq_ok_iff.mpr known
  · simp [isVariable, Outcome.pure_eq_ok_iff]

theorem isGlobal_eq_true_iff {op : Op} : lib.isGlobal op = .ok true ↔ lib.DeclaresGlobal op := by
  simp only [isGlobal, Outcome.bind_eq_ok_iff, Outcome.pure_eq_ok_iff]
  constructor
  · rintro ⟨found, atOp, yes⟩
    cases found with
    | none => cases yes
    | some storageClass =>
      obtain ⟨opcode, id, rest, value, args, atId, known⟩ := storageClassOf_eq_some_iff.mp atOp
      refine ⟨opcode, id, rest, value, storageClass, args, atId, known, ?_⟩
      simpa [StorageClass.isGlobal] using yes
  · rintro ⟨opcode, id, rest, value, storageClass, args, atId, known, member⟩
    refine ⟨some storageClass, storageClassOf_eq_some_iff.mpr ⟨opcode, id, rest, value, args, atId, known⟩, ?_⟩
    simpa [StorageClass.isGlobal] using member

/-- What is carried out before an instruction is declared. -/
def opPriorTasks (op : Op) : List Task :=
  op.resultType.toList.map (.visit <| .type ·) ++ op.opcode.requiredCapability?.toList.map .require ++
    (walkedArgs op).map .visit

/-- What is carried out before a type is declared. -/
def typePriorTasks (decl : TypeDecl) : List Task :=
  decl.shape.dereference.toList.map (.visit <| .type ·) ++
    decl.shape.component.toList.map (.visit <| .type ·) ++ decl.shape.parameters.map .visit

theorem tasks_type_eq_ok {id : TypeId} {steps : List Task} (found : lib.tasks (.type id) = .ok steps) :
    ∃ decl, lib.typeAt id = .ok decl ∧ steps = typePriorTasks decl ++ .addType id ::
      (decl.pointer.toList.map (.visit <| .type ·) ++ decl.functions.map (.visit <| .function ·)) := by
  obtain ⟨decl, atId, same⟩ := Outcome.bind_eq_ok_iff.mp found
  refine ⟨decl, atId, (Outcome.pure_eq_ok_iff.mp same).symm.trans ?_⟩
  simp [typeTasks, typePriorTasks]

theorem tasks_function_eq_ok {id : FunctionId} {steps : List Task}
    (found : lib.tasks (.function id) = .ok steps) :
    ∃ function, lib.functionAt id = .ok function ∧ steps = functionTasks function := by
  obtain ⟨function, atId, same⟩ := Outcome.bind_eq_ok_iff.mp found
  exact ⟨function, atId, (Outcome.pure_eq_ok_iff.mp same).symm⟩

theorem tasks_op_eq_ok {id : OpId} {steps : List Task} (found : lib.tasks (.op id) = .ok steps) :
    ∃ op, lib.opAt id = .ok op ∧
      (lib.DeclaresGlobal op ∧ steps = opPriorTasks op ++ .addGlobal id ::
          (lib.initializer? id).toList.flatMap (fun f => [.visit (.function f), .addInitializer f]) ∨
        ¬lib.DeclaresGlobal op ∧
          steps = opPriorTasks op ++ if op.opcode.isConstant then [.addConstant id] else []) := by
  obtain ⟨op, atId, found⟩ := Outcome.bind_eq_ok_iff.mp found
  refine ⟨op, atId, ?_⟩
  obtain ⟨answer, known, found⟩ := Outcome.bind_eq_ok_iff.mp found
  cases answer with
  | true =>
    have same := Outcome.pure_eq_ok_iff.mp found
    exact .inl ⟨isGlobal_eq_true_iff.mp known, by simp [← same, opPriorTasks]⟩
  | false =>
    have same := Outcome.pure_eq_ok_iff.mp found
    have notGlobal : ¬lib.DeclaresGlobal op := by
      intro declares
      cases known.symm.trans (isGlobal_eq_true_iff.mpr declares)
    exact .inr ⟨notGlobal, by simp [← same, opPriorTasks]⟩

theorem mem_walkedArgs_iff {op : Op} {target : NodeRef} :
    target ∈ walkedArgs op ↔
      op.opcode = .opBranchConditional ∧ op.args.head? = some target ∨
        op.opcode ≠ .opBranchConditional ∧ target ∈ op.args ∧ target.isBlock = false := by
  unfold walkedArgs
  by_cases branch : op.opcode = .opBranchConditional
  · cases op.args with
    | nil => simp [branch]
    | cons first rest => simp [branch, eq_comm (a := target)]
  · simp [branch]

theorem visit_mem_typePriorTasks_iff {id : TypeId} {decl : TypeDecl} (atId : lib.typeAt id = .ok decl)
    {target : NodeRef} : .visit target ∈ typePriorTasks decl ↔ lib.Needs (.type id) target := by
  simp only [typePriorTasks, List.mem_append, List.mem_map, Option.mem_toList, Task.visit.injEq]
  constructor
  · rintro ((⟨type, found, rfl⟩ | ⟨type, found, rfl⟩) | ⟨_, found, rfl⟩)
    · exact .dereference atId found
    · exact .component atId found
    · exact .parameter atId found
  · intro needs
    cases needs with
    | dereference at' found =>
      cases at'.symm.trans atId
      exact .inl (.inl ⟨_, found, rfl⟩)
    | component at' found =>
      cases at'.symm.trans atId
      exact .inl (.inr ⟨_, found, rfl⟩)
    | parameter at' found =>
      cases at'.symm.trans atId
      exact .inr ⟨_, found, rfl⟩

theorem visit_mem_opPriorTasks_iff {id : OpId} {op : Op} (atId : lib.opAt id = .ok op)
    {target : NodeRef} : .visit target ∈ opPriorTasks op ↔ lib.Needs (.op id) target := by
  simp only [opPriorTasks, List.mem_append, List.mem_map, Option.mem_toList, Task.visit.injEq,
    reduceCtorEq, and_false, exists_false, or_false, exists_eq_right, mem_walkedArgs_iff]
  constructor
  · rintro (⟨type, found, rfl⟩ | ⟨branch, found⟩ | ⟨noBranch, found, noBlock⟩)
    · exact .resultType atId found
    · exact .condition atId branch found
    · exact .argument atId noBranch found noBlock
  · intro needs
    cases needs with
    | resultType at' found =>
      cases at'.symm.trans atId
      exact .inl ⟨_, found, rfl⟩
    | condition at' branch found =>
      cases at'.symm.trans atId
      exact .inr (.inl ⟨branch, found⟩)
    | argument at' noBranch found noBlock =>
      cases at'.symm.trans atId
      exact .inr (.inr ⟨noBranch, found, noBlock⟩)

/-- Visiting a node leads to exactly the nodes it is linked to. -/
theorem visit_mem_tasks_iff {node target : NodeRef} {steps : List Task}
    (found : lib.tasks node = .ok steps) : .visit target ∈ steps ↔ lib.Link node target := by
  cases node with
  | type id =>
    obtain ⟨decl, atId, rfl⟩ := tasks_type_eq_ok found
    simp only [List.mem_append, List.mem_cons, visit_mem_typePriorTasks_iff atId, List.mem_map,
      Option.mem_toList, Task.visit.injEq, reduceCtorEq, false_or]
    constructor
    · rintro (needs | ⟨_, member, rfl⟩ | ⟨_, member, rfl⟩)
      · exact .needs needs
      · exact .pointer atId member
      · exact .owned atId member
    · intro link
      cases link with
      | needs needs => exact .inl needs
      | pointer at' member => cases at'.symm.trans atId; exact .inr (.inl ⟨_, member, rfl⟩)
      | owned at' member => cases at'.symm.trans atId; exact .inr (.inr ⟨_, member, rfl⟩)
  | function id =>
    obtain ⟨function, atId, rfl⟩ := tasks_function_eq_ok found
    simp only [functionTasks, List.mem_cons, List.mem_map, Task.visit.injEq]
    constructor
    · rintro (rfl | rfl | ⟨_, member, rfl⟩)
      · exact .signature atId
      · exact .parameterBlock atId
      · exact .body atId member
    · intro link
      cases link with
      | needs needs => cases needs
      | signature at' => cases at'.symm.trans atId; exact .inl rfl
      | parameterBlock at' => cases at'.symm.trans atId; exact .inr (.inl rfl)
      | body at' member => cases at'.symm.trans atId; exact .inr (.inr ⟨_, member, rfl⟩)
  | block id =>
    obtain ⟨block, atId, rfl⟩ := Walk.tasks_block_ok found
    simp only [blockTasks, List.mem_append, List.mem_map, Task.visit.injEq]
    constructor
    · rintro (⟨_, member, rfl⟩ | ⟨_, member, rfl⟩)
      · exact .line atId member
      · exact .localVariable atId member
    · intro link
      cases link with
      | needs needs => cases needs
      | line at' member => cases at'.symm.trans atId; exact .inl ⟨_, member, rfl⟩
      | localVariable at' member => cases at'.symm.trans atId; exact .inr ⟨_, member, rfl⟩
  | op id =>
    obtain ⟨op, atId, ⟨declares, rfl⟩ | ⟨notGlobal, rfl⟩⟩ := tasks_op_eq_ok found
    · simp only [List.mem_append, List.mem_cons, visit_mem_opPriorTasks_iff atId, List.mem_flatMap,
        Option.mem_toList, Task.visit.injEq, reduceCtorEq, List.not_mem_nil, false_or, or_false]
      constructor
      · rintro (needs | ⟨_, member, rfl⟩)
        · exact .needs needs
        · exact .initializer atId declares member
      · intro link
        cases link with
        | needs needs => exact .inl needs
        | initializer at' _ member => exact .inr ⟨_, member, rfl⟩
    · have noDeclaration : .visit target ∉ if op.opcode.isConstant then [Task.addConstant id] else [] := by
        split <;> simp
      simp only [List.mem_append, visit_mem_opPriorTasks_iff atId, noDeclaration, or_false]
      constructor
      · exact .needs
      · intro link
        cases link with
        | needs needs => exact needs
        | initializer at' declares _ => cases at'.symm.trans atId; exact absurd declares notGlobal
  | literal id =>
    cases found
    refine iff_of_false List.not_mem_nil fun link => ?_
    cases link with | needs needs => cases needs
  | extImport id =>
    cases found
    refine iff_of_false List.not_mem_nil fun link => ?_
    cases link with | needs needs => cases needs

theorem declared?_typePriorTasks {decl : TypeDecl} {task : Task} (member : task ∈ typePriorTasks decl) :
    task.declared? = none := by
  simp only [typePriorTasks, List.mem_append, List.mem_map] at member
  obtain (⟨_, _, rfl⟩ | ⟨_, _, rfl⟩) | ⟨_, _, rfl⟩ := member <;> rfl

theorem declared?_opPriorTasks {op : Op} {task : Task} (member : task ∈ opPriorTasks op) :
    task.declared? = none := by
  simp only [opPriorTasks, List.mem_append, List.mem_map] at member
  obtain (⟨_, _, rfl⟩ | ⟨_, _, rfl⟩) | ⟨_, _, rfl⟩ := member <;> rfl

/-- The declaration of a node stands once among its tasks, right after the visits of all it needs. -/
theorem tasks_split_declaration {node : NodeRef} {steps : List Task} {task : Task}
    (found : lib.tasks node = .ok steps) (declares : lib.Declares node task) :
    ∃ before after, steps = before ++ task :: after ∧
      (∀ target, .visit target ∈ before ↔ lib.Needs node target) ∧
      (∀ other ∈ before, other.declared? = none) ∧ ∀ other ∈ after, other.declared? = none := by
  cases declares with
  | @type id =>
    obtain ⟨decl, atId, rfl⟩ := tasks_type_eq_ok found
    refine ⟨_, _, rfl, fun _ => visit_mem_typePriorTasks_iff atId,
      fun _ => declared?_typePriorTasks, fun other member => ?_⟩
    simp only [List.mem_append, List.mem_map] at member
    obtain ⟨_, _, rfl⟩ | ⟨_, _, rfl⟩ := member <;> rfl
  | @constant id op atId isConstant =>
    obtain ⟨op', at', ⟨declares, rfl⟩ | ⟨notGlobal, rfl⟩⟩ := tasks_op_eq_ok found
    · cases at'.symm.trans atId
      rw [declares.1] at isConstant
      cases isConstant
    · cases at'.symm.trans atId
      rw [if_pos isConstant]
      exact ⟨_, _, rfl, fun _ => visit_mem_opPriorTasks_iff atId, fun _ => declared?_opPriorTasks,
        fun _ => nofun⟩
  | @globalVariable id op atId declares =>
    obtain ⟨op', at', ⟨_, rfl⟩ | ⟨notGlobal, rfl⟩⟩ := tasks_op_eq_ok found
    · refine ⟨_, _, rfl, fun _ => visit_mem_opPriorTasks_iff at', fun _ => declared?_opPriorTasks,
        fun other member => ?_⟩
      simp only [List.mem_flatMap, List.mem_cons, List.not_mem_nil, or_false] at member
      obtain ⟨_, _, rfl | rfl⟩ := member <;> rfl
    · cases at'.symm.trans atId
      exact absurd declares notGlobal

/-- Only its own declaration stands among the tasks of a node. -/
theorem declares_of_mem_tasks {node target : NodeRef} {steps : List Task} {task : Task}
    (found : lib.tasks node = .ok steps) (member : task ∈ steps) (declared : task.declared? = some target) :
    lib.Declares node task := by
  have contradiction {p : Prop} (none : task.declared? = none) : p := by
    rw [none] at declared
    cases declared
  cases node with
  | type id =>
    obtain ⟨before, after, rfl, _, early, late⟩ := tasks_split_declaration found .type
    simp only [List.mem_append, List.mem_cons] at member
    obtain inside | rfl | inside := member
    · exact contradiction (early _ inside)
    · exact .type
    · exact contradiction (late _ inside)
  | function id =>
    obtain ⟨function, _, rfl⟩ := tasks_function_eq_ok found
    simp only [functionTasks, List.mem_cons, List.mem_map] at member
    obtain rfl | rfl | ⟨_, _, rfl⟩ := member <;> cases declared
  | block id =>
    obtain ⟨block, _, rfl⟩ := Walk.tasks_block_ok found
    simp only [blockTasks, List.mem_append, List.mem_map] at member
    obtain ⟨_, _, rfl⟩ | ⟨_, _, rfl⟩ := member <;> cases declared
  | op id =>
    obtain ⟨op, atId, ⟨declares, rfl⟩ | ⟨_, rfl⟩⟩ := tasks_op_eq_ok found
    · simp only [List.mem_append, List.mem_cons, List.mem_flatMap, List.not_mem_nil, or_false] at member
      obtain inside | rfl | ⟨_, _, rfl | rfl⟩ := member
      · exact contradiction (declared?_opPriorTasks inside)
      · exact .globalVariable atId declares
      · cases declared
      · cases declared
    · obtain inside | inside := List.mem_append.mp member
      · exact contradiction (declared?_opPriorTasks inside)
      · split at inside
        · rename_i isConstant
          cases List.mem_singleton.mp inside
          exact .constant atId isConstant
        · cases inside
  | literal id => cases found; cases member
  | extImport id => cases found; cases member

theorem require_mem_tasks_iff {node : NodeRef} {steps : List Task} {capability : Capability}
    (found : lib.tasks node = .ok steps) :
    .require capability ∈ steps ↔ ∃ id op, node = .op id ∧ lib.opAt id = .ok op ∧
      op.opcode.requiredCapability? = some capability := by
  cases node with
  | op id =>
    obtain ⟨op, atId, tail⟩ := tasks_op_eq_ok found
    have prior : .require capability ∈ opPriorTasks op ↔ op.opcode.requiredCapability? = some capability := by
      simp [opPriorTasks]
    have same : .require capability ∈ steps ↔ .require capability ∈ opPriorTasks op := by
      obtain ⟨_, rfl⟩ | ⟨_, rfl⟩ := tail
      · simp
      · split <;> simp
    rw [same, prior]
    constructor
    · exact fun required => ⟨id, op, rfl, atId, required⟩
    · rintro ⟨id', op', same, at', required⟩
      cases same
      cases at'.symm.trans atId
      exact required
  | type id =>
    obtain ⟨decl, _, rfl⟩ := tasks_type_eq_ok found
    simp [typePriorTasks]
  | function id =>
    obtain ⟨function, _, rfl⟩ := tasks_function_eq_ok found
    simp [functionTasks]
  | block id =>
    obtain ⟨block, _, rfl⟩ := Walk.tasks_block_ok found
    simp [blockTasks]
  | literal id => cases found; simp
  | extImport id => cases found; simp

theorem addInitializer_mem_tasks_iff {node : NodeRef} {steps : List Task} {function : FunctionId}
    (found : lib.tasks node = .ok steps) :
    .addInitializer function ∈ steps ↔ ∃ id op, node = .op id ∧ lib.opAt id = .ok op ∧
      lib.DeclaresGlobal op ∧ lib.initializer? id = some function := by
  cases node with
  | op id =>
    obtain ⟨op, atId, ⟨declares, rfl⟩ | ⟨notGlobal, rfl⟩⟩ := tasks_op_eq_ok found
    · have listed : .addInitializer function ∈ opPriorTasks op ++ .addGlobal id ::
          (lib.initializer? id).toList.flatMap (fun f => [.visit (.function f), .addInitializer f]) ↔
          lib.initializer? id = some function := by
        simp [opPriorTasks]
      rw [listed]
      constructor
      · exact fun recorded => ⟨id, op, rfl, atId, declares, recorded⟩
      · rintro ⟨id', _, same, _, _, recorded⟩
        cases same
        exact recorded
    · have unlisted : .addInitializer function ∉ opPriorTasks op ++
          if op.opcode.isConstant then [.addConstant id] else [] := by
        split <;> simp [opPriorTasks]
      refine iff_of_false unlisted ?_
      rintro ⟨id', op', same, at', declares, _⟩
      cases same
      cases at'.symm.trans atId
      exact notGlobal declares
  | type id =>
    obtain ⟨decl, _, rfl⟩ := tasks_type_eq_ok found
    simp [typePriorTasks]
  | function id =>
    obtain ⟨function, _, rfl⟩ := tasks_function_eq_ok found
    simp [functionTasks]
  | block id =>
    obtain ⟨block, _, rfl⟩ := Walk.tasks_block_ok found
    simp [blockTasks]
  | literal id => cases found; simp
  | extImport id => cases found; simp

end Library

end ShaderGraph
