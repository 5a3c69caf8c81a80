import ShaderGraph.Closure.Basic

namespace ShaderGraph

open Spirv

/-- What is still to be done on a walk over a library. -/
inductive Task where
  | visit (node : NodeRef)
  | addType (id : TypeId)
  | addConstant (id : OpId)
  | addGlobal (id : OpId)
  | require (capability : Capability)
  | addInitializer (id : FunctionId)
  deriving DecidableEq, Repr

namespace Library

/-- What visiting a type comes to: the types it is made of are declared before it, its pointer and
its functions are looked at after it. -/
def typeTasks (id : TypeId) (decl : TypeDecl) : List Task :=
  decl.shape.dereference.toList.map (.visit <| .type ·) ++
  decl.shape.component.toList.map (.visit <| .type ·) ++
  decl.shape.parameters.map .visit ++
  [.addType id] ++
  decl.pointer.toList.map (.visit <| .type ·) ++
  decl.functions.map (.visit <| .function ·)

def functionTasks (f : Function) : List Task :=
  .visit (.type f.functionType) :: .visit (.block f.parameterBlock) ::
    f.blocks.map (.visit <| .block ·)

def blockTasks (b : Block) : List Task :=
  b.lines.map (.visit <| .op ·) ++ b.locals.map (.visit <| .op ·)

/-- The arguments an instruction depends on. Branch targets are not among them, they are found
through the blocks of the function; of a conditional branch only the condition counts. -/
def walkedArgs (op : Op) : List NodeRef :=
  if op.opcode = .opBranchConditional then op.args.take 1
  else op.args.filter fun arg => !arg.isBlock

/-- Whether an instruction is a variable at module scope. -/
def isGlobal (lib : Library) (op : Op) : Except Abort Bool := do
  return ((← lib.storageClassOf op).map StorageClass.isGlobal).getD false

/-- What visiting an instruction comes to. Constants and globals are declared after their
arguments. The initializer of a global is visited and then listed. If it is under way already, the
visit ends at once, and it is listed before all of it has been visited. -/
def opTasks (lib : Library) (id : OpId) (op : Op) : Except Abort (List Task) := do
  let before :=
    op.resultType.toList.map (.visit <| .type ·) ++
    op.opcode.requiredCapability?.toList.map .require ++
    (walkedArgs op).map .visit
  if ← lib.isGlobal op then
    let initializer := (lib.initializer? id).toList
    return before ++ [.addGlobal id] ++
      initializer.flatMap fun f => [.visit (.function f), .addInitializer f]
  else
    return before ++ if op.opcode.isConstant then [.addConstant id] else []

/-- What visiting a node comes to. -/
def tasks (lib : Library) : NodeRef → Except Abort (List Task)
  | .type id => return typeTasks id (← lib.typeAt id)
  | .function id => return functionTasks (← lib.functionAt id)
  | .block id => return blockTasks (← lib.blockAt id)
  | .op id => do lib.opTasks id (← lib.opAt id)
  | .literal _ => return []
  | .extImport _ => return []

end Library

/-- A walk over a library: what it has found, and the types and instructions it has entered. -/
structure Walk where
  closure : Closure := {}
  types : List TypeId := []
  ops : List OpId := []

namespace Walk

/-- Whether a node needs no visit any more. A block is walked each time it is met. -/
def hasEntered (w : Walk) : NodeRef → Bool
  | .type id => id ∈ w.types
  | .function id => id ∈ w.closure.functions
  | .op id => id ∈ w.ops
  | .block _ | .literal _ | .extImport _ => false

/-- Marks a node. Functions and imports are recorded as soon as they are met. -/
def enter (w : Walk) : NodeRef → Walk
  | .type id => { w with types := id :: w.types }
  | .function id => { w with closure := w.closure.addFunction id }
  | .op id => { w with ops := id :: w.ops }
  | .extImport id => { w with closure := w.closure.addImport id }
  | .block _ | .literal _ => w

/-- Carries out a task other than a visit. -/
def record (w : Walk) : Task → Walk
  | .visit _ => w
  | .addType id => { w with closure := w.closure.addType id }
  | .addConstant id => { w with closure := w.closure.addConstant id }
  | .addGlobal id => { w with closure := w.closure.addGlobal id }
  | .require capability => { w with closure := w.closure.addCapability capability }
  | .addInitializer id => { w with closure := w.closure.addInitializer id }

/-! A walk ends: each visit that leads further enters a node of the library for the first time,
or unfolds a block into its instructions. What a first visit adds is counted before it. -/

/-- A block counts for the instructions in it. -/
def taskWeight (lib : Library) : Task → Nat
  | .visit (.block id) =>
    match lib.blockAt id with
    | .ok block => 2 + (Library.blockTasks block).length
    | .error _ => 1
  | _ => 1

def weight (lib : Library) : List Task → Nat
  | [] => 0
  | task :: rest => taskWeight lib task + weight lib rest

theorem taskWeight_pos (lib : Library) (task : Task) : 0 < taskWeight lib task := by
  unfold taskWeight
  split
  · split <;> omega
  · exact Nat.one_pos

theorem weight_append (lib : Library) (xs ys : List Task) :
    weight lib (xs ++ ys) = weight lib xs + weight lib ys := by
  induction xs with
  | nil => exact (Nat.zero_add _).symm
  | cons task rest ih => simp only [List.cons_append, weight, ih, Nat.add_assoc]

theorem weight_blockTasks (lib : Library) (block : Block) :
    weight lib (Library.blockTasks block) = (Library.blockTasks block).length := by
  have ops (ids : List OpId) :
      weight lib (ids.map (Task.visit <| .op ·)) = ids.length := by
    induction ids with
    | nil => rfl
    | cons id rest ih =>
      simp only [List.map_cons, weight, ih, taskWeight, List.length_cons]
      omega
  simp only [Library.blockTasks, weight_append, List.length_append, List.length_map]
  rw [ops, ops]

theorem follow_ok {α : Type} {nodes : Array α} {index : Nat} {node : NodeRef} {found : α}
    (h : Library.follow nodes index node = .ok found) : index < nodes.size := by
  unfold Library.follow at h
  split at h
  · next hit => exact (Array.getElem?_eq_some_iff.mp hit).1
  · cases h

theorem insertNew_mem {α : Type} [DecidableEq α] {xs : List α} {x y : α} :
    y ∈ Closure.insertNew xs x ↔ y ∈ xs ∨ y = x := by
  unfold Closure.insertNew
  split
  · next mem => exact ⟨.inl, fun h => h.elim id (fun eq => eq ▸ mem)⟩
  · simp

theorem tasks_type_ok {lib : Library} {id : TypeId} {steps : List Task}
    (found : lib.tasks (.type id) = .ok steps) : id.index < lib.types.size := by
  cases h : lib.typeAt id with
  | ok decl => exact follow_ok h
  | error cause => simp only [Library.tasks, h] at found; cases found

theorem tasks_function_ok {lib : Library} {id : FunctionId} {steps : List Task}
    (found : lib.tasks (.function id) = .ok steps) : id.index < lib.functions.size := by
  cases h : lib.functionAt id with
  | ok decl => exact follow_ok h
  | error cause => simp only [Library.tasks, h] at found; cases found

theorem tasks_op_ok {lib : Library} {id : OpId} {steps : List Task}
    (found : lib.tasks (.op id) = .ok steps) : id.index < lib.ops.size := by
  cases h : lib.opAt id with
  | ok decl => exact follow_ok h
  | error cause => simp only [Library.tasks, h] at found; cases found

theorem tasks_block_ok {lib : Library} {id : BlockId} {steps : List Task}
    (found : lib.tasks (.block id) = .ok steps) :
    ∃ block, lib.blockAt id = .ok block ∧ steps = Library.blockTasks block := by
  cases h : lib.blockAt id with
  | ok block => simp only [Library.tasks, h] at found; cases found; exact ⟨block, rfl, rfl⟩
  | error cause => simp only [Library.tasks, h] at found; cases found

end Walk

namespace Library

/-- The nodes that a walk marks when it enters them. -/
def marked (lib : Library) : List NodeRef :=
  (List.range lib.types.size).map (.type ⟨·⟩) ++ (List.range lib.functions.size).map (.function ⟨·⟩) ++
    (List.range lib.ops.size).map (.op ⟨·⟩)

/-- How much a first visit of a node adds to what is to be done. -/
def visitWeight (lib : Library) (node : NodeRef) : Nat :=
  match lib.tasks node with
  | .ok steps => Walk.weight lib steps
  | .error _ => 0

end Library

namespace Walk

/-- What visits of nodes can still add. -/
def due (lib : Library) (w : Walk) : List NodeRef → Nat
  | [] => 0
  | node :: rest => (if w.hasEntered node then 0 else lib.visitWeight node) + due lib w rest

/-- What can still come, and what is pending. -/
def effort (lib : Library) (w : Walk) (tasks : List Task) : Nat := due lib w lib.marked + weight lib tasks

theorem hasEntered_enter_of_entered {w : Walk} {node other : NodeRef} (entered : w.hasEntered other = true) :
    (w.enter node).hasEntered other = true := by
  cases node <;> cases other <;>
    simp_all [enter, hasEntered, Closure.addFunction, Closure.addImport, insertNew_mem]

theorem hasEntered_record (w : Walk) (task : Task) (node : NodeRef) :
    (w.record task).hasEntered node = w.hasEntered node := by
  cases task <;> cases node <;> rfl

theorem due_record (lib : Library) (w : Walk) (task : Task) (nodes : List NodeRef) :
    due lib (w.record task) nodes = due lib w nodes := by
  induction nodes with
  | nil => rfl
  | cons node rest ih => rw [due, due, hasEntered_record, ih]

theorem due_enter_le (lib : Library) (w : Walk) (node : NodeRef) (nodes : List NodeRef) :
    due lib (w.enter node) nodes ≤ due lib w nodes := by
  induction nodes with
  | nil => exact Nat.le_refl 0
  | cons other rest ih =>
    rw [due, due]
    by_cases entered : w.hasEntered other = true
    · rw [if_pos entered, if_pos (hasEntered_enter_of_entered entered)]
      exact Nat.add_le_add_left ih 0
    · rw [if_neg entered]
      split <;> omega

/-- What a first visit adds is no longer due. -/
theorem due_enter {lib : Library} {w : Walk} {node : NodeRef} {nodes : List NodeRef} (member : node ∈ nodes)
    (fresh : w.hasEntered node = false) (entered : (w.enter node).hasEntered node = true) :
    due lib (w.enter node) nodes + lib.visitWeight node ≤ due lib w nodes := by
  induction nodes with
  | nil => cases member
  | cons other rest ih =>
    rcases List.mem_cons.mp member with rfl | later
    · have others := due_enter_le lib w node rest
      simp only [due, fresh, entered, if_true, Bool.false_eq_true, if_false]
      omega
    · have others := ih later
      have first := due_enter_le lib w node [other]
      simp only [due] at first ⊢
      omega

theorem effort_skip (lib : Library) (w : Walk) (task : Task) (rest : List Task) :
    effort lib w rest < effort lib w (task :: rest) := by
  have pos := taskWeight_pos lib task
  simp only [effort, weight]
  omega

theorem effort_record (lib : Library) (w : Walk) (task : Task) (rest : List Task) :
    effort lib (w.record task) rest < effort lib w (task :: rest) := by
  have less := effort_skip lib w task rest
  rwa [effort, due_record, ← effort]

theorem effort_enter {lib : Library} {w : Walk} {node : NodeRef} {steps : List Task} (rest : List Task)
    (fresh : w.hasEntered node = false) (found : lib.tasks node = .ok steps) :
    effort lib (w.enter node) (steps ++ rest) < effort lib w (.visit node :: rest) := by
  have own : lib.visitWeight node = weight lib steps := by simp only [Library.visitWeight, found]
  have pos := taskWeight_pos lib (.visit node)
  have less (member : node ∈ lib.marked) (entered : (w.enter node).hasEntered node = true) :
      due lib (w.enter node) lib.marked + lib.visitWeight node ≤ due lib w lib.marked :=
    due_enter member fresh entered
  have noMore := due_enter_le lib w node lib.marked
  simp only [effort, weight, weight_append]
  cases node with
  | type id =>
    have less := less (by simpa [Library.marked] using ⟨id.index, tasks_type_ok found, rfl⟩)
      (by simp [enter, hasEntered])
    omega
  | function id =>
    have less := less (by simpa [Library.marked] using ⟨id.index, tasks_function_ok found, rfl⟩)
      (by simp [enter, hasEntered, Closure.addFunction, insertNew_mem])
    omega
  | op id =>
    have less := less (by simpa [Library.marked] using ⟨id.index, tasks_op_ok found, rfl⟩)
      (by simp [enter, hasEntered])
    omega
  | block id =>
    obtain ⟨block, atBlock, rfl⟩ := tasks_block_ok found
    simp only [weight_blockTasks, taskWeight, atBlock]
    omega
  | literal id =>
    cases found
    simp only [weight]
    omega
  | extImport id =>
    cases found
    simp only [weight]
    omega

/-- Carries out tasks, first come first served, each visit followed by what it leads to. -/
def run (lib : Library) (w : Walk) : List Task → Except Abort Walk
  | [] => .ok w
  | .visit node :: rest =>
    if _entered : w.hasEntered node then run lib w rest
    else
      match _found : lib.tasks node with
      | .error cause => .error cause
      | .ok steps => run lib (w.enter node) (steps ++ rest)
  | task :: rest => run lib (w.record task) rest
termination_by tasks => effort lib w tasks
decreasing_by
  · exact effort_skip ..
  · exact effort_enter rest (by simpa using _entered) _found
  · exact effort_record ..

/-- Adds a root and everything it depends on. No root adds nothing. -/
def collect (lib : Library) (w : Walk) : Option NodeRef → Except Abort Walk
  | none => .ok w
  | some root => do
    -- The root has to be there whatever sort of node it is.
    let _ ← lib.displayName root
    run lib w [.visit root]

end Walk

/-- What a node depends on, itself included. -/
def Library.dependencies (lib : Library) (root : NodeRef) : Except Abort Closure := do
  return (← Walk.collect lib {} root).closure

end ShaderGraph
