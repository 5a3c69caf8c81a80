import Mathlib.Algebra.GroupWithZero.Nat
import ShaderGraph.Proofs.Collection.Completion
import ShaderGraph.Proofs.Construction.Soundness

namespace ShaderGraph

open Spirv

/-- Whether a node is met by name only. A walk reads nothing of it and goes no further. -/
def NodeRef.isLeaf : NodeRef → Bool
  | .literal _ | .extImport _ => true
  | .type _ | .function _ | .block _ | .op _ => false

namespace Library

/-- What is missing where a walk cannot go on from a node: the node itself, or the literal that would tell
the storage class of a variable. -/
inductive Dangles (lib : Library) : NodeRef → NodeRef → Prop
  | node {node} : node.isLeaf = false → ¬lib.Holds node → Dangles lib node node
  | storageClass {id op literal rest} : lib.opAt id = .ok op → op.opcode = .opVariable →
      op.args = .literal literal :: rest → ¬lib.Holds (.literal literal) → Dangles lib (.op id) (.literal literal)

/-- No walk from a root is longer: it visits the root, and enters each node that is marked once at most. -/
def walkLength (lib : Library) (root : NodeRef) : Nat :=
  (lib.marked.map lib.visitWeight).sum + Walk.taskWeight lib (.visit root)

end Library

variable {lib : Library}

/-! Every step brings the end nearer. -/

theorem Moment.Step.effort_lt {before after : Moment} (step : Moment.Step lib before after) :
    Walk.effort lib after.walk after.pending < Walk.effort lib before.walk before.pending := by
  cases step with
  | skip => exact Walk.effort_skip ..
  | record => exact Walk.effort_record ..
  | enter fresh found => exact Walk.effort_enter _ fresh found

theorem Moment.length_le_effort {moment : Moment} {moments : List Moment}
    (chain : (moment :: moments).IsChain (Moment.Step lib)) :
    moments.length ≤ Walk.effort lib moment.walk moment.pending := by
  induction moments generalizing moment with
  | nil => exact Nat.zero_le _
  | cons next rest ih =>
    obtain ⟨step, others⟩ := List.isChain_cons_cons.mp chain
    have less := step.effort_lt
    have bound := ih others
    simp only [List.length_cons]
    omega

theorem Walk.effort_start (root : NodeRef) : Walk.effort lib {} [.visit root] = lib.walkLength root := by
  have all (nodes : List NodeRef) : Walk.due lib {} nodes = (nodes.map lib.visitWeight).sum := by
    induction nodes with
    | nil => rfl
    | cons node rest ih =>
      have fresh : ({} : Walk).hasEntered node = false := by cases node <;> simp [Walk.hasEntered]
      simp [Walk.due, fresh, ih]
  simp [Walk.effort, Library.walkLength, Walk.weight, all]

/-! Where a walk cannot go on. -/

theorem Library.storageClassOf_eq_error_iff {op : Op} {cause : Abort} :
    lib.storageClassOf op = .error cause ↔ op.opcode = .opVariable ∧ ∃ literal rest,
      op.args = .literal literal :: rest ∧ ¬lib.Holds (.literal literal) ∧ cause = .missingNode (.literal literal) := by
  unfold storageClassOf
  split
  · next isVariable =>
    split
    · next literal rest args =>
      cases found : lib.literalAt literal with
      | error other =>
        obtain ⟨missing, rfl⟩ := Library.follow_eq_error_iff.mp found
        constructor
        · intro failed
          cases failed
          exact ⟨isVariable, literal, rest, args, missing, rfl⟩
        · rintro ⟨_, _, _, args', _, rfl⟩
          cases args.symm.trans args'
          rfl
      | ok value =>
        have held : lib.Holds (.literal literal) := Library.exists_follow_iff.mp ⟨value, found⟩
        constructor
        · intro failed
          cases value <;> cases failed
        · rintro ⟨_, _, _, args', missing, _⟩
          cases args.symm.trans args'
          exact absurd held missing
    · next other =>
      refine iff_of_false nofun ?_
      rintro ⟨_, literal, rest, args, _⟩
      exact other literal rest args
  · next noVariable => exact iff_of_false nofun fun known => noVariable known.1

theorem Library.opTasks_eq_error_iff {id : OpId} {op : Op} {cause : Abort} :
    lib.opTasks id op = .error cause ↔ lib.storageClassOf op = .error cause := by
  cases found : lib.storageClassOf op with
  | error other => simp [opTasks, isGlobal, found, bind, Except.bind]
  | ok storageClass =>
    refine iff_of_false ?_ ?_
    · simp only [opTasks, isGlobal, found]
      intro failed
      obtain ⟨⟨⟩⟩ | ⟨answer, _, failed⟩ := Outcome.bind_eq_error_iff.mp failed
      cases answer <;> cases failed
    · rintro ⟨⟩

/-- A node cannot be looked at exactly if something is missing there, and this is what is complained of. -/
theorem Library.tasks_eq_error_iff {node : NodeRef} {cause : Abort} :
    lib.tasks node = .error cause ↔ ∃ missing, cause = .missingNode missing ∧ lib.Dangles node missing := by
  have own (noLeaf : node.isLeaf = false) (noOp : ∀ id, node ≠ .op id) :
      ¬lib.Holds node ∧ cause = .missingNode node ↔
        ∃ missing, cause = .missingNode missing ∧ lib.Dangles node missing := by
    constructor
    · rintro ⟨absent, rfl⟩
      exact ⟨node, rfl, .node noLeaf absent⟩
    · rintro ⟨missing, rfl, dangles⟩
      cases dangles with
      | node _ absent => exact ⟨absent, rfl⟩
      | storageClass => exact absurd rfl (noOp _)
  have opened {α : Type} {nodes : Array α} {index : Nat} {steps : α → List Task} :
      (do return steps (← follow nodes index node)) = Except.error cause ↔
        ¬index < nodes.size ∧ cause = .missingNode node := by
    rw [Outcome.bind_eq_error_iff, follow_eq_error_iff, or_iff_left]
    rintro ⟨_, _, ⟨⟩⟩
  cases node with
  | type id => exact opened.trans (own rfl nofun)
  | function id => exact opened.trans (own rfl nofun)
  | block id => exact opened.trans (own rfl nofun)
  | literal id =>
    refine iff_of_false nofun ?_
    rintro ⟨_, _, ⟨noLeaf, _⟩⟩
    cases noLeaf
  | extImport id =>
    refine iff_of_false nofun ?_
    rintro ⟨_, _, ⟨noLeaf, _⟩⟩
    cases noLeaf
  | op id =>
    refine Outcome.bind_eq_error_iff.trans ⟨?_, ?_⟩
    · rintro (failed | ⟨op, atId, failed⟩)
      · obtain ⟨absent, rfl⟩ := follow_eq_error_iff.mp failed
        exact ⟨_, rfl, .node rfl absent⟩
      · obtain ⟨isVariable, literal, rest, args, absent, rfl⟩ :=
          storageClassOf_eq_error_iff.mp (opTasks_eq_error_iff.mp failed)
        exact ⟨_, rfl, .storageClass atId isVariable args absent⟩
    · rintro ⟨missing, rfl, dangles⟩
      cases dangles with
      | node _ absent => exact .inl (follow_eq_error_iff.mpr ⟨absent, rfl⟩)
      | @storageClass _ op literal rest atId isVariable args absent =>
        refine .inr ⟨op, atId, opTasks_eq_error_iff.mpr (storageClassOf_eq_error_iff.mpr ?_)⟩
        exact ⟨isVariable, literal, rest, args, absent, rfl⟩

theorem Library.Dangles.not_holds {node missing : NodeRef} (dangles : lib.Dangles node missing) :
    ¬lib.Holds missing := by
  cases dangles with
  | node _ absent => exact absent
  | storageClass _ _ _ absent => exact absent

/-! What a walk comes to. -/

/-- A walk has a result exactly if its steps lead to it. -/
theorem Walk.run_eq_ok_iff {past tasks : List Task} {w result : Walk} :
    Walk.run lib w tasks = .ok result ↔
      ∃ later, Relation.ReflTransGen (Moment.Step lib) ⟨past, w, tasks⟩ ⟨later, result, []⟩ := by
  refine ⟨fun finished => Walk.run_steps finished past, ?_⟩
  rintro ⟨later, steps⟩
  generalize last : Moment.mk later result [] = moment at steps
  have same : Walk.run lib w tasks = Walk.run lib moment.walk moment.pending := by
    clear last
    induction steps with
    | refl => rfl
    | tail _ step ih => exact ih.trans step.run_eq
  rw [same, ← last, Walk.run]

/-- Collecting is given up only for a root that is missing, or for what a node below it lacks. -/
theorem Library.missing_of_dependencies {root : NodeRef} {cause : Abort}
    (failed : lib.dependencies root = .error cause) :
    ∃ missing, cause = .missingNode missing ∧ ¬lib.Holds missing ∧
      (missing = root ∨ ∃ node, lib.Reachable [root] node ∧ lib.Dangles node missing) := by
  rcases Outcome.bind_eq_error_iff.mp failed with failed | ⟨_, _, ⟨⟩⟩
  rcases Outcome.bind_eq_error_iff.mp failed with unnamed | ⟨_, _, failed⟩
  · obtain ⟨_, absent, rfl⟩ := displayName_eq_error_iff.mp unnamed
    exact ⟨root, rfl, absent, .inl rfl⟩
  · have entering : Collecting lib [root] ⟨[], {}, [.visit root]⟩ := .root _ .start
    obtain ⟨node, reachable, failed⟩ := entering.of_run_error failed
    obtain ⟨missing, rfl, dangles⟩ := tasks_eq_error_iff.mp failed
    exact ⟨missing, rfl, dangles.not_holds, .inr ⟨node, reachable, dangles⟩⟩

/-- Where collecting ends, the root is there and nothing below it was in the way. -/
theorem Library.not_dangles_of_dependencies {root : NodeRef} {c : Closure} (found : lib.dependencies root = .ok c) :
    lib.Holds root ∧ ∀ node missing, lib.Reachable [root] node → ¬lib.Dangles node missing := by
  have whole (node missing : NodeRef) (reachable : lib.Reachable [root] node) : ¬lib.Dangles node missing := by
    intro dangles
    obtain ⟨past, w, finished, _⟩ := Collecting.of_dependencies found
    obtain ⟨steps, looked, _⟩ := finished.covered (finished.visit_mem_iff.mpr reachable)
    cases looked.symm.trans (tasks_eq_error_iff.mpr ⟨missing, rfl, dangles⟩)
  refine ⟨by_contra fun absent => ?_, whole⟩
  cases isBlock : root.isBlock with
  | true =>
    have noLeaf : root.isLeaf = false := by
      cases root with
      | block id => rfl
      | _ => cases isBlock
    exact whole root root (.root (List.mem_singleton_self root)) (.node noLeaf absent)
  | false =>
    obtain ⟨_, collected, _⟩ := Outcome.bind_eq_ok_iff.mp found
    obtain ⟨_, named, _⟩ := Outcome.bind_eq_ok_iff.mp collected
    cases named.symm.trans (displayName_eq_error_iff.mpr ⟨isBlock, absent, rfl⟩)

theorem Library.exists_dependencies {root : NodeRef} (held : lib.Holds root)
    (whole : ∀ node missing, lib.Reachable [root] node → ¬lib.Dangles node missing) :
    ∃ c, lib.dependencies root = .ok c := by
  cases found : lib.dependencies root with
  | ok c => exact ⟨c, rfl⟩
  | error cause =>
    obtain ⟨missing, _, absent, rfl | ⟨node, reachable, dangles⟩⟩ := missing_of_dependencies found
    · exact absurd held absent
    · exact absurd dangles (whole node missing reachable)

/-- Collecting ends after a bounded number of steps, whatever cycles the library has and whatever it lacks.
It is given up exactly if the root is missing, if the walk comes to a type, function, block or instruction
that is missing, or to a variable whose storage class is. Nothing else that is missing is in its way. -/
theorem Library.dependencies_terminates (lib : Library) (root : NodeRef) :
    (∀ moments, (⟨[], {}, [.visit root]⟩ :: moments).IsChain (Moment.Step lib) →
      moments.length ≤ lib.walkLength root) ∧
      (∀ c, lib.dependencies root = .ok c ↔ lib.Holds root ∧ ∃ past w,
        Relation.ReflTransGen (Moment.Step lib) ⟨[], {}, [.visit root]⟩ ⟨past, w, []⟩ ∧ w.closure = c) ∧
      ((∃ cause, lib.dependencies root = .error cause) ↔
        ¬lib.Holds root ∨ ∃ node missing, lib.Reachable [root] node ∧ lib.Dangles node missing) ∧
      ∀ cause, lib.dependencies root = .error cause → ∃ missing, cause = .missingNode missing ∧
        ¬lib.Holds missing ∧ (missing = root ∨ ∃ node, lib.Reachable [root] node ∧ lib.Dangles node missing) := by
  refine ⟨fun moments chain => ?_, fun c => ⟨fun found => ?_, ?_⟩, ⟨?_, ?_⟩, fun _ => missing_of_dependencies⟩
  · rw [← Walk.effort_start]
    exact Moment.length_le_effort chain
  · obtain ⟨past, w, finished, same⟩ := Collecting.of_dependencies found
    exact ⟨(not_dangles_of_dependencies found).1, past, w, finished.steps_of_root, same⟩
  · rintro ⟨held, past, w, steps, rfl⟩
    have run : Walk.run lib {} [.visit root] = .ok w := Walk.run_eq_ok_iff.mpr ⟨past, steps⟩
    cases named : lib.displayName root with
    | ok name => simp [dependencies, Walk.collect, named, run, bind, Except.bind, pure, Except.pure]
    | error cause => exact absurd held (displayName_eq_error_iff.mp named).2.1
  · rintro ⟨cause, failed⟩
    obtain ⟨missing, _, absent, rfl | ⟨node, reachable, dangles⟩⟩ := missing_of_dependencies failed
    · exact .inl absent
    · exact .inr ⟨node, missing, reachable, dangles⟩
  · intro missing
    cases found : lib.dependencies root with
    | error cause => exact ⟨cause, rfl⟩
    | ok c =>
      obtain ⟨held, whole⟩ := not_dangles_of_dependencies found
      rcases missing with absent | ⟨node, missing, reachable, dangles⟩
      · exact absurd held absent
      · exact absurd dangles (whole node missing reachable)

/-- A function that uses a list of extended instructions, a literal, a branch target and a second way of
a conditional branch that are all missing. -/
def Library.frayed : Library where
  types := #[
    { name := "bool", shape := { kind := .bool }, functions := [⟨0⟩] },
    { name := "void", shape := { kind := .void } },
    { name := "fn() -> void", shape := { kind := .function, component := some ⟨1⟩ } }]
  functions := #[
    { name := "main", functionType := ⟨2⟩, parameterBlock := ⟨0⟩, blocks := [⟨1⟩], executionModel := none }]
  blocks := #[⟨[], []⟩, ⟨[⟨1⟩, ⟨2⟩, ⟨3⟩], []⟩]
  ops := #[
    { opcode := .opConstantTrue, resultType := some ⟨0⟩, args := [] },
    { opcode := .opExtInst, resultType := some ⟨0⟩, args := [.extImport ⟨7⟩, .literal ⟨7⟩, .op ⟨0⟩] },
    { opcode := .opBranchConditional, resultType := none, args := [.op ⟨0⟩, .block ⟨7⟩, .op ⟨7⟩] },
    { opcode := .opBranch, resultType := none, args := [.block ⟨7⟩] }]

example : (fun c => (c.order, c.imports)) <$> Library.frayed.dependencies (.type ⟨0⟩) =
    .ok ([.type ⟨0⟩, .type ⟨1⟩, .type ⟨2⟩, .op ⟨0⟩], [⟨7⟩]) := by
  decide +kernel

end ShaderGraph
