import ShaderGraph.Proofs.Collection.InitializerOrder

namespace ShaderGraph

open Spirv

def NodeRef.type? : NodeRef → Option TypeId
  | .type id => some id
  | _ => none

/-- The instruction that a node is, if it is one that passes a test. -/
def Library.opWhere? (lib : Library) (test : Op → Bool) : NodeRef → Option OpId
  | .op id =>
    match lib.opAt id with
    | .ok op => if test op then some id else none
    | .error _ => none
  | _ => none

/-- The lists of a closure agree: none of them has anything twice, and the order of declarations falls into
types, constants and other instructions as these are listed on their own. -/
structure Closure.Consistent (c : Closure) (lib : Library) : Prop where
  types_nodup : c.types.Nodup
  functions_nodup : c.functions.Nodup
  constants_nodup : c.constants.Nodup
  globals_nodup : c.globals.Nodup
  imports_nodup : c.imports.Nodup
  order_nodup : c.order.Nodup
  capabilities_nodup : c.capabilities.Nodup
  initializers_nodup : c.initializers.Nodup
  disjoint : c.constants.Disjoint c.globals
  types : c.order.filterMap NodeRef.type? = c.types
  constants : c.order.filterMap (lib.opWhere? fun op => op.opcode.isConstant) = c.constants
  globals : c.order.filterMap (lib.opWhere? fun op => !op.opcode.isConstant) = c.globals
  only : ∀ node ∈ c.order, (∃ id, node = .type id) ∨ ∃ id op, node = .op id ∧ lib.opAt id = .ok op
  initializers : c.initializers ⊆ c.functions

theorem NodeRef.type?_eq_some_iff {node : NodeRef} {id : TypeId} : node.type? = some id ↔ node = .type id := by
  cases node <;> simp [NodeRef.type?]

namespace Library

variable {lib : Library} {test : Op → Bool}

theorem opWhere?_eq_some_iff {node : NodeRef} {id : OpId} :
    lib.opWhere? test node = some id ↔ node = .op id ∧ ∃ op, lib.opAt id = .ok op ∧ test op = true := by
  cases node with
  | op other =>
    cases found : lib.opAt other with
    | error cause =>
      simp only [opWhere?, found, reduceCtorEq, NodeRef.op.injEq, false_iff]
      rintro ⟨rfl, op, atId, _⟩
      cases found.symm.trans atId
    | ok op =>
      simp only [opWhere?, found, NodeRef.op.injEq, Option.ite_none_right_eq_some, Option.some.injEq]
      constructor
      · rintro ⟨passed, rfl⟩
        exact ⟨rfl, op, found, passed⟩
      · rintro ⟨rfl, op', atId, passed⟩
        cases found.symm.trans atId
        exact ⟨passed, rfl⟩
  | _ => simp [opWhere?]

theorem opWhere?_eq_none {id : OpId} {op : Op} (atId : lib.opAt id = .ok op) (failed : test op = false) :
    lib.opWhere? test (.op id) = none := by
  simp [opWhere?, atId, failed]

end Library

variable {lib : Library} {roots : List NodeRef}

/-- Each list of declarations is what the order has of its sort. Types, constants and globals are recorded
together with their place in the order, and an instruction is a constant or a global, never both. -/
theorem Collecting.order_parts {moment : Moment} (collecting : Collecting lib roots moment) :
    moment.walk.closure.order.filterMap NodeRef.type? = moment.walk.closure.types ∧
      moment.walk.closure.order.filterMap (lib.opWhere? fun op => op.opcode.isConstant) =
        moment.walk.closure.constants ∧
      moment.walk.closure.order.filterMap (lib.opWhere? fun op => !op.opcode.isConstant) =
        moment.walk.closure.globals := by
  induction collecting with
  | start => exact ⟨rfl, rfl, rfl⟩
  | root _ _ ih => exact ih
  | step before step ih =>
    cases step with
    | skip => exact ih
    | @enter past w node =>
      cases node with
      | _ => exact ih
    | @record past w task rest other =>
      obtain ⟨types, constants, globals⟩ := ih
      have declares {node : NodeRef} (declared : task.declared? = some node) : lib.Declares node task :=
        (before.declared_visited (.inr (List.mem_cons_self ..)) declared).1
      have single {test : Op → Bool} {id : OpId} {op : Op} (atId : lib.opAt id = .ok op) (passed : test op = true) :
          (Closure.insertNew w.closure.order (.op id)).filterMap (lib.opWhere? test) =
            Closure.insertNew (w.closure.order.filterMap (lib.opWhere? test)) id :=
        Closure.filterMap_insertNew_some (Library.opWhere?_eq_some_iff.mpr ⟨rfl, op, atId, passed⟩)
          fun _ found => (Library.opWhere?_eq_some_iff.mp found).1
      cases task with
      | addType id =>
        refine ⟨?_, (Closure.filterMap_insertNew_none rfl).trans constants,
          (Closure.filterMap_insertNew_none rfl).trans globals⟩
        have kept : NodeRef.type? (.type id) = some id := rfl
        refine (Closure.filterMap_insertNew_some kept fun _ => NodeRef.type?_eq_some_iff.mp).trans ?_
        exact congrArg (Closure.insertNew · id) types
      | addConstant id =>
        obtain ⟨_, op, atId, isConstant⟩ := Library.declares_addConstant_iff.mp (declares rfl)
        refine ⟨(Closure.filterMap_insertNew_none rfl).trans types, (single atId isConstant).trans ?_, ?_⟩
        · exact congrArg (Closure.insertNew · id) constants
        · exact (Closure.filterMap_insertNew_none (Library.opWhere?_eq_none atId (by simp [isConstant]))).trans globals
      | addGlobal id =>
        obtain ⟨_, op, atId, isVariable, _⟩ := Library.declares_addGlobal_iff.mp (declares rfl)
        have noConstant : op.opcode.isConstant = false := by rw [isVariable]; rfl
        refine ⟨(Closure.filterMap_insertNew_none rfl).trans types, ?_, (single atId (by simp [noConstant])).trans ?_⟩
        · exact (Closure.filterMap_insertNew_none (Library.opWhere?_eq_none atId noConstant)).trans constants
        · exact congrArg (Closure.insertNew · id) globals
      | _ => exact ⟨types, constants, globals⟩

theorem Collecting.consistent {past : List Task} {w : Walk} (collecting : Collecting lib roots ⟨past, w, []⟩) :
    w.closure.Consistent lib := by
  obtain ⟨types, constants, globals⟩ := collecting.order_parts
  have once : w.closure.order.Nodup := collecting.order_nodup
  have reaches := collecting.isReachablePart
  have single {ι : Type} {pick : NodeRef → Option ι} {node : ι → NodeRef}
      (only : ∀ source id, pick source = some id → source = node id) : (w.closure.order.filterMap pick).Nodup := by
    refine once.filterMap fun source other id found again => ?_
    rw [only source id found, only other id again]
  have ofOps (test : Op → Bool) : (w.closure.order.filterMap (lib.opWhere? test)).Nodup :=
    single fun _ _ found => (Library.opWhere?_eq_some_iff.mp found).1
  have mem_ops (test : Op → Bool) {id : OpId} (member : id ∈ w.closure.order.filterMap (lib.opWhere? test)) :
      ∃ op, lib.opAt id = .ok op ∧ test op = true := by
    obtain ⟨_, _, found⟩ := List.mem_filterMap.mp member
    exact (Library.opWhere?_eq_some_iff.mp found).2
  exact {
    types_nodup := types ▸ single fun _ _ => NodeRef.type?_eq_some_iff.mp
    functions_nodup := collecting.functions_imports_nodup.1
    constants_nodup := constants ▸ ofOps _
    globals_nodup := globals ▸ ofOps _
    imports_nodup := collecting.functions_imports_nodup.2
    order_nodup := once
    capabilities_nodup := collecting.capabilities_nodup
    initializers_nodup := collecting.initializers_nodup
    disjoint := by
      rw [← constants, ← globals]
      intro id isConstant isGlobal
      obtain ⟨op, atId, yes⟩ := mem_ops _ isConstant
      obtain ⟨_, again, no⟩ := mem_ops _ isGlobal
      cases atId.symm.trans again
      simp [yes] at no
    types := types
    constants := constants
    globals := globals
    only := by
      intro node member
      rcases (reaches.order node).mp member with ⟨id, _, rfl⟩ | ⟨id, listed, rfl⟩ | ⟨id, listed, rfl⟩
      · exact .inl ⟨id, rfl⟩
      · obtain ⟨_, op, atId, _⟩ := (reaches.constants id).mp listed
        exact .inr ⟨id, op, rfl, atId⟩
      · obtain ⟨_, op, atId, _⟩ := (reaches.globals id).mp listed
        exact .inr ⟨id, op, rfl, atId⟩
    initializers := by
      intro function listed
      obtain ⟨id, op, reachable, atId, declares, recorded⟩ := (reaches.initializers function).mp listed
      exact (reaches.functions function).mpr (reachable.link (.initializer atId declares recorded)) }

/-- Whatever roots are collected, one after another, the lists of the closure agree. -/
theorem Walk.collect_consistent {given : List (Option NodeRef)} {w : Walk}
    (finished : given.foldlM (Walk.collect lib) {} = .ok w) : w.closure.Consistent lib := by
  obtain ⟨past, collecting⟩ := Collecting.start.of_foldlM finished
  exact collecting.consistent

/-- A struct owns a function that stores a constant in a variable. The variable starts with that constant
and has an initializer too. -/
def Library.primed : Library where
  types := #[
    { name := "S", shape := { kind := .struct }, functions := [⟨0⟩] },
    { name := "void", shape := { kind := .void } },
    { name := "fn() -> void", shape := { kind := .function, component := some ⟨1⟩ } },
    { name := "f32", shape := { kind := .float 32 }, pointer := some ⟨4⟩ },
    { name := "ptr<Private, f32>", shape := { kind := .pointer .priv, dereference := some ⟨3⟩ } }]
  functions := #[
    { name := "main", functionType := ⟨2⟩, parameterBlock := ⟨0⟩, blocks := [⟨1⟩], executionModel := none },
    { name := "start", functionType := ⟨2⟩, parameterBlock := ⟨0⟩, blocks := [⟨2⟩], executionModel := none }]
  blocks := #[⟨[], []⟩, ⟨[⟨2⟩, ⟨3⟩, ⟨4⟩], []⟩, ⟨[⟨4⟩], []⟩]
  ops := #[
    { opcode := .opConstant, resultType := some ⟨3⟩, args := [.literal ⟨1⟩] },
    { opcode := .opVariable, resultType := some ⟨4⟩, args := [.literal ⟨0⟩, .op ⟨0⟩] },
    { opcode := .opImageQuerySize, resultType := some ⟨3⟩, args := [.op ⟨1⟩] },
    { opcode := .opExtInst, resultType := some ⟨3⟩, args := [.extImport ⟨0⟩, .literal ⟨2⟩, .op ⟨0⟩] },
    { opcode := .opStore, resultType := none, args := [.op ⟨1⟩, .op ⟨0⟩] }]
  literals := #[.int 6, .float 0x3F800000, .int 4]
  imports := #[⟨"GLSL.std.450"⟩]
  globals := .ofList [(⟨1⟩, ⟨some ⟨1⟩⟩)]

theorem Library.primed_consistent :
    ∃ w, [none, some (.type ⟨3⟩), some (.type ⟨0⟩)].foldlM (Walk.collect primed) {} = .ok w ∧
      w.closure.constants = [⟨0⟩] ∧ w.closure.globals = [⟨1⟩] ∧ w.closure.initializers = [⟨1⟩] ∧
      w.closure.Consistent primed := by
  have found : (fun w => (w.closure.constants, w.closure.globals, w.closure.initializers)) <$>
      [none, some (.type ⟨3⟩), some (.type ⟨0⟩)].foldlM (Walk.collect primed) {} =
        .ok ([⟨0⟩], [⟨1⟩], [⟨1⟩]) := by decide +kernel
  obtain ⟨w, finished, lists⟩ := Outcome.map_eq_ok_iff.mp found
  simp only [Prod.mk.injEq] at lists
  exact ⟨w, finished, lists.1, lists.2.1, lists.2.2, Walk.collect_consistent finished⟩

end ShaderGraph
