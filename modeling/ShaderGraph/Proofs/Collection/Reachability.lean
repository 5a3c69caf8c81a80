import ShaderGraph.Proofs.Collection.Moment

namespace ShaderGraph

open Spirv

/-- A node is reachable if it is a root or links lead to it from one. -/
def Library.Reachable (lib : Library) (roots : List NodeRef) (node : NodeRef) : Prop :=
  ∃ root ∈ roots, Relation.ReflTransGen lib.Link root node

namespace Spirv.Opcode

/-- The instructions that declare constants. -/
def constants : List Opcode :=
  [.opConstant, .opConstantComposite, .opConstantTrue, .opConstantFalse, .opConstantNull, .opSpecConstant,
    .opSpecConstantComposite, .opSpecConstantTrue, .opSpecConstantFalse]

/-- The instructions that not every shader can do. -/
def imageQueries : List Opcode := [.opImageQuerySizeLod, .opImageQuerySize, .opImageQueryLod, .opImageQueryLevels]

theorem isConstant_iff {opcode : Opcode} : opcode.isConstant = true ↔ opcode ∈ constants := by
  cases opcode <;> decide

theorem requiredCapability?_eq_some_iff {opcode : Opcode} {capability : Capability} :
    opcode.requiredCapability? = some capability ↔ capability = .imageQuery ∧ opcode ∈ imageQueries := by
  have spelled : opcode.requiredCapability? = if opcode ∈ imageQueries then some .imageQuery else none := by
    cases opcode <;> rfl
  by_cases query : opcode ∈ imageQueries
  · simp [spelled, query, eq_comm]
  · simp [spelled, query]

end Spirv.Opcode

/-- A closure holds exactly what can be reached from roots: nothing that is reachable is missing and
nothing else is there. -/
structure Closure.IsReachablePart (c : Closure) (lib : Library) (roots : List NodeRef) : Prop where
  types : ∀ id, id ∈ c.types ↔ lib.Reachable roots (.type id)
  functions : ∀ id, id ∈ c.functions ↔ lib.Reachable roots (.function id)
  imports : ∀ id, id ∈ c.imports ↔ lib.Reachable roots (.extImport id)
  constants : ∀ id, id ∈ c.constants ↔ lib.Reachable roots (.op id) ∧
    ∃ op, lib.opAt id = .ok op ∧ op.opcode ∈ Opcode.constants
  globals : ∀ id, id ∈ c.globals ↔ lib.Reachable roots (.op id) ∧
    ∃ op, lib.opAt id = .ok op ∧ lib.DeclaresGlobal op
  order : ∀ node, node ∈ c.order ↔
    (∃ id ∈ c.types, node = .type id) ∨ (∃ id ∈ c.constants, node = .op id) ∨
      ∃ id ∈ c.globals, node = .op id
  capabilities : ∀ capability, capability ∈ c.capabilities ↔ capability = .shader ∨ capability = .imageQuery ∧
    ∃ id op, lib.Reachable roots (.op id) ∧ lib.opAt id = .ok op ∧ op.opcode ∈ Opcode.imageQueries
  initializers : ∀ function, function ∈ c.initializers ↔
    ∃ id op, lib.Reachable roots (.op id) ∧ lib.opAt id = .ok op ∧ lib.DeclaresGlobal op ∧
      lib.initializer? id = some function

variable {lib : Library}

theorem Library.Reachable.root {roots : List NodeRef} {node : NodeRef} (member : node ∈ roots) :
    lib.Reachable roots node :=
  ⟨node, member, .refl⟩

theorem Library.Reachable.link {roots : List NodeRef} {node target : NodeRef}
    (reachable : lib.Reachable roots node) (link : lib.Link node target) : lib.Reachable roots target := by
  obtain ⟨root, member, path⟩ := reachable
  exact ⟨root, member, path.tail link⟩

theorem Library.Reachable.eq_or_link {root node : NodeRef} (reachable : lib.Reachable [root] node) :
    node = root ∨ ∃ source, lib.Link source node := by
  obtain ⟨start, member, path⟩ := reachable
  cases List.mem_singleton.mp member
  cases path with
  | refl => exact .inl rfl
  | tail _ link => exact .inr ⟨_, link⟩

theorem Library.Reachable.mono {roots more : List NodeRef} {node : NodeRef}
    (reachable : lib.Reachable roots node) (included : roots ⊆ more) : lib.Reachable more node := by
  obtain ⟨root, member, path⟩ := reachable
  exact ⟨root, included member, path⟩

/-- Nothing is looked at that cannot be reached. -/
theorem Collecting.reachable {roots : List NodeRef} {moment : Moment} (collecting : Collecting lib roots moment)
    {node : NodeRef} (member : .visit node ∈ moment.past ∨ .visit node ∈ moment.pending) :
    lib.Reachable roots node := by
  induction collecting generalizing node with
  | start => simp at member
  | root root _ ih =>
    obtain old | now := member
    · exact (ih (.inl old)).mono (List.subset_append_left ..)
    · cases List.mem_singleton.mp now
      exact .root (List.mem_append_right _ (List.mem_singleton_self _))
  | step _ step ih =>
    cases step with
    | skip entered => exact ih (member.imp_right (List.mem_cons_of_mem _))
    | @enter past w source steps rest fresh found =>
      have reachable : lib.Reachable _ source := ih (.inr (List.mem_cons_self ..))
      simp only [List.mem_cons, List.mem_append] at member
      obtain (same | old) | inside | later := member
      · cases same
        exact reachable
      · exact ih (.inl old)
      · exact reachable.link ((Library.visit_mem_tasks_iff found).mp inside)
      · exact ih (.inr (List.mem_cons_of_mem _ later))
    | record other =>
      simp only [List.mem_cons] at member
      obtain (same | old) | later := member
      · exact absurd same.symm (other node)
      · exact ih (.inl old)
      · exact ih (.inr (List.mem_cons_of_mem _ later))

/-- Once nothing is pending, the nodes visited are the reachable ones. -/
theorem Collecting.visit_mem_iff {roots : List NodeRef} {past : List Task} {w : Walk}
    (collecting : Collecting lib roots ⟨past, w, []⟩) {node : NodeRef} :
    .visit node ∈ past ↔ lib.Reachable roots node := by
  constructor
  · exact fun visited => collecting.reachable (.inl visited)
  · rintro ⟨root, member, path⟩
    induction path with
    | refl => exact (collecting.root_covered member).resolve_right List.not_mem_nil
    | tail _ link ih =>
      obtain ⟨steps, found, all⟩ := collecting.covered ih
      have asked := (Library.visit_mem_tasks_iff found).mpr link
      exact (all _ asked).resolve_right List.not_mem_nil

/-- Once nothing is pending, what was recorded is what the reachable nodes ask for. -/
theorem Collecting.recorded_mem_iff {roots : List NodeRef} {past : List Task} {w : Walk}
    (collecting : Collecting lib roots ⟨past, w, []⟩) {task : Task} (recorded : ∀ node, task ≠ .visit node) :
    task ∈ past ↔ ∃ node steps, lib.Reachable roots node ∧ lib.tasks node = .ok steps ∧ task ∈ steps := by
  constructor
  · intro member
    obtain ⟨root, _, same⟩ | ⟨node, steps, visited, found, inside⟩ := collecting.origin (.inl member)
    · exact absurd same (recorded root)
    · exact ⟨node, steps, collecting.visit_mem_iff.mp visited, found, inside⟩
  · rintro ⟨node, steps, reachable, found, inside⟩
    obtain ⟨others, found', all⟩ := collecting.covered (collecting.visit_mem_iff.mpr reachable)
    cases found.symm.trans found'
    exact (all _ inside).resolve_right List.not_mem_nil

theorem Collecting.declared_mem_iff {roots : List NodeRef} {past : List Task} {w : Walk}
    (collecting : Collecting lib roots ⟨past, w, []⟩) {task : Task} {node : NodeRef}
    (declared : task.declared? = some node) :
    task ∈ past ↔ lib.Reachable roots node ∧ lib.Declares node task := by
  have recorded : ∀ target, task ≠ .visit target := by
    rintro target rfl
    cases declared
  rw [collecting.recorded_mem_iff recorded]
  constructor
  · rintro ⟨source, steps, reachable, found, inside⟩
    have declares := Library.declares_of_mem_tasks found inside declared
    cases declares.declared?_eq.symm.trans declared
    exact ⟨reachable, declares⟩
  · rintro ⟨reachable, declares⟩
    obtain ⟨steps, found, _⟩ := collecting.covered (collecting.visit_mem_iff.mpr reachable)
    obtain ⟨before, after, rfl, _⟩ := Library.tasks_split_declaration found declares
    exact ⟨node, _, reachable, found, by simp⟩

theorem Library.declares_addConstant_iff {node : NodeRef} {id : OpId} :
    lib.Declares node (.addConstant id) ↔
      node = .op id ∧ ∃ op, lib.opAt id = .ok op ∧ op.opcode.isConstant = true := by
  constructor
  · rintro ⟨⟩
    exact ⟨rfl, _, ‹_›, ‹_›⟩
  · rintro ⟨rfl, op, atId, isConstant⟩
    exact .constant atId isConstant

theorem Library.declares_addGlobal_iff {node : NodeRef} {id : OpId} :
    lib.Declares node (.addGlobal id) ↔
      node = .op id ∧ ∃ op, lib.opAt id = .ok op ∧ lib.DeclaresGlobal op := by
  constructor
  · rintro ⟨⟩
    exact ⟨rfl, _, ‹_›, ‹_›⟩
  · rintro ⟨rfl, op, atId, declares⟩
    exact .globalVariable atId declares

/-- The order holds what was declared, under whichever of the three lists it is kept. -/
theorem Collecting.mem_order_iff {roots : List NodeRef} {moment : Moment}
    (collecting : Collecting lib roots moment) {node : NodeRef} :
    node ∈ moment.walk.closure.order ↔
      (∃ id ∈ moment.walk.closure.types, node = .type id) ∨
        (∃ id ∈ moment.walk.closure.constants, node = .op id) ∨
          ∃ id ∈ moment.walk.closure.globals, node = .op id := by
  have types (id : TypeId) : id ∈ moment.walk.closure.types ↔ .addType id ∈ moment.past :=
    collecting.shows_iff_mem (.addType id) rfl (by simp)
  have constants (id : OpId) : id ∈ moment.walk.closure.constants ↔ .addConstant id ∈ moment.past :=
    collecting.shows_iff_mem (.addConstant id) rfl (by simp)
  have globals (id : OpId) : id ∈ moment.walk.closure.globals ↔ .addGlobal id ∈ moment.past :=
    collecting.shows_iff_mem (.addGlobal id) rfl (by simp)
  simp only [types, constants, globals, collecting.order_eq, List.mem_reverse, List.mem_filterMap]
  constructor
  · rintro ⟨task, member, declared⟩
    cases task with
    | addType id => cases declared; exact .inl ⟨id, member, rfl⟩
    | addConstant id => cases declared; exact .inr (.inl ⟨id, member, rfl⟩)
    | addGlobal id => cases declared; exact .inr (.inr ⟨id, member, rfl⟩)
    | visit => cases declared
    | require => cases declared
    | addInitializer => cases declared
  · rintro (⟨id, member, rfl⟩ | ⟨id, member, rfl⟩ | ⟨id, member, rfl⟩)
    · exact ⟨_, member, rfl⟩
    · exact ⟨_, member, rfl⟩
    · exact ⟨_, member, rfl⟩

theorem Collecting.isReachablePart {roots : List NodeRef} {past : List Task} {w : Walk}
    (collecting : Collecting lib roots ⟨past, w, []⟩) : w.closure.IsReachablePart lib roots where
  types id := by
    refine (collecting.shows_iff_mem (.addType id) rfl (by simp)).trans ?_
    refine (collecting.declared_mem_iff rfl).trans (and_iff_left ?_)
    exact .type
  functions id := by
    refine (collecting.shows_iff_mem (.visit (.function id)) rfl (by simp)).trans ?_
    exact collecting.visit_mem_iff
  imports id := by
    refine (collecting.shows_iff_mem (.visit (.extImport id)) rfl (by simp)).trans ?_
    exact collecting.visit_mem_iff
  constants id := by
    refine (collecting.shows_iff_mem (.addConstant id) rfl (by simp)).trans ?_
    refine (collecting.declared_mem_iff rfl).trans (and_congr_right fun _ => ?_)
    simp [Library.declares_addConstant_iff, Opcode.isConstant_iff]
  globals id := by
    refine (collecting.shows_iff_mem (.addGlobal id) rfl (by simp)).trans ?_
    refine (collecting.declared_mem_iff rfl).trans (and_congr_right fun _ => ?_)
    simp [Library.declares_addGlobal_iff]
  order _ := collecting.mem_order_iff
  capabilities capability := by
    refine (collecting.shows_iff (.require capability) rfl).trans ?_
    rw [collecting.recorded_mem_iff (by simp), or_comm, Task.require.injEq]
    refine or_congr_right ⟨?_, ?_⟩
    · rintro ⟨node, steps, reachable, found, inside⟩
      obtain ⟨id, op, rfl, atId, required⟩ := (Library.require_mem_tasks_iff found).mp inside
      obtain ⟨same, query⟩ := Opcode.requiredCapability?_eq_some_iff.mp required
      exact ⟨same, id, op, reachable, atId, query⟩
    · rintro ⟨same, id, op, reachable, atId, query⟩
      have required := Opcode.requiredCapability?_eq_some_iff.mpr ⟨same, query⟩
      obtain ⟨steps, found, _⟩ := collecting.covered (collecting.visit_mem_iff.mpr reachable)
      exact ⟨_, steps, reachable, found,
        (Library.require_mem_tasks_iff found).mpr ⟨id, op, rfl, atId, required⟩⟩
  initializers function := by
    refine (collecting.shows_iff_mem (.addInitializer function) rfl (by simp)).trans ?_
    rw [collecting.recorded_mem_iff (by simp)]
    constructor
    · rintro ⟨node, steps, reachable, found, inside⟩
      obtain ⟨id, op, rfl, known⟩ := (Library.addInitializer_mem_tasks_iff found).mp inside
      exact ⟨id, op, reachable, known⟩
    · rintro ⟨id, op, reachable, known⟩
      obtain ⟨steps, found, _⟩ := collecting.covered (collecting.visit_mem_iff.mpr reachable)
      exact ⟨_, steps, reachable, found,
        (Library.addInitializer_mem_tasks_iff found).mpr ⟨id, op, rfl, known⟩⟩

/-- Collecting roots one after another, missing ones left out, finds exactly what they reach, whatever
cycles the library has. -/
theorem Walk.collect_isReachablePart {roots : List (Option NodeRef)} {w : Walk}
    (finished : roots.foldlM (Walk.collect lib) {} = .ok w) :
    w.closure.IsReachablePart lib roots.reduceOption := by
  obtain ⟨past, collecting⟩ := Collecting.start.of_foldlM finished
  exact collecting.isReachablePart

/-- A struct that holds pointers to itself and owns a function that reads a variable of its kind. -/
def Library.ring : Library where
  types := #[
    { name := "Node", shape := { kind := .struct, parameters := [.type ⟨1⟩] }, pointer := some ⟨1⟩,
      functions := [⟨0⟩] },
    { name := "ptr<Private, Node>", shape := { kind := .pointer .priv, dereference := some ⟨0⟩ } },
    { name := "void", shape := { kind := .void } },
    { name := "fn() -> void", shape := { kind := .function, component := some ⟨2⟩ } }]
  functions := #[
    { name := "read", functionType := ⟨3⟩, parameterBlock := ⟨0⟩, blocks := [⟨1⟩], executionModel := none }]
  blocks := #[⟨[], []⟩, ⟨[⟨1⟩], []⟩]
  ops := #[
    { opcode := .opVariable, resultType := some ⟨1⟩, args := [.literal ⟨0⟩] },
    { opcode := .opLoad, resultType := some ⟨0⟩, args := [.op ⟨0⟩] }]
  literals := #[.int 6]

/-- A node of a scene points to itself, and draws what it holds: an image, of which it asks for the size, and a
constant, which it rounds with an imported instruction. -/
def Library.scene : Library where
  types := #[
    { name := "Scene", shape := { kind := .struct, parameters := [.type ⟨1⟩] }, pointer := some ⟨1⟩,
      functions := [⟨0⟩] },
    { name := "ptr<Private, Scene>", shape := { kind := .pointer .priv, dereference := some ⟨0⟩ } },
    { name := "void", shape := { kind := .void } },
    { name := "fn() -> void", shape := { kind := .function, component := some ⟨2⟩ } },
    { name := "f32", shape := { kind := .float 32 } },
    { name := "image", shape := { kind := .image ⟨1, rfl⟩ 0 false false 1, component := some ⟨4⟩ } },
    { name := "ptr<UniformConstant, image>",
      shape := { kind := .pointer .uniformConstant, dereference := some ⟨5⟩ } },
    { name := "i32", shape := { kind := .int 32 true } },
    { name := "bool", shape := { kind := .bool } }]
  functions := #[
    { name := "draw", functionType := ⟨3⟩, parameterBlock := ⟨0⟩, blocks := [⟨1⟩], executionModel := none }]
  blocks := #[⟨[], []⟩, ⟨[⟨1⟩, ⟨2⟩, ⟨4⟩], []⟩]
  ops := #[
    { opcode := .opVariable, resultType := some ⟨6⟩, args := [.literal ⟨0⟩] },
    { opcode := .opLoad, resultType := some ⟨5⟩, args := [.op ⟨0⟩] },
    { opcode := .opImageQuerySize, resultType := some ⟨7⟩, args := [.op ⟨1⟩] },
    { opcode := .opConstant, resultType := some ⟨4⟩, args := [.literal ⟨1⟩] },
    { opcode := .opExtInst, resultType := some ⟨4⟩, args := [.extImport ⟨0⟩, .literal ⟨2⟩, .op ⟨3⟩] },
    { opcode := .opConstantTrue, resultType := some ⟨8⟩, args := [] }]
  imports := #[⟨"GLSL.std.450"⟩, ⟨"OpenCL.std"⟩]
  literals := #[.int 0, .float 0x3FC00000, .int 1]

theorem Library.scene_isReachablePart :
    ∃ w, [none, some (.type ⟨0⟩), some (.op ⟨4⟩)].foldlM (Walk.collect scene) {} = .ok w ∧
      w.closure.types = [⟨1⟩, ⟨0⟩, ⟨2⟩, ⟨3⟩, ⟨4⟩, ⟨5⟩, ⟨6⟩, ⟨7⟩] ∧ w.closure.functions = [⟨0⟩] ∧
      w.closure.constants = [⟨3⟩] ∧ w.closure.globals = [⟨0⟩] ∧ w.closure.imports = [⟨0⟩] ∧
      w.closure.capabilities = [.shader, .imageQuery] ∧ w.closure.IsReachablePart scene [.type ⟨0⟩, .op ⟨4⟩] := by
  have found : (fun w => w.closure) <$> [none, some (.type ⟨0⟩), some (.op ⟨4⟩)].foldlM (Walk.collect scene) {} =
      .ok { types := [⟨1⟩, ⟨0⟩, ⟨2⟩, ⟨3⟩, ⟨4⟩, ⟨5⟩, ⟨6⟩, ⟨7⟩], functions := [⟨0⟩], constants := [⟨3⟩],
            globals := [⟨0⟩], imports := [⟨0⟩], capabilities := [.shader, .imageQuery],
            order := [.type ⟨1⟩, .type ⟨0⟩, .type ⟨2⟩, .type ⟨3⟩, .type ⟨4⟩, .type ⟨5⟩, .type ⟨6⟩, .op ⟨0⟩, .type ⟨7⟩,
              .op ⟨3⟩] } := by
    decide +kernel
  obtain ⟨w, finished, collected⟩ := Outcome.map_eq_ok_iff.mp found
  refine ⟨w, finished, ?_, ?_, ?_, ?_, ?_, ?_, Walk.collect_isReachablePart finished⟩
  all_goals rw [collected]

end ShaderGraph
