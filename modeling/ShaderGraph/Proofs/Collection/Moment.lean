import Mathlib.Data.List.Nodup
import Mathlib.Data.List.ReduceOption
import ShaderGraph.Proofs.Collection.Link

namespace ShaderGraph

open Spirv

/-- A moment of a walk: what has been carried out, the newest first, what has been found, and what
is still to be done. -/
structure Moment where
  past : List Task
  walk : Walk
  pending : List Task

/-- One task of a walk. A node that was entered before is passed over and leaves no mark. -/
inductive Moment.Step (lib : Library) : Moment → Moment → Prop
  | skip {past w node rest} : w.hasEntered node = true →
      Step lib ⟨past, w, .visit node :: rest⟩ ⟨past, w, rest⟩
  | enter {past w node steps rest} : w.hasEntered node = false → lib.tasks node = .ok steps →
      Step lib ⟨past, w, .visit node :: rest⟩ ⟨.visit node :: past, w.enter node, steps ++ rest⟩
  | record {past w task rest} : (∀ node, task ≠ .visit node) →
      Step lib ⟨past, w, task :: rest⟩ ⟨task :: past, w.record task, rest⟩

/-- The moments of a walk that is given its roots one after another. -/
inductive Collecting (lib : Library) : List NodeRef → Moment → Prop
  | start : Collecting lib [] ⟨[], {}, []⟩
  | root {roots past w} (node : NodeRef) : Collecting lib roots ⟨past, w, []⟩ →
      Collecting lib (roots ++ [node]) ⟨past, w, [.visit node]⟩
  | step {roots before after} : Collecting lib roots before → Moment.Step lib before after →
      Collecting lib roots after

variable {lib : Library}

theorem Collecting.steps {roots : List NodeRef} {before after : Moment}
    (collecting : Collecting lib roots before)
    (steps : Relation.ReflTransGen (Moment.Step lib) before after) : Collecting lib roots after := by
  induction steps with
  | refl => exact collecting
  | tail _ step ih => exact ih.step step

/-- A walk that ends went through single tasks. -/
theorem Walk.run_steps {w result : Walk} {tasks : List Task} (finished : Walk.run lib w tasks = .ok result)
    (past : List Task) :
    ∃ later, Relation.ReflTransGen (Moment.Step lib) ⟨past, w, tasks⟩ ⟨later, result, []⟩ := by
  fun_induction Walk.run lib w tasks generalizing past with
  | case1 w =>
    cases finished
    exact ⟨past, .refl⟩
  | case2 w node rest entered ih =>
    obtain ⟨later, steps⟩ := ih finished past
    exact ⟨later, steps.head (.skip entered)⟩
  | case3 => cases finished
  | case4 w node rest fresh steps found ih =>
    obtain ⟨later, others⟩ := ih finished (.visit node :: past)
    exact ⟨later, others.head (.enter (by simpa using fresh) found)⟩
  | case5 w task rest other ih =>
    obtain ⟨later, steps⟩ := ih finished (task :: past)
    exact ⟨later, steps.head (.record other)⟩

theorem Moment.Step.run_eq {before after : Moment} (step : Moment.Step lib before after) :
    Walk.run lib before.walk before.pending = Walk.run lib after.walk after.pending := by
  cases step with
  | skip entered => rw [Walk.run, dif_pos entered]
  | enter fresh found =>
    rw [Walk.run, dif_neg (by simp [fresh])]
    split
    · next missing => cases missing.symm.trans found
    · next found' => cases found'.symm.trans found; rfl
  | record recorded =>
    rw [Walk.run]
    exact recorded

theorem Collecting.collect {roots : List NodeRef} {past : List Task} {w result : Walk}
    (collecting : Collecting lib roots ⟨past, w, []⟩) {root : Option NodeRef}
    (finished : Walk.collect lib w root = .ok result) :
    ∃ later, Collecting lib (roots ++ root.toList) ⟨later, result, []⟩ := by
  cases root with
  | none =>
    cases finished
    exact ⟨past, by simpa using collecting⟩
  | some node =>
    obtain ⟨_, _, run⟩ := Outcome.bind_eq_ok_iff.mp finished
    obtain ⟨later, steps⟩ := Walk.run_steps run past
    exact ⟨later, (collecting.root node).steps steps⟩

/-- Giving the roots one by one goes through the moments of a walk. -/
theorem Collecting.of_foldlM {known : List NodeRef} {roots : List (Option NodeRef)} {past : List Task}
    {w result : Walk} (collecting : Collecting lib known ⟨past, w, []⟩)
    (finished : roots.foldlM (Walk.collect lib) w = .ok result) :
    ∃ later, Collecting lib (known ++ roots.reduceOption) ⟨later, result, []⟩ := by
  induction roots generalizing known past w with
  | nil =>
    cases finished
    exact ⟨past, by simpa using collecting⟩
  | cons root rest ih =>
    obtain ⟨between, first, others⟩ := Outcome.bind_eq_ok_iff.mp finished
    obtain ⟨middle, reached⟩ := collecting.collect first
    obtain ⟨later, final⟩ := ih reached others
    refine ⟨later, ?_⟩
    cases root <;> simpa using final

theorem Collecting.of_dependencies {root : NodeRef} {c : Closure} (found : lib.dependencies root = .ok c) :
    ∃ past w, Collecting lib [root] ⟨past, w, []⟩ ∧ w.closure = c := by
  obtain ⟨w, finished, same⟩ := Outcome.bind_eq_ok_iff.mp found
  obtain ⟨past, collecting⟩ := Collecting.start.collect finished
  exact ⟨past, w, collecting, Outcome.pure_eq_ok_iff.mp same⟩

/-- What a walk keeps of a task that was carried out. -/
def Walk.Shows (w : Walk) : Task → Prop
  | .visit (.type id) => id ∈ w.types
  | .visit (.op id) => id ∈ w.ops
  | .visit (.function id) => id ∈ w.closure.functions
  | .visit (.extImport id) => id ∈ w.closure.imports
  | .visit (.block _) | .visit (.literal _) => False
  | .addType id => id ∈ w.closure.types
  | .addConstant id => id ∈ w.closure.constants
  | .addGlobal id => id ∈ w.closure.globals
  | .require capability => capability ∈ w.closure.capabilities
  | .addInitializer id => id ∈ w.closure.initializers

/-- Whether a task leaves a trace. Blocks and literals are visited without one. -/
def Task.isKept : Task → Bool
  | .visit (.block _) | .visit (.literal _) => false
  | _ => true

theorem Walk.shows_enter {w : Walk} {node : NodeRef} {task : Task} (kept : task.isKept = true) :
    (w.enter node).Shows task ↔ w.Shows task ∨ task = .visit node := by
  cases task with
  | visit target =>
    cases node <;> cases target <;>
      simp_all [Walk.Shows, Walk.enter, Task.isKept, Closure.addFunction, Closure.addImport,
        Walk.insertNew_mem, or_comm]
  | _ => cases node <;> simp [Walk.Shows, Walk.enter, Closure.addFunction, Closure.addImport]

theorem Walk.shows_record {w : Walk} {done task : Task} (recorded : ∀ node, done ≠ .visit node) :
    (w.record done).Shows task ↔ w.Shows task ∨ task = done := by
  cases done with
  | visit node => exact absurd rfl (recorded node)
  | _ =>
    cases task with
    | visit target =>
      cases target <;>
        simp [Walk.Shows, Walk.record, Closure.addType, Closure.addConstant, Closure.addGlobal,
          Closure.addCapability, Closure.addInitializer]
    | _ =>
      simp [Walk.Shows, Walk.record, Closure.addType, Closure.addConstant, Closure.addGlobal,
        Closure.addCapability, Closure.addInitializer, Walk.insertNew_mem]

theorem Walk.hasEntered_iff {w : Walk} {node : NodeRef} :
    w.hasEntered node = true ↔ w.Shows (.visit node) ∧ ∀ id, node ≠ .extImport id := by
  cases node <;> simp [Walk.hasEntered, Walk.Shows]

/-- A walk keeps exactly what was carried out, and from the start the capability of all shaders. -/
theorem Collecting.shows_iff {roots : List NodeRef} {moment : Moment} (collecting : Collecting lib roots moment)
    (task : Task) (kept : task.isKept = true) :
    moment.walk.Shows task ↔ task ∈ moment.past ∨ task = .require .shader := by
  induction collecting with
  | start =>
    cases task with
    | visit node => cases node <;> simp [Walk.Shows]
    | _ => simp [Walk.Shows]
  | root node _ ih => exact ih
  | step _ step ih =>
    cases step with
    | skip entered => exact ih
    | enter fresh found =>
      rw [Walk.shows_enter kept, ih, List.mem_cons]
      tauto
    | record other =>
      rw [Walk.shows_record other, ih, List.mem_cons]
      tauto

theorem Collecting.shows_iff_mem {roots : List NodeRef} {moment : Moment}
    (collecting : Collecting lib roots moment) (task : Task) (kept : task.isKept = true)
    (given : ∀ capability, task ≠ .require capability) : moment.walk.Shows task ↔ task ∈ moment.past := by
  rw [collecting.shows_iff task kept, or_iff_left (given .shader)]

theorem Collecting.visit_mem_past {roots : List NodeRef} {moment : Moment}
    (collecting : Collecting lib roots moment) {node : NodeRef}
    (entered : moment.walk.hasEntered node = true) : .visit node ∈ moment.past := by
  have shown := (Walk.hasEntered_iff.mp entered).1
  have kept : (Task.visit node).isKept = true := by
    cases node <;> first | rfl | exact shown.elim
  exact (collecting.shows_iff_mem _ kept (by simp)).mp shown

/-- What was carried out and what is pending was asked for as a root or by a node entered before. -/
theorem Collecting.origin {roots : List NodeRef} {moment : Moment} (collecting : Collecting lib roots moment)
    {task : Task} (member : task ∈ moment.past ∨ task ∈ moment.pending) :
    (∃ root ∈ roots, task = .visit root) ∨
      ∃ node steps, .visit node ∈ moment.past ∧ lib.tasks node = .ok steps ∧ task ∈ steps := by
  induction collecting with
  | start => simp at member
  | root node _ ih =>
    simp only [List.mem_singleton] at member
    obtain old | rfl := member
    · obtain ⟨root, known, same⟩ | earlier := ih (.inl old)
      · exact .inl ⟨root, List.mem_append_left _ known, same⟩
      · exact .inr earlier
    · exact .inl ⟨node, by simp, rfl⟩
  | @step known _ _ _ step ih =>
    cases step with
    | skip entered => exact ih (member.imp_right (List.mem_cons_of_mem _))
    | @enter past w node steps rest fresh found =>
      have older (old : task ∈ past ∨ task ∈ .visit node :: rest) :
          (∃ root ∈ known, task = .visit root) ∨
            ∃ source others, .visit source ∈ .visit node :: past ∧ lib.tasks source = .ok others ∧
              task ∈ others := by
        obtain root | ⟨source, others, done, atSource, inside⟩ := ih old
        · exact .inl root
        · exact .inr ⟨source, others, List.mem_cons_of_mem _ done, atSource, inside⟩
      simp only [List.mem_cons, List.mem_append] at member
      obtain (rfl | done) | inside | later := member
      · exact older (.inr (List.mem_cons_self ..))
      · exact older (.inl done)
      · exact .inr ⟨node, steps, List.mem_cons_self .., found, inside⟩
      · exact older (.inr (List.mem_cons_of_mem _ later))
    | @record past w done rest other =>
      have old : task ∈ past ∨ task ∈ done :: rest := by
        simp only [List.mem_cons] at member ⊢
        tauto
      obtain root | ⟨source, others, visited, atSource, inside⟩ := ih old
      · exact .inl root
      · exact .inr ⟨source, others, List.mem_cons_of_mem _ visited, atSource, inside⟩

/-- Whatever an entered node asks for has been carried out or is pending: a visit that is passed over
was made before. -/
theorem Collecting.covered {roots : List NodeRef} {moment : Moment} (collecting : Collecting lib roots moment)
    {node : NodeRef} (visited : .visit node ∈ moment.past) :
    ∃ steps, lib.tasks node = .ok steps ∧ ∀ task ∈ steps, task ∈ moment.past ∨ task ∈ moment.pending := by
  induction collecting with
  | start => cases visited
  | root root before ih =>
    obtain ⟨steps, found, all⟩ := ih visited
    refine ⟨steps, found, fun task inside => ?_⟩
    obtain done | waiting := all task inside
    · exact .inl done
    · cases waiting
  | step before step ih =>
    cases step with
    | @skip past w target rest entered =>
      obtain ⟨steps, found, all⟩ := ih visited
      refine ⟨steps, found, fun task inside => ?_⟩
      obtain done | waiting := all task inside
      · exact .inl done
      · obtain rfl | later := List.mem_cons.mp waiting
        · exact .inl (before.visit_mem_past entered)
        · exact .inr later
    | @enter past w target steps rest fresh found =>
      have same (old : .visit node ∈ past) : ∃ steps', lib.tasks node = .ok steps' ∧
          ∀ task ∈ steps', task ∈ .visit target :: past ∨ task ∈ steps ++ rest := by
        obtain ⟨others, atNode, all⟩ := ih old
        refine ⟨others, atNode, fun task inside => ?_⟩
        have kept := all task inside
        simp only [List.mem_cons, List.mem_append] at kept ⊢
        tauto
      obtain now | old := List.mem_cons.mp visited
      · cases now
        exact ⟨steps, found, fun task inside => .inr (List.mem_append_left _ inside)⟩
      · exact same old
    | @record past w done rest other =>
      obtain now | old := List.mem_cons.mp visited
      · exact absurd now.symm (other node)
      · obtain ⟨steps, found, all⟩ := ih old
        refine ⟨steps, found, fun task inside => ?_⟩
        have kept := all task inside
        simp only [List.mem_cons] at kept ⊢
        tauto

theorem Collecting.root_covered {roots : List NodeRef} {moment : Moment}
    (collecting : Collecting lib roots moment) {root : NodeRef} (member : root ∈ roots) :
    .visit root ∈ moment.past ∨ .visit root ∈ moment.pending := by
  induction collecting with
  | start => cases member
  | root node before ih =>
    obtain old | now := List.mem_append.mp member
    · obtain done | waiting := ih old
      · exact .inl done
      · cases waiting
    · exact .inr (by simpa using now)
  | step before step ih =>
    have kept := ih member
    cases step with
    | skip entered =>
      obtain done | waiting := kept
      · exact .inl done
      · obtain same | later := List.mem_cons.mp waiting
        · cases same
          exact .inl (before.visit_mem_past entered)
        · exact .inr later
    | enter fresh found =>
      simp only [List.mem_cons, List.mem_append] at kept ⊢
      tauto
    | record other =>
      simp only [List.mem_cons] at kept ⊢
      tauto

theorem Collecting.entered_of_declares {roots : List NodeRef} {moment : Moment}
    (collecting : Collecting lib roots moment) {node : NodeRef} {task : Task}
    (declares : lib.Declares node task) (visited : .visit node ∈ moment.past) :
    moment.walk.hasEntered node = true := by
  have kept : (Task.visit node).isKept = true := by cases declares <;> rfl
  refine Walk.hasEntered_iff.mpr ⟨(collecting.shows_iff_mem _ kept (by simp)).mpr visited, ?_⟩
  cases declares <;> simp

/-- A declaration that was made or is pending is one of a node that was entered. -/
theorem Collecting.declared_visited {roots : List NodeRef} {moment : Moment}
    (collecting : Collecting lib roots moment) {task : Task} {node : NodeRef}
    (member : task ∈ moment.past ∨ task ∈ moment.pending) (declared : task.declared? = some node) :
    lib.Declares node task ∧ .visit node ∈ moment.past := by
  obtain ⟨root, _, rfl⟩ | ⟨source, steps, visited, found, inside⟩ := collecting.origin member
  · cases declared
  · have declares := Library.declares_of_mem_tasks found inside declared
    cases declares.declared?_eq.symm.trans declared
    exact ⟨declares, visited⟩

theorem Library.filterMap_declared?_tasks {node : NodeRef} {steps : List Task}
    (found : lib.tasks node = .ok steps) :
    steps.filterMap Task.declared? = [] ∨
      steps.filterMap Task.declared? = [node] ∧ ∃ task, lib.Declares node task := by
  by_cases declaring : ∃ task, lib.Declares node task
  · obtain ⟨task, declares⟩ := declaring
    obtain ⟨before, after, rfl, _, early, late⟩ := Library.tasks_split_declaration found declares
    have noneEarly := List.filterMap_eq_nil_iff.mpr early
    have noneLate := List.filterMap_eq_nil_iff.mpr late
    refine .inr ⟨?_, task, declares⟩
    simp [declares.declared?_eq, noneEarly, noneLate]
  · refine .inl (List.filterMap_eq_nil_iff.mpr fun task inside => ?_)
    cases declared : task.declared? with
    | none => rfl
    | some target => exact absurd ⟨task, declares_of_mem_tasks found inside declared⟩ declaring

/-- No declaration is made twice. -/
theorem Collecting.declared_nodup {roots : List NodeRef} {moment : Moment}
    (collecting : Collecting lib roots moment) :
    ((moment.past ++ moment.pending).filterMap Task.declared?).Nodup := by
  induction collecting with
  | start => exact List.nodup_nil
  | root node _ ih => simpa using ih
  | step before step ih =>
    cases step with
    | skip entered => simpa using ih
    | @enter past w node steps rest fresh found =>
      have old : (past.filterMap Task.declared? ++ rest.filterMap Task.declared?).Nodup := by
        simpa using ih
      obtain empty | ⟨single, task, declares⟩ := Library.filterMap_declared?_tasks found
      · simpa [empty] using old
      · have absent : node ∉ past.filterMap Task.declared? ++ rest.filterMap Task.declared? := by
          rw [← List.filterMap_append]
          intro member
          obtain ⟨other, inside, declared⟩ := List.mem_filterMap.mp member
          have known : other ∈ past ∨ other ∈ .visit node :: rest :=
            (List.mem_append.mp inside).imp_right (List.mem_cons_of_mem _)
          have entered := before.entered_of_declares declares (before.declared_visited known declared).2
          rw [fresh] at entered
          cases entered
        have together := List.perm_middle.nodup_iff.mpr (List.nodup_cons.mpr ⟨absent, old⟩)
        simpa [single] using together
    | @record past w task rest other =>
      have moved : (task :: past ++ rest).Perm (past ++ task :: rest) := List.perm_middle.symm
      exact (moved.filterMap _).nodup_iff.mpr ih

/-- The order of declarations is the order in which they were made. -/
theorem Collecting.order_eq {roots : List NodeRef} {moment : Moment}
    (collecting : Collecting lib roots moment) :
    moment.walk.closure.order = (moment.past.filterMap Task.declared?).reverse := by
  induction collecting with
  | start => rfl
  | root node _ ih => exact ih
  | step before step ih =>
    cases step with
    | skip entered => exact ih
    | @enter past w node steps rest fresh found =>
      have same : (w.enter node).closure.order = w.closure.order := by cases node <;> rfl
      simpa [same] using ih
    | @record past w task rest other =>
      cases declared : task.declared? with
      | none =>
        have same : (w.record task).closure.order = w.closure.order := by
          cases task <;> first | rfl | cases declared
        simpa [declared, same] using ih
      | some node =>
        have once := before.declared_nodup
        have absent : node ∉ w.closure.order := by
          rw [ih]
          simp only [List.filterMap_append, List.filterMap_cons, declared, List.nodup_append,
            List.mem_cons] at once
          exact fun member => once.2.2 node (List.mem_reverse.mp member) node (.inl rfl) rfl
        have added : (w.record task).closure.order = w.closure.order ++ [node] := by
          have inserted : (w.record task).closure.order = Closure.insertNew w.closure.order node := by
            cases task <;> cases declared <;> rfl
          rw [inserted, Closure.insertNew, if_neg absent]
        simpa [declared, added] using ih

/-! What a closure holds stays in its place. -/

/-- Each list of the second closure starts with that of the first. -/
structure Closure.IsPrefix (c c' : Closure) : Prop where
  types : c.types <+: c'.types
  functions : c.functions <+: c'.functions
  constants : c.constants <+: c'.constants
  globals : c.globals <+: c'.globals
  imports : c.imports <+: c'.imports
  order : c.order <+: c'.order
  capabilities : c.capabilities <+: c'.capabilities
  initializers : c.initializers <+: c'.initializers

theorem Closure.IsPrefix.refl (c : Closure) : c.IsPrefix c := by
  constructor <;> exact List.prefix_rfl

theorem Closure.IsPrefix.trans {c between c' : Closure} (first : c.IsPrefix between) (second : between.IsPrefix c') :
    c.IsPrefix c' where
  types := first.types.trans second.types
  functions := first.functions.trans second.functions
  constants := first.constants.trans second.constants
  globals := first.globals.trans second.globals
  imports := first.imports.trans second.imports
  order := first.order.trans second.order
  capabilities := first.capabilities.trans second.capabilities
  initializers := first.initializers.trans second.initializers

theorem Closure.prefix_insertNew {α : Type} [DecidableEq α] (xs : List α) (x : α) :
    xs <+: Closure.insertNew xs x := by
  unfold Closure.insertNew
  split
  · exact List.prefix_rfl
  · exact List.prefix_append ..

theorem Walk.isPrefix_enter (w : Walk) (node : NodeRef) : w.closure.IsPrefix (w.enter node).closure := by
  have same := Closure.IsPrefix.refl w.closure
  cases node with
  | function id => exact { same with functions := Closure.prefix_insertNew .. }
  | extImport id => exact { same with imports := Closure.prefix_insertNew .. }
  | _ => exact same

theorem Walk.isPrefix_record (w : Walk) (task : Task) : w.closure.IsPrefix (w.record task).closure := by
  have same := Closure.IsPrefix.refl w.closure
  cases task with
  | visit node => exact same
  | addType id =>
    exact { same with types := Closure.prefix_insertNew .., order := Closure.prefix_insertNew .. }
  | addConstant id =>
    exact { same with constants := Closure.prefix_insertNew .., order := Closure.prefix_insertNew .. }
  | addGlobal id =>
    exact { same with globals := Closure.prefix_insertNew .., order := Closure.prefix_insertNew .. }
  | require capability => exact { same with capabilities := Closure.prefix_insertNew .. }
  | addInitializer id => exact { same with initializers := Closure.prefix_insertNew .. }

theorem Moment.Step.isPrefix {before after : Moment} (step : Moment.Step lib before after) :
    before.walk.closure.IsPrefix after.walk.closure := by
  cases step with
  | skip => exact .refl _
  | enter => exact Walk.isPrefix_enter ..
  | record => exact Walk.isPrefix_record ..

theorem Closure.insertNew_nodup {α : Type} [DecidableEq α] {xs : List α} (x : α) (once : xs.Nodup) :
    (Closure.insertNew xs x).Nodup := by
  unfold Closure.insertNew
  split
  · exact once
  · next absent =>
    rw [← List.concat_eq_append]
    exact List.Nodup.concat absent once

theorem Closure.filterMap_insertNew_none {α β : Type} [DecidableEq α] {f : α → Option β} {xs : List α} {x : α}
    (dropped : f x = none) : (Closure.insertNew xs x).filterMap f = xs.filterMap f := by
  unfold Closure.insertNew
  split
  · rfl
  · simp [dropped]

theorem Closure.filterMap_insertNew_some {α β : Type} [DecidableEq α] [DecidableEq β] {f : α → Option β}
    {xs : List α} {x : α} {y : β} (kept : f x = some y) (only : ∀ other, f other = some y → other = x) :
    (Closure.insertNew xs x).filterMap f = Closure.insertNew (xs.filterMap f) y := by
  have same : y ∈ xs.filterMap f ↔ x ∈ xs := by
    rw [List.mem_filterMap]
    constructor
    · rintro ⟨other, inside, found⟩
      exact only other found ▸ inside
    · exact fun inside => ⟨x, inside, kept⟩
  unfold Closure.insertNew
  simp only [same]
  split
  · rfl
  · simp [kept]

/-- Functions and imports are listed once. -/
theorem Collecting.functions_imports_nodup {roots : List NodeRef} {moment : Moment}
    (collecting : Collecting lib roots moment) :
    moment.walk.closure.functions.Nodup ∧ moment.walk.closure.imports.Nodup := by
  induction collecting with
  | start => exact ⟨List.nodup_nil, List.nodup_nil⟩
  | root _ _ ih => exact ih
  | step _ step ih =>
    cases step with
    | skip => exact ih
    | @enter past w node =>
      cases node with
      | function id => exact ⟨Closure.insertNew_nodup id ih.1, ih.2⟩
      | extImport id => exact ⟨ih.1, Closure.insertNew_nodup id ih.2⟩
      | _ => exact ih
    | @record past w task =>
      cases task with
      | _ => exact ih

theorem Collecting.capabilities_nodup {roots : List NodeRef} {moment : Moment}
    (collecting : Collecting lib roots moment) : moment.walk.closure.capabilities.Nodup := by
  induction collecting with
  | start => exact List.nodup_singleton _
  | root _ _ ih => exact ih
  | step _ step ih =>
    cases step with
    | skip => exact ih
    | @enter past w node =>
      cases node with
      | _ => exact ih
    | @record past w task =>
      cases task with
      | require capability => exact Closure.insertNew_nodup capability ih
      | _ => exact ih

theorem Collecting.order_nodup {roots : List NodeRef} {moment : Moment}
    (collecting : Collecting lib roots moment) : moment.walk.closure.order.Nodup := by
  have once := collecting.declared_nodup
  rw [List.filterMap_append] at once
  rw [collecting.order_eq, List.nodup_reverse]
  exact (List.nodup_append.mp once).1

end ShaderGraph
