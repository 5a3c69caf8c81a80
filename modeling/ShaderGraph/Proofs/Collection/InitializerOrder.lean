import ShaderGraph.Proofs.Collection.Completion

namespace ShaderGraph

open Spirv

/-- What follows a moment of a walk over given roots: the next task, or the next root once nothing is
left to do. The roots given so far go with the moment. -/
inductive Moment.Next (lib : Library) (roots : List NodeRef) :
    List NodeRef × Moment → List NodeRef × Moment → Prop
  | step {given before after} : Moment.Step lib before after → Next lib roots (given, before) (given, after)
  | root {given node others past w} : roots = given ++ node :: others →
      Next lib roots (given, ⟨past, w, []⟩) (given ++ [node], ⟨past, w, [.visit node]⟩)

/-- While a walk over roots still has something to do for `outer`, it lists `first` as an initializer,
and `second` has not been listed before. -/
def Library.ListsWithin (lib : Library) (roots : List NodeRef) (outer : NodeRef) (first second : FunctionId) :
    Prop :=
  ∃ prior past w rest steps task, prior <+: roots ∧ Collecting lib prior ⟨past, w, .addInitializer first :: rest⟩ ∧
    first ∉ w.closure.initializers ∧ second ∉ w.closure.initializers ∧
    .visit outer ∈ past ∧ lib.tasks outer = .ok steps ∧ task ∈ steps ∧ task ∉ past ∧ task ≠ .addInitializer first

variable {lib : Library}

theorem Moment.Next.unique {roots : List NodeRef} {before after other : List NodeRef × Moment}
    (next : Moment.Next lib roots before after) (again : Moment.Next lib roots before other) : after = other := by
  cases next with
  | step first =>
    cases again with
    | step second => rw [first.unique second]
    | root => cases first
  | root split =>
    cases again with
    | step second => cases second
    | root split' =>
      cases (List.append_cancel_left (split.symm.trans split'))
      rfl

/-- The moments of a walk over the first roots are moments of the walk over all of them. -/
theorem Collecting.next_from_start {given roots : List NodeRef} {moment : Moment}
    (collecting : Collecting lib given moment) (start : given <+: roots) :
    Relation.ReflTransGen (Moment.Next lib roots) ([], ⟨[], {}, []⟩) (given, moment) := by
  induction collecting with
  | start => exact .refl
  | @root known past w node _ ih =>
    obtain ⟨others, rfl⟩ := start
    have split : known ++ [node] ++ others = known ++ node :: others := by simp
    exact (ih ⟨node :: others, split.symm⟩).tail (.root split)
  | step _ step ih => exact (ih start).tail (.step step)

/-- A walk goes from each of its moments to its end. -/
theorem Collecting.next_to_end {given roots : List NodeRef} {moment : Moment} {past : List Task} {w : Walk}
    (collecting : Collecting lib given moment) (start : given <+: roots)
    (finished : Collecting lib roots ⟨past, w, []⟩) :
    Relation.ReflTransGen (Moment.Next lib roots) (given, moment) (roots, ⟨past, w, []⟩) := by
  have unique : Relator.RightUnique (Moment.Next lib roots) := fun _ _ _ => Moment.Next.unique
  rcases Relation.ReflTransGen.total_of_right_unique unique (collecting.next_from_start start)
    (finished.next_from_start List.prefix_rfl) with onward | back
  · exact onward
  · rcases back.cases_head with same | ⟨next, beyond, _⟩
    · rw [same]
    · cases beyond with
      | step step => cases step
      | root split => simp at split

/-! The list of initializers. -/

theorem Walk.initializers_record (w : Walk) (task : Task) : (w.record task).closure.initializers =
    match task with
    | .addInitializer function => Closure.insertNew w.closure.initializers function
    | _ => w.closure.initializers := by
  cases task <;> rfl

theorem Walk.initializers_enter (w : Walk) (node : NodeRef) :
    (w.enter node).closure.initializers = w.closure.initializers := by
  cases node <;> rfl

theorem Moment.Next.initializers_prefix {roots : List NodeRef} {before after : List NodeRef × Moment}
    (steps : Relation.ReflTransGen (Moment.Next lib roots) before after) :
    before.2.walk.closure.initializers <+: after.2.walk.closure.initializers := by
  induction steps with
  | refl => exact List.prefix_rfl
  | tail _ next ih =>
    cases next with
    | step step => exact ih.trans step.isPrefix.initializers
    | root => exact ih

theorem Collecting.initializers_nodup {roots : List NodeRef} {moment : Moment}
    (collecting : Collecting lib roots moment) : moment.walk.closure.initializers.Nodup := by
  induction collecting with
  | start => exact List.nodup_nil
  | root _ _ ih => exact ih
  | step _ step ih =>
    cases step with
    | skip => exact ih
    | enter => rwa [Walk.initializers_enter]
    | @record past w task rest _ =>
      rw [Walk.initializers_record]
      cases task with
      | addInitializer function => exact Closure.insertNew_nodup function ih
      | _ => exact ih

/-- Each initializer was listed at one moment, after those listed before. -/
theorem Collecting.listing_of_mem {roots : List NodeRef} {moment : Moment} (collecting : Collecting lib roots moment)
    {function : FunctionId} (member : function ∈ moment.walk.closure.initializers) :
    ∃ prior past w rest, prior <+: roots ∧ Collecting lib prior ⟨past, w, .addInitializer function :: rest⟩ ∧
      function ∉ w.closure.initializers ∧
      w.closure.initializers ++ [function] <+: moment.walk.closure.initializers := by
  induction collecting with
  | start => cases member
  | root node _ ih =>
    obtain ⟨prior, past, w, rest, start, listing⟩ := ih member
    exact ⟨prior, past, w, rest, start.trans (List.prefix_append ..), listing⟩
  | @step known before after previous step ih =>
    by_cases old : function ∈ before.walk.closure.initializers
    · obtain ⟨prior, past, w, rest, start, listing, fresh, sofar⟩ := ih old
      exact ⟨prior, past, w, rest, start, listing, fresh, sofar.trans step.isPrefix.initializers⟩
    · cases step with
      | skip => exact absurd member old
      | enter =>
        rw [Walk.initializers_enter] at member
        exact absurd member old
      | @record past w task rest _ =>
        rw [Walk.initializers_record] at member ⊢
        cases task with
        | addInitializer other =>
          rcases Walk.insertNew_mem.mp member with listed | rfl
          · exact absurd listed old
          · refine ⟨known, past, w, rest, List.prefix_rfl, previous, old, ?_⟩
            simp [Closure.insertNew, old]
        | _ => exact absurd member old

theorem Collecting.addInitializer_mem_past {roots : List NodeRef} {moment : Moment}
    (collecting : Collecting lib roots moment) {function : FunctionId} :
    .addInitializer function ∈ moment.past ↔ function ∈ moment.walk.closure.initializers :=
  (collecting.shows_iff_mem (.addInitializer function) rfl (by simp)).symm

/-- A function that is next to be listed is listed there. -/
theorem Collecting.listed_next {given roots : List NodeRef} {past history rest : List Task} {w result : Walk}
    {function : FunctionId} (collecting : Collecting lib given ⟨history, w, .addInitializer function :: rest⟩)
    (start : given <+: roots) (finished : Collecting lib roots ⟨past, result, []⟩)
    (fresh : function ∉ w.closure.initializers) :
    w.closure.initializers ++ [function] <+: result.closure.initializers := by
  have listing : Moment.Step lib ⟨history, w, .addInitializer function :: rest⟩
      ⟨.addInitializer function :: history, w.record (.addInitializer function), rest⟩ := .record (by simp)
  have onward := Moment.Next.initializers_prefix ((collecting.step listing).next_to_end start finished)
  simpa [Walk.initializers_record, Closure.insertNew, fresh] using onward

/-- However the tasks of a node are cut at the listing of a function, the function is visited before. -/
theorem Library.visit_mem_before_listing {node : NodeRef} {before after : List Task} {function : FunctionId}
    (found : lib.tasks node = .ok (before ++ .addInitializer function :: after)) :
    .visit (.function function) ∈ before := by
  have listed : .addInitializer function ∈ before ++ .addInitializer function :: after := by simp
  obtain ⟨id, op, rfl, atId, declares, recorded⟩ := (Library.addInitializer_mem_tasks_iff found).mp listed
  obtain ⟨op', at', ⟨_, same⟩ | ⟨notGlobal, _⟩⟩ := Library.tasks_op_eq_ok found
  · have unlisted : .addInitializer function ∉ Library.opPriorTasks op' ++
        [.addGlobal id, .visit (.function function)] := by
      simp [Library.opPriorTasks]
    have whole : before ++ .addInitializer function :: after = (Library.opPriorTasks op' ++
        [.addGlobal id, .visit (.function function)]) ++ [.addInitializer function] := by
      simpa [recorded] using same
    rcases List.append_eq_append_iff.mp whole with ⟨between, front, back⟩ | ⟨between, front, _⟩
    · cases between with
      | nil =>
        rw [List.append_nil] at front
        rw [← front]
        simp
      | cons head tail =>
        cases (List.cons.inj back).1
        exact absurd (by rw [front]; simp) unlisted
    · rw [front]
      simp
  · cases at'.symm.trans atId
    exact absurd declares notGlobal

/-- A function is visited before it is listed. -/
theorem Collecting.visit_before_listing {roots : List NodeRef} {moment : Moment}
    (collecting : Collecting lib roots moment) {above below : List Task} {function : FunctionId}
    (split : moment.pending = above ++ .addInitializer function :: below) :
    .visit (.function function) ∈ moment.past ∨ .visit (.function function) ∈ above := by
  induction collecting generalizing above with
  | start => simp at split
  | root node =>
    rcases List.cons_eq_append_iff.mp split with ⟨_, same⟩ | ⟨_, _, tail⟩
    · cases same
    · simp at tail
  | step previous step ih =>
    cases step with
    | @skip past w node rest entered =>
      have longer : .visit node :: rest = (.visit node :: above) ++ .addInitializer function :: below := by
        simpa using split
      rcases ih longer with done | waiting
      · exact .inl done
      · rcases List.mem_cons.mp waiting with same | later
        · cases same
          exact .inl (previous.visit_mem_past entered)
        · exact .inr later
    | @enter past w node steps rest fresh found =>
      have below' (left : List Task) (shape : above = steps ++ left)
          (tail : rest = left ++ .addInitializer function :: below) :
          .visit (.function function) ∈ .visit node :: past ∨ .visit (.function function) ∈ above := by
        have longer : .visit node :: rest = (.visit node :: left) ++ .addInitializer function :: below := by
          simp [tail]
        have old := ih longer
        simp only [shape, List.mem_cons, List.mem_append] at old ⊢
        tauto
      rcases List.append_eq_append_iff.mp split with ⟨left, shape, tail⟩ | ⟨inner, shape, tail⟩
      · exact below' left shape tail
      · cases inner with
        | nil => exact below' [] (by simpa using shape.symm) (by simpa using tail.symm)
        | cons head inner =>
          cases (List.cons.inj tail).1
          rw [shape] at found
          exact .inr (Library.visit_mem_before_listing found)
    | @record past w done rest recorded =>
      have longer : done :: rest = (done :: above) ++ .addInitializer function :: below := by
        simpa using split
      rcases ih longer with old | waiting
      · exact .inl (List.mem_cons_of_mem _ old)
      · rcases List.mem_cons.mp waiting with same | later
        · exact absurd same.symm (recorded _)
        · exact .inr later

/-! What is pending above a task that a node has left to do. -/

/-- A task is one of a node that `outer` leads to. -/
def Library.AsksFor (lib : Library) (outer : NodeRef) (task : Task) : Prop :=
  ∃ node steps, Relation.ReflTransGen lib.Link outer node ∧ lib.tasks node = .ok steps ∧ task ∈ steps

theorem Library.AsksFor.visit {outer node : NodeRef} {steps : List Task} {task : Task}
    (asks : lib.AsksFor outer (.visit node)) (found : lib.tasks node = .ok steps) (member : task ∈ steps) :
    lib.AsksFor outer task := by
  obtain ⟨source, others, path, atSource, inside⟩ := asks
  exact ⟨node, steps, path.tail ((Library.visit_mem_tasks_iff atSource).mp inside), found, member⟩

/-- What asks for a function to be listed leads to the function. -/
theorem Library.AsksFor.reaches_function {outer : NodeRef} {function : FunctionId}
    (asks : lib.AsksFor outer (.addInitializer function)) :
    Relation.ReflTransGen lib.Link outer (.function function) := by
  obtain ⟨node, steps, path, found, member⟩ := asks
  obtain ⟨id, op, rfl, atId, declares, recorded⟩ := (Library.addInitializer_mem_tasks_iff found).mp member
  exact path.tail (.initializer atId declares recorded)

/-- What an entered node has left to do is pending, below nothing but tasks of nodes that it leads to. -/
theorem Collecting.pending_below {roots : List NodeRef} {moment : Moment} (collecting : Collecting lib roots moment)
    {outer : NodeRef} {steps : List Task} {task : Task} (visited : .visit outer ∈ moment.past)
    (found : lib.tasks outer = .ok steps) (member : task ∈ steps) (left : task ∉ moment.past) :
    ∃ above below, moment.pending = above ++ task :: below ∧ ∀ other ∈ above, lib.AsksFor outer other := by
  induction collecting with
  | start => cases visited
  | root node _ ih =>
    obtain ⟨above, below, split, _⟩ := ih visited left
    simp at split
  | @step known _ _ previous step ih =>
    cases step with
    | @skip past w node rest entered =>
      obtain ⟨above, below, split, all⟩ := ih visited left
      rcases List.cons_eq_append_iff.mp split with ⟨rfl, same⟩ | ⟨others, rfl, tail⟩
      · cases same
        exact absurd (previous.visit_mem_past entered) left
      · exact ⟨others, below, tail, (List.forall_mem_cons.mp all).2⟩
    | @enter past w node entered rest fresh atNode =>
      rw [List.mem_cons, not_or] at left
      rcases List.mem_cons.mp visited with now | old
      · cases now
        cases atNode.symm.trans found
        obtain ⟨front, back, rfl⟩ := List.append_of_mem member
        exact ⟨front, back ++ rest, by simp, fun other inside =>
          ⟨outer, _, .refl, found, List.mem_append_left _ inside⟩⟩
      · obtain ⟨above, below, split, all⟩ := ih old left.2
        rcases List.cons_eq_append_iff.mp split with ⟨rfl, same⟩ | ⟨others, rfl, tail⟩
        · cases same
          exact absurd rfl left.1
        · rw [List.forall_mem_cons] at all
          refine ⟨entered ++ others, below, by simp [tail], fun other inside => ?_⟩
          rcases List.mem_append.mp inside with new | waiting
          · exact all.1.visit atNode new
          · exact all.2 other waiting
    | @record past w done rest recorded =>
      rw [List.mem_cons, not_or] at left
      have old : .visit outer ∈ past := (List.mem_cons.mp visited).resolve_left fun same => recorded outer same.symm
      obtain ⟨above, below, split, all⟩ := ih old left.2
      rcases List.cons_eq_append_iff.mp split with ⟨rfl, same⟩ | ⟨others, rfl, tail⟩
      · cases same
        exact absurd rfl left.1
      · exact ⟨others, below, tail, (List.forall_mem_cons.mp all).2⟩

/-- A function is listed within a node only where that node leads to the function. -/
theorem Library.ListsWithin.reaches {roots : List NodeRef} {outer : NodeRef} {first second : FunctionId}
    (within : lib.ListsWithin roots outer first second) :
    Relation.ReflTransGen lib.Link outer (.function first) := by
  obtain ⟨prior, past, w, rest, steps, task, _, collecting, _, _, visited, found, member, left, other⟩ := within
  obtain ⟨above, below, split, all⟩ := collecting.pending_below visited found member left
  rcases List.cons_eq_append_iff.mp split with ⟨_, same⟩ | ⟨others, rfl, _⟩
  · cases same
    exact absurd rfl other
  · exact (all _ (List.mem_cons_self ..)).reaches_function

/-- A node was entered and has nothing left to do, except perhaps to list `function`. -/
def Library.DoneBut (lib : Library) (past : List Task) (function : FunctionId) (node : NodeRef) : Prop :=
  .visit node ∈ past ∧ ∃ steps, lib.tasks node = .ok steps ∧
    ∀ task ∈ steps, task ∈ past ∨ task = .addInitializer function

section Listing

variable {roots prior : List NodeRef} {past rest : List Task} {w : Walk} {first second : FunctionId}
  (collecting : Collecting lib prior ⟨past, w, .addInitializer first :: rest⟩) (start : prior <+: roots)
  (fresh : first ∉ w.closure.initializers) (later : second ∉ w.closure.initializers)

include collecting start fresh later

theorem Collecting.done_or_within_of_visited {node : NodeRef} (visited : .visit node ∈ past) :
    lib.DoneBut past first node ∨ lib.ListsWithin roots node first second := by
  obtain ⟨steps, found, _⟩ := collecting.covered visited
  by_cases done : ∀ task ∈ steps, task ∈ past ∨ task = .addInitializer first
  · exact .inl ⟨visited, steps, found, done⟩
  · push Not at done
    obtain ⟨task, member, left, other⟩ := done
    exact .inr ⟨prior, past, w, rest, steps, task, start, collecting, fresh, later, visited, found, member, left,
      other⟩

/-- When a function is next to be listed, a node that it leads to is done, or the function is listed within
some node on the way. -/
theorem Collecting.done_or_within {node : NodeRef} (path : Relation.ReflTransGen lib.Link (.function first) node) :
    lib.DoneBut past first node ∨
      ∃ outer, Relation.ReflTransGen lib.Link (.function first) outer ∧ Relation.ReflTransGen lib.Link outer node ∧
        lib.ListsWithin roots outer first second := by
  induction path with
  | refl =>
    have top : Task.addInitializer first :: rest = [] ++ .addInitializer first :: rest := rfl
    have visited := (collecting.visit_before_listing top).resolve_right List.not_mem_nil
    refine (collecting.done_or_within_of_visited start fresh later visited).imp_right fun within => ?_
    exact ⟨_, .refl, .refl, within⟩
  | @tail source target path link ih =>
    rcases ih with ⟨_, steps, found, done⟩ | ⟨outer, before, after, within⟩
    · have asked := (Library.visit_mem_tasks_iff found).mpr link
      have visited := (done _ asked).resolve_right (by simp)
      refine (collecting.done_or_within_of_visited start fresh later visited).imp_right fun within => ?_
      exact ⟨target, path.tail link, .refl, within⟩
    · exact .inr ⟨outer, before, after.tail link, within⟩

end Listing

theorem idxOf_lt_idxOf_iff_mem_front {α : Type} [DecidableEq α] {xs front : List α} {a b : α} (once : xs.Nodup)
    (start : front ++ [b] <+: xs) : xs.idxOf a < xs.idxOf b ↔ a ∈ front := by
  obtain ⟨back, rfl⟩ := start
  have split : front ++ [b] ++ back = front ++ b :: back := by simp
  refine ⟨fun less => ?_, idxOf_lt_idxOf_of_split once split⟩
  by_contra absent
  have fresh : b ∉ front := fun inside => by
    rw [split] at once
    exact (List.nodup_append.mp once).2.2 b inside b (List.mem_cons_self ..) rfl
  rw [split, List.idxOf_append_of_notMem absent, List.idxOf_append_of_notMem fresh, List.idxOf_cons_self] at less
  omega

/-- Of two initializers, the first of which leads to a variable that the second initializes, the second
is listed first, except where the first one is listed while the walk still has something to do for a node
on the way from the first to that variable. Such a node, which may be the function itself, leads back to
the function. -/
theorem Walk.collect_initializer_lt_iff {roots : List (Option NodeRef)} {w : Walk}
    (finished : roots.foldlM (Walk.collect lib) {} = .ok w) {first second : FunctionId} {id : OpId} {op : Op}
    (member : first ∈ w.closure.initializers) (different : first ≠ second)
    (path : Relation.ReflTransGen lib.Link (.function first) (.op id)) (atId : lib.opAt id = .ok op)
    (declares : lib.DeclaresGlobal op) (recorded : lib.initializer? id = some second) :
    second ∈ w.closure.initializers ∧
      (w.closure.initializers.idxOf second < w.closure.initializers.idxOf first ↔
        ¬∃ outer, Relation.ReflTransGen lib.Link (.function first) outer ∧
          Relation.ReflTransGen lib.Link outer (.op id) ∧
          lib.ListsWithin roots.reduceOption outer first second) ∧
      ∀ outer, lib.ListsWithin roots.reduceOption outer first second →
        Relation.ReflTransGen lib.Link outer (.function first) := by
  obtain ⟨past, collecting⟩ := Collecting.start.of_foldlM finished
  have once : w.closure.initializers.Nodup := collecting.initializers_nodup
  have listed : second ∈ w.closure.initializers := by
    obtain ⟨source, content, ⟨root, given, way⟩, atSource, global, known⟩ :=
      (collecting.isReachablePart.initializers first).mp member
    refine (collecting.isReachablePart.initializers second).mpr ⟨id, op, ⟨root, given, ?_⟩, atId, declares, recorded⟩
    exact (way.tail (.initializer atSource global known)).trans path
  refine ⟨listed, ⟨?_, fun outside => ?_⟩, fun outer within => within.reaches⟩
  · rintro less ⟨outer, _, _, prior, history, before, rest, _, _, start, next, fresh, later, _⟩
    exact later ((idxOf_lt_idxOf_iff_mem_front once (next.listed_next start collecting fresh)).mp less)
  · obtain ⟨prior, history, before, rest, start, next, fresh, sofar⟩ := collecting.listing_of_mem member
    by_cases early : second ∈ before.closure.initializers
    · exact (idxOf_lt_idxOf_iff_mem_front once sofar).mpr early
    · rcases next.done_or_within start fresh early path with ⟨_, steps, found, done⟩ | within
      · have asked := (Library.addInitializer_mem_tasks_iff found).mpr ⟨id, op, rfl, atId, declares, recorded⟩
        have carried := (done _ asked).resolve_right (by simpa using different.symm)
        exact absurd (next.addInitializer_mem_past.mp carried) early
      · exact absurd within outside

/-- A struct owns a function that stores one variable in another, which it initializes itself. The
variable it reads is initialized by a second function. -/
def Library.eager : Library where
  types := #[
    { name := "S", shape := { kind := .struct }, functions := [⟨0⟩] },
    { name := "void", shape := { kind := .void } },
    { name := "fn() -> void", shape := { kind := .function, component := some ⟨1⟩ } },
    { name := "f32", shape := { kind := .float 32 }, pointer := some ⟨4⟩ },
    { name := "ptr<Private, f32>", shape := { kind := .pointer .priv, dereference := some ⟨3⟩ } }]
  functions := #[
    { name := "first", functionType := ⟨2⟩, parameterBlock := ⟨0⟩, blocks := [⟨2⟩], executionModel := none },
    { name := "second", functionType := ⟨2⟩, parameterBlock := ⟨1⟩, blocks := [], executionModel := none }]
  blocks := #[⟨[], []⟩, ⟨[], []⟩, ⟨[⟨2⟩], []⟩]
  ops := #[
    { opcode := .opVariable, resultType := some ⟨4⟩, args := [.literal ⟨0⟩], debugName := some "a" },
    { opcode := .opVariable, resultType := some ⟨4⟩, args := [.literal ⟨1⟩], debugName := some "b" },
    { opcode := .opStore, resultType := none, args := [.op ⟨0⟩, .op ⟨1⟩] }]
  literals := #[.int 6, .int 6]
  typeNames := .insert .empty "S" ⟨0⟩
  globals := .ofList [(⟨0⟩, ⟨some ⟨0⟩⟩), (⟨1⟩, ⟨some ⟨1⟩⟩)]

theorem Library.eager_collected : (fun w => w.closure.initializers) <$>
    [some (.type ⟨0⟩)].foldlM (Walk.collect eager) {} = .ok [⟨0⟩, ⟨1⟩] := by
  decide +kernel

theorem Library.eager_declaresGlobal : ∃ op, eager.opAt ⟨1⟩ = .ok op ∧ eager.DeclaresGlobal op :=
  ⟨_, rfl, rfl, ⟨1⟩, [], 6, StorageClass.priv, rfl, rfl, by decide, by decide⟩

theorem Library.eager_path : Relation.ReflTransGen eager.Link (.function ⟨0⟩) (.op ⟨1⟩) := by
  have body : eager.Link (.function ⟨0⟩) (.block ⟨2⟩) := .body rfl (by decide)
  have line : eager.Link (.block ⟨2⟩) (.op ⟨2⟩) := .line rfl (by decide)
  have stored : eager.Link (.op ⟨2⟩) (.op ⟨1⟩) := .needs (.argument rfl (by decide) (by decide) rfl)
  exact ((Relation.ReflTransGen.single body).tail line).tail stored

/-- The first function reads the variable that the second one initializes, and is listed before it. The
second does not lead to the first. -/
theorem Library.eager_first_listed_first : ∃ w, [some (.type ⟨0⟩)].foldlM (Walk.collect eager) {} = .ok w ∧
    w.closure.initializers = [⟨0⟩, ⟨1⟩] ∧ eager.initializer? ⟨1⟩ = some ⟨1⟩ ∧
    (∃ op, eager.opAt ⟨1⟩ = .ok op ∧ eager.DeclaresGlobal op) ∧
    Relation.ReflTransGen eager.Link (.function ⟨0⟩) (.op ⟨1⟩) ∧
    ¬Relation.ReflTransGen eager.Link (.function ⟨1⟩) (.function ⟨0⟩) ∧
    ¬w.closure.initializers.idxOf ⟨1⟩ < w.closure.initializers.idxOf ⟨0⟩ := by
  obtain ⟨w, finished, listed⟩ := Outcome.map_eq_ok_iff.mp eager_collected
  refine ⟨w, finished, listed, rfl, eager_declaresGlobal, eager_path, fun back => ?_, by rw [listed]; decide⟩
  have second : (fun c => c.functions) <$> eager.dependencies (.function ⟨1⟩) = .ok [⟨1⟩] := by decide +kernel
  obtain ⟨c, found, functions⟩ := Outcome.map_eq_ok_iff.mp second
  obtain ⟨_, _, collecting, rfl⟩ := Collecting.of_dependencies found
  have reached := (collecting.isReachablePart.functions ⟨0⟩).mpr ⟨_, List.mem_singleton_self _, back⟩
  rw [functions] at reached
  revert reached
  decide

/-- There the first function is listed while the walk is still within a node that it leads to. -/
theorem Library.eager_listed_within : ∃ w outer, [some (.type ⟨0⟩)].foldlM (Walk.collect eager) {} = .ok w ∧
    Relation.ReflTransGen eager.Link (.function ⟨0⟩) outer ∧
    Relation.ReflTransGen eager.Link outer (.function ⟨0⟩) ∧
    eager.ListsWithin [.type ⟨0⟩] outer ⟨0⟩ ⟨1⟩ := by
  obtain ⟨w, finished, listed⟩ := Outcome.map_eq_ok_iff.mp eager_collected
  obtain ⟨op, atId, declares⟩ := eager_declaresGlobal
  have member : ⟨0⟩ ∈ w.closure.initializers := by
    rw [listed]
    decide
  have recorded : eager.initializer? ⟨1⟩ = some ⟨1⟩ := rfl
  obtain ⟨_, precise, back⟩ :=
    Walk.collect_initializer_lt_iff finished member (by decide) eager_path atId declares recorded
  obtain ⟨outer, before, _, within⟩ := not_not.mp (mt precise.mpr (by rw [listed]; decide))
  exact ⟨w, outer, finished, before, back outer within, within⟩

end ShaderGraph
