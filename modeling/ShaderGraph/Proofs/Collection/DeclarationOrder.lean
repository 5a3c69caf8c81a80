import ShaderGraph.Proofs.Collection.Reachability

namespace ShaderGraph

open Spirv

namespace Library

/-- The declaration of a node refers to that of another: a type to the types it is made of and to its
declared parameters, a constant or a global variable to its type and to its declared arguments. -/
def DependsOn (lib : Library) (node target : NodeRef) : Prop :=
  lib.Needs node target ∧ ∃ task, lib.Declares target task

/-- Links lead from something that `node` needs to `target`, none of them a link of `node` itself. So
the way starts with what is looked at before `node` is declared. -/
def LeadsFromNeeds (lib : Library) (node target : NodeRef) : Prop :=
  ∃ first, lib.Needs node first ∧
    Relation.ReflTransGen (fun source next => source ≠ node ∧ lib.Link source next) first target

/-- While a walk over roots still has to declare `outer`, it enters `node` for the first time. -/
def EntersWithin (lib : Library) (roots : List NodeRef) (outer node : NodeRef) : Prop :=
  ∃ prior past w rest task, prior <+: roots ∧ Collecting lib prior ⟨past, w, .visit node :: rest⟩ ∧
    w.hasEntered node = false ∧ task ∈ rest ∧ task.declared? = some outer

end Library

variable {lib : Library}

theorem Library.LeadsFromNeeds.link {node source target : NodeRef} (leads : lib.LeadsFromNeeds node source)
    (other : source ≠ node) (link : lib.Link source target) : lib.LeadsFromNeeds node target := by
  obtain ⟨first, needs, path⟩ := leads
  exact ⟨first, needs, path.tail ⟨other, link⟩⟩

theorem Library.EntersWithin.mono {roots more : List NodeRef} {outer node : NodeRef}
    (within : lib.EntersWithin roots outer node) (included : roots <+: more) :
    lib.EntersWithin more outer node := by
  obtain ⟨prior, past, w, rest, task, start, collecting, fresh, waiting, declared⟩ := within
  exact ⟨prior, past, w, rest, task, start.trans included, collecting, fresh, waiting, declared⟩

/-- However the tasks of a node are cut at a declaration, it is the node's own, and the visits before
the cut are those of what the node needs. -/
theorem Library.tasks_cut {node target : NodeRef} {before after : List Task} {task : Task}
    (found : lib.tasks node = .ok (before ++ task :: after)) (declared : task.declared? = some target) :
    target = node ∧ (∀ need, .visit need ∈ before ↔ lib.Needs node need) ∧
      ∀ other ∈ before, other.declared? = none := by
  have declares := Library.declares_of_mem_tasks found (by simp) declared
  cases declares.declared?_eq.symm.trans declared
  obtain ⟨before', after', same, visits, early, late⟩ := Library.tasks_split_declaration found declares
  -- Both cuts are at the only declaration, so they are the same cut.
  have equal : before = before' := by
    obtain ⟨between, rfl, rest⟩ | ⟨between, rfl, rest⟩ := List.append_eq_append_iff.mp same
    · cases between with
      | nil => simp
      | cons head tail =>
        cases (List.cons.inj rest).1
        have none := early task (by simp)
        rw [declared] at none
        cases none
    · cases between with
      | nil => simp
      | cons head tail =>
        obtain ⟨-, rfl⟩ := List.cons.inj rest
        have none := late task (by simp)
        rw [declared] at none
        cases none
  subst equal
  exact ⟨rfl, visits, early⟩

/-- How the pending tasks are stacked. Above a declaration stand visits of nodes that links lead to
from what the declared node needs, and declarations of nodes that were entered later; and all that the
node needs was visited or stands above it. -/
structure Moment.StackedAt (lib : Library) (roots : List NodeRef) (past before : List Task)
    (node : NodeRef) : Prop where
  visits : ∀ target, .visit target ∈ before → lib.LeadsFromNeeds node target
  declarations : ∀ other ∈ before, ∀ target, other.declared? = some target →
    lib.EntersWithin roots node target
  needs : ∀ need, lib.Needs node need → .visit need ∈ past ∨ .visit need ∈ before

/-- Entering a node puts its own declaration under the visits of all it needs. -/
theorem Moment.StackedAt.of_tasks {roots : List NodeRef} {past before after : List Task} {task : Task}
    {node target : NodeRef} (found : lib.tasks node = .ok (before ++ task :: after))
    (declared : task.declared? = some target) : Moment.StackedAt lib roots past before target := by
  obtain ⟨rfl, visits, plain⟩ := Library.tasks_cut found declared
  refine ⟨fun need inside => ⟨need, (visits need).mp inside, .refl⟩, fun other inside target own => ?_,
    fun need needs => .inr ((visits need).mpr needs)⟩
  rw [plain other inside] at own
  cases own

/-- Entering a node above a pending declaration replaces the visit by what the node asks for. -/
theorem Collecting.stackedAt_enter {roots : List NodeRef} {past steps left after : List Task} {w : Walk}
    {task : Task} {source node : NodeRef}
    (collecting : Collecting lib roots ⟨past, w, .visit source :: left ++ task :: after⟩)
    (fresh : w.hasEntered source = false) (found : lib.tasks source = .ok steps)
    (declared : task.declared? = some node)
    (stacked : Moment.StackedAt lib roots past (.visit source :: left) node) :
    Moment.StackedAt lib roots (.visit source :: past) (steps ++ left) node := by
  obtain ⟨declares, visited⟩ := collecting.declared_visited (.inr (by simp)) declared
  have other : source ≠ node := by
    intro same
    subst same
    have entered := collecting.entered_of_declares declares visited
    rw [fresh] at entered
    cases entered
  have leads := stacked.visits source (List.mem_cons_self ..)
  refine ⟨fun target inside => ?_, fun new inside target own => ?_, fun need needs => ?_⟩
  · rcases List.mem_append.mp inside with now | old
    · exact leads.link other ((Library.visit_mem_tasks_iff found).mp now)
    · exact stacked.visits target (List.mem_cons_of_mem _ old)
  · rcases List.mem_append.mp inside with now | old
    · have same := (Library.declares_of_mem_tasks found now own).declared?_eq.symm.trans own
      cases same
      exact ⟨roots, past, w, _, task, List.prefix_rfl, collecting, fresh, by simp, declared⟩
    · exact stacked.declarations new (List.mem_cons_of_mem _ old) target own
  · have kept := stacked.needs need needs
    simp only [List.mem_cons, List.mem_append] at kept ⊢
    tauto

theorem Collecting.stackedAt {roots : List NodeRef} {moment : Moment} (collecting : Collecting lib roots moment)
    {before after : List Task} {task : Task} {node : NodeRef}
    (split : moment.pending = before ++ task :: after) (declared : task.declared? = some node) :
    Moment.StackedAt lib roots moment.past before node := by
  induction collecting generalizing before with
  | start => simp at split
  | root root _ _ =>
    change [Task.visit root] = _ at split
    have only : task ∈ [.visit root] := by
      rw [split]
      simp
    cases List.mem_singleton.mp only
    cases declared
  | @step known _ _ previous step ih =>
    cases step with
    | @skip past w source rest entered =>
      have stacked : Moment.StackedAt lib known past (.visit source :: before) node :=
        ih (by simpa using split)
      refine ⟨fun target inside => stacked.visits target (List.mem_cons_of_mem _ inside),
        fun other inside => stacked.declarations other (List.mem_cons_of_mem _ inside), fun need needs => ?_⟩
      rcases stacked.needs need needs with done | waiting
      · exact .inl done
      · rcases List.mem_cons.mp waiting with same | later
        · cases same
          exact .inl (previous.visit_mem_past entered)
        · exact .inr later
    | @enter past w source steps rest fresh found =>
      -- A cut below the new tasks was a cut before, with the visit in their place.
      have below (left : List Task) (shape : before = steps ++ left) (tail : rest = left ++ task :: after) :
          Moment.StackedAt lib known (.visit source :: past) before node := by
        subst shape tail
        exact previous.stackedAt_enter fresh found declared (ih rfl)
      rcases List.append_eq_append_iff.mp split with ⟨left, shape, tail⟩ | ⟨inner, shape, tail⟩
      · exact below left shape tail
      · cases inner with
        | nil => exact below [] (by simpa using shape.symm) (by simpa using tail.symm)
        | cons head inner =>
          cases (List.cons.inj tail).1
          rw [shape] at found
          exact .of_tasks found declared
    | @record past w done rest other =>
      have stacked : Moment.StackedAt lib known past (done :: before) node := ih (by simpa using split)
      refine ⟨fun target inside => stacked.visits target (List.mem_cons_of_mem _ inside),
        fun other inside => stacked.declarations other (List.mem_cons_of_mem _ inside), fun need needs => ?_⟩
      rcases stacked.needs need needs with old | waiting
      · exact .inl (List.mem_cons_of_mem _ old)
      · rcases List.mem_cons.mp waiting with same | later
        · exact absurd same.symm (other need)
        · exact .inr later

/-- What is entered within a node is led to from what that node needs. -/
theorem Library.EntersWithin.leads {roots : List NodeRef} {outer node : NodeRef}
    (within : lib.EntersWithin roots outer node) : lib.LeadsFromNeeds outer node := by
  obtain ⟨prior, past, w, rest, task, _, collecting, _, waiting, declared⟩ := within
  obtain ⟨above, under, rfl⟩ := List.append_of_mem waiting
  have split : Task.visit node :: (above ++ task :: under) = (.visit node :: above) ++ task :: under := rfl
  exact (collecting.stackedAt split declared).visits node (List.mem_cons_self ..)

theorem Collecting.mem_order_iff_reachable {roots : List NodeRef} {past : List Task} {w : Walk}
    (collecting : Collecting lib roots ⟨past, w, []⟩) {node : NodeRef} :
    node ∈ w.closure.order ↔ lib.Reachable roots node ∧ ∃ task, lib.Declares node task := by
  simp only [show w.closure.order = _ from collecting.order_eq, List.mem_reverse, List.mem_filterMap]
  constructor
  · rintro ⟨task, member, declared⟩
    obtain ⟨reachable, declares⟩ := (collecting.declared_mem_iff declared).mp member
    exact ⟨reachable, task, declares⟩
  · rintro ⟨reachable, task, declares⟩
    have declared := declares.declared?_eq
    exact ⟨task, (collecting.declared_mem_iff declared).mpr ⟨reachable, declares⟩, declared⟩

theorem Collecting.dependency_mem_order {roots : List NodeRef} {past : List Task} {w : Walk}
    (collecting : Collecting lib roots ⟨past, w, []⟩) {node target : NodeRef}
    (member : node ∈ w.closure.order) (depends : lib.DependsOn node target) : target ∈ w.closure.order := by
  obtain ⟨reachable, _⟩ := collecting.mem_order_iff_reachable.mp member
  exact collecting.mem_order_iff_reachable.mpr ⟨reachable.link (.needs depends.1), depends.2⟩

/-- When a declaration is next in turn, each node it depends on is declared already, is the node
itself, or has been waiting to be declared since before this one was entered. -/
theorem Collecting.dependency_of_next {roots : List NodeRef} {past rest : List Task} {w : Walk} {task : Task}
    (collecting : Collecting lib roots ⟨past, w, task :: rest⟩) {node target : NodeRef}
    (declared : task.declared? = some node) (depends : lib.DependsOn node target) :
    (∃ earlier ∈ past, earlier.declared? = some target) ∨ target = node ∨
      lib.EntersWithin roots target node := by
  obtain ⟨needs, own, declares⟩ := depends
  have top : task :: rest = [] ++ task :: rest := rfl
  have visited : .visit target ∈ past :=
    ((collecting.stackedAt top declared).needs target needs).resolve_right List.not_mem_nil
  obtain ⟨steps, found, all⟩ := collecting.covered visited
  obtain ⟨before, after, rfl, _⟩ := Library.tasks_split_declaration found declares
  rcases all own (by simp) with done | waiting
  · exact .inl ⟨own, done, declares.declared?_eq⟩
  · rcases List.mem_cons.mp waiting with same | below
    · subst same
      cases declares.declared?_eq.symm.trans declared
      exact .inr (.inl rfl)
    · obtain ⟨above, under, rfl⟩ := List.append_of_mem below
      have split : task :: (above ++ own :: under) = (task :: above) ++ own :: under := rfl
      have stacked := collecting.stackedAt split declares.declared?_eq
      exact .inr (.inr (stacked.declarations task (List.mem_cons_self ..) node declared))

theorem Collecting.dependency_of_past {roots : List NodeRef} {moment : Moment}
    (collecting : Collecting lib roots moment) {later earlier : List Task} {task : Task}
    (split : moment.past = later ++ task :: earlier) {node target : NodeRef}
    (declared : task.declared? = some node) (depends : lib.DependsOn node target) :
    (∃ first ∈ earlier, first.declared? = some target) ∨ target = node ∨
      lib.EntersWithin roots target node := by
  induction collecting generalizing later with
  | start => simp at split
  | root _ _ ih => exact (ih split).imp_right (.imp_right (·.mono (List.prefix_append ..)))
  | step previous step ih =>
    cases step with
    | skip => exact ih split
    | enter =>
      rcases List.cons_eq_append_iff.mp split with ⟨rfl, same⟩ | ⟨newer, rfl, same⟩
      · cases same
        cases declared
      · exact ih same
    | record other =>
      rcases List.cons_eq_append_iff.mp split with ⟨rfl, same⟩ | ⟨newer, rfl, same⟩
      · cases same
        exact previous.dependency_of_next declared depends
      · exact ih same

theorem idxOf_lt_idxOf_of_split {α : Type} [DecidableEq α] {xs front back : List α} {a b : α}
    (once : xs.Nodup) (split : xs = front ++ b :: back) (member : a ∈ front) : xs.idxOf a < xs.idxOf b := by
  subst split
  have absent : b ∉ front := fun inside => by
    have apart := (List.nodup_append.mp once).2.2
    exact apart b inside b (List.mem_cons_self ..) rfl
  rw [List.idxOf_append_of_mem member, List.idxOf_append_of_notMem absent, List.idxOf_cons_self]
  exact List.idxOf_lt_length_iff.mpr member

/-- The order of declarations puts a node after each other node it depends on, unless it was entered
while the other still had to be declared. -/
theorem Collecting.order_dependency {roots : List NodeRef} {moment : Moment}
    (collecting : Collecting lib roots moment) {node target : NodeRef}
    (member : node ∈ moment.walk.closure.order) (depends : lib.DependsOn node target) :
    moment.walk.closure.order.idxOf target < moment.walk.closure.order.idxOf node ∨ target = node ∨
      lib.EntersWithin roots target node := by
  have inOrder := member
  rw [collecting.order_eq] at inOrder
  obtain ⟨task, inside, declared⟩ := List.mem_filterMap.mp (List.mem_reverse.mp inOrder)
  obtain ⟨later, earlier, split⟩ := List.append_of_mem inside
  refine (collecting.dependency_of_past split declared depends).imp_left ?_
  intro ⟨first, before, own⟩
  have order : moment.walk.closure.order =
      (earlier.filterMap Task.declared?).reverse ++ node :: (later.filterMap Task.declared?).reverse := by
    simp [collecting.order_eq, split, declared]
  have front : target ∈ (earlier.filterMap Task.declared?).reverse :=
    List.mem_reverse.mpr (List.mem_filterMap.mpr ⟨first, before, own⟩)
  exact idxOf_lt_idxOf_of_split collecting.order_nodup order front

/-- Whatever cycles a library has: a declaration depends only on nodes that are declared too, each of
them before it, unless links lead back to it from what the other needs. Only then, on a cycle that
leaves the other through something looked at before it was declared, does the order have to break. -/
theorem Walk.collect_declaration_order {roots : List (Option NodeRef)} {w : Walk}
    (finished : roots.foldlM (Walk.collect lib) {} = .ok w) {node target : NodeRef}
    (member : node ∈ w.closure.order) (depends : lib.DependsOn node target) :
    target ∈ w.closure.order ∧
      (w.closure.order.idxOf target < w.closure.order.idxOf node ∨ lib.LeadsFromNeeds target node) := by
  obtain ⟨past, collecting⟩ := Collecting.start.of_foldlM finished
  refine ⟨collecting.dependency_mem_order member depends, ?_⟩
  refine (collecting.order_dependency member depends).imp_right fun broken => ?_
  rcases broken with same | within
  · subst same
    exact ⟨target, depends.1, .refl⟩
  · exact within.leads

/-- Each half of a cycle of two types is declared, the pointer first although it depends on the struct. -/
theorem Library.ring_declaration_order :
    ∃ w, [some (.type ⟨0⟩)].foldlM (Walk.collect ring) {} = .ok w ∧
      w.closure.order = [.type ⟨1⟩, .type ⟨0⟩, .type ⟨2⟩, .type ⟨3⟩, .op ⟨0⟩] ∧
      ring.DependsOn (.type ⟨1⟩) (.type ⟨0⟩) ∧ ring.LeadsFromNeeds (.type ⟨0⟩) (.type ⟨1⟩) := by
  have found : (fun w => w.closure.order) <$> [some (.type ⟨0⟩)].foldlM (Walk.collect ring) {} =
      .ok [.type ⟨1⟩, .type ⟨0⟩, .type ⟨2⟩, .type ⟨3⟩, .op ⟨0⟩] := by decide +kernel
  obtain ⟨w, finished, order⟩ := Outcome.map_eq_ok_iff.mp found
  have depends : ring.DependsOn (.type ⟨1⟩) (.type ⟨0⟩) := ⟨.dereference rfl rfl, _, .type⟩
  have kept := Walk.collect_declaration_order finished (by rw [order]; decide) depends
  refine ⟨w, finished, order, depends, kept.2.resolve_left ?_⟩
  rw [order]
  decide

end ShaderGraph
