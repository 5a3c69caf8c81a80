import ShaderGraph.Proofs.Collection.Termination

namespace ShaderGraph

open Spirv

variable {lib : Library} {roots : List NodeRef}

/-! Nothing that was found is taken back. -/

theorem Walk.run_isPrefix {w result : Walk} {tasks : List Task} (finished : Walk.run lib w tasks = .ok result) :
    w.closure.IsPrefix result.closure := by
  obtain ⟨_, steps⟩ := Walk.run_steps finished []
  generalize last : Moment.mk _ result [] = moment at steps
  have grows : w.closure.IsPrefix moment.walk.closure := by
    clear last
    induction steps with
    | refl => exact .refl _
    | tail _ step ih => exact ih.trans step.isPrefix
  rwa [← last] at grows

theorem Walk.collect_isPrefix {w result : Walk} {root : Option NodeRef}
    (finished : Walk.collect lib w root = .ok result) : w.closure.IsPrefix result.closure := by
  cases root with
  | none =>
    cases finished
    exact .refl _
  | some node =>
    obtain ⟨_, _, run⟩ := Outcome.bind_eq_ok_iff.mp finished
    exact Walk.run_isPrefix run

/-! What was reached is not walked again. -/

theorem Walk.run_visit {w : Walk} {node : NodeRef} {steps : List Task} (fresh : w.hasEntered node = false)
    (found : lib.tasks node = .ok steps) : Walk.run lib w [.visit node] = Walk.run lib (w.enter node) steps := by
  have step : Moment.Step lib ⟨[], w, [.visit node]⟩ ⟨[.visit node], w.enter node, steps ++ []⟩ := .enter fresh found
  rw [step.run_eq, List.append_nil]

/-- Visits of nodes that were entered are passed over. -/
theorem Walk.run_of_entered {w : Walk} {nodes : List NodeRef}
    (entered : ∀ node ∈ nodes, w.hasEntered node = true) : Walk.run lib w (nodes.map .visit) = .ok w := by
  induction nodes with
  | nil => rw [List.map_nil, Walk.run]
  | cons node rest ih =>
    rw [List.forall_mem_cons] at entered
    rw [List.map_cons, Walk.run, dif_pos entered.1, ih entered.2]

/-- A block leaves no mark, but the instructions in it do. -/
theorem Walk.run_block {w : Walk} {id : BlockId} {block : Block} (atId : lib.blockAt id = .ok block)
    (entered : ∀ op ∈ block.lines ++ block.locals, w.hasEntered (.op op) = true) :
    Walk.run lib w [.visit (.block id)] = .ok w := by
  have found : lib.tasks (.block id) = .ok (((block.lines ++ block.locals).map .op).map .visit) := by
    simp [Library.tasks, atId, Library.blockTasks, bind, Except.bind, pure, Except.pure, Function.comp_def]
  rw [Walk.run_visit rfl found]
  exact Walk.run_of_entered (List.forall_mem_map.mpr entered)

theorem Collecting.hasEntered_of_visited {moment : Moment} (collecting : Collecting lib roots moment)
    {node : NodeRef} (visited : .visit node ∈ moment.past) (kept : (Task.visit node).isKept = true)
    (noImport : ∀ id, node ≠ .extImport id) : moment.walk.hasEntered node = true :=
  Walk.hasEntered_iff.mpr ⟨(collecting.shows_iff_mem _ kept (by simp)).mpr visited, noImport⟩

/-- Between two roots nothing is left to do for a node that was reached. -/
theorem Collecting.run_reached {past : List Task} {w : Walk} (collecting : Collecting lib roots ⟨past, w, []⟩)
    {node : NodeRef} (reachable : lib.Reachable roots node) : Walk.run lib w [.visit node] = .ok w := by
  have visited := collecting.visit_mem_iff.mpr reachable
  have marked (kept : (Task.visit node).isKept = true) (noImport : ∀ id, node ≠ .extImport id) :
      Walk.run lib w [.visit node] = .ok w := by
    have entered := collecting.hasEntered_of_visited visited kept noImport
    exact Walk.run_of_entered (List.forall_mem_singleton.mpr entered)
  cases node with
  | type id => exact marked rfl nofun
  | function id => exact marked rfl nofun
  | op id => exact marked rfl nofun
  | literal id => rw [Walk.run_visit rfl rfl, Walk.enter, Walk.run]
  | extImport id =>
    have listed := (collecting.isReachablePart.imports id).mpr reachable
    have same : w.enter (.extImport id) = w := by
      simp [Walk.enter, Closure.addImport, Closure.insertNew, listed]
    rw [Walk.run_visit rfl rfl, same, Walk.run]
  | block id =>
    -- Every instruction of the block is reachable with it, so each was entered.
    obtain ⟨steps, found, _⟩ := collecting.covered visited
    obtain ⟨block, atId, _⟩ := Walk.tasks_block_ok found
    refine Walk.run_block atId fun op inside => ?_
    refine collecting.hasEntered_of_visited (collecting.visit_mem_iff.mpr (reachable.link ?_)) rfl nofun
    rcases List.mem_append.mp inside with line | slot
    · exact .line atId line
    · exact .localVariable atId slot

/-- Of the nodes that were reached, only literals and imports can be missing: nothing was read of them. -/
theorem Collecting.missing_root {moment : Moment} (collecting : Collecting lib roots moment) {node : NodeRef}
    (visited : .visit node ∈ moment.past) (missing : lib.displayName node = .error (.missingNode node)) :
    (∃ id, node = .literal id) ∨ ∃ id, node = .extImport id := by
  obtain ⟨steps, found, _⟩ := collecting.covered visited
  obtain ⟨_, absent, _⟩ := Library.displayName_eq_error_iff.mp missing
  have leaf : node.isLeaf = true := by
    cases known : node.isLeaf with
    | true => rfl
    | false => cases found.symm.trans (Library.tasks_eq_error_iff.mpr ⟨node, rfl, .node known absent⟩)
  cases node with
  | literal id => exact .inl ⟨id, rfl⟩
  | extImport id => exact .inr ⟨id, rfl⟩
  | _ => cases leaf

theorem Walk.collect_of_run {w : Walk} {node : NodeRef} (run : Walk.run lib w [.visit node] = .ok w) :
    Walk.collect lib w (some node) = .ok w ∨
      Walk.collect lib w (some node) = .error (.missingNode node) ∧
        lib.displayName node = .error (.missingNode node) := by
  cases named : lib.displayName node with
  | ok name => exact .inl (by rw [Walk.collect, named]; exact run)
  | error cause =>
    obtain ⟨_, _, rfl⟩ := Library.displayName_eq_error_iff.mp named
    exact .inr ⟨by rw [Walk.collect, named]; rfl, rfl⟩

/-- Collecting further roots only adds to the ends of the lists. It changes nothing at all for no root, a
literal, or any node that the roots before lead to, unless it is given up because the root is a literal or
an import that is missing. -/
theorem Walk.collect_appends {given : List (Option NodeRef)} {w : Walk}
    (finished : given.foldlM (Walk.collect lib) {} = .ok w) :
    (∀ root result, Walk.collect lib w root = .ok result → w.closure.IsPrefix result.closure) ∧
      Walk.collect lib w none = .ok w ∧
      ∀ node, (∃ id, node = .literal id) ∨ lib.Reachable given.reduceOption node →
        Walk.collect lib w (some node) = .ok w ∨
          Walk.collect lib w (some node) = .error (.missingNode node) ∧
            ((∃ id, node = .literal id) ∨ ∃ id, node = .extImport id) := by
  obtain ⟨past, collecting⟩ := Collecting.start.of_foldlM finished
  refine ⟨fun root result more => Walk.collect_isPrefix more, rfl, ?_⟩
  rintro node (⟨id, rfl⟩ | reachable)
  · have run : Walk.run lib w [.visit (.literal id)] = .ok w := by rw [Walk.run_visit rfl rfl, Walk.enter, Walk.run]
    exact (Walk.collect_of_run run).imp_right fun stopped => ⟨stopped.1, .inl ⟨id, rfl⟩⟩
  · refine (Walk.collect_of_run (collecting.run_reached reachable)).imp_right fun stopped => ⟨stopped.1, ?_⟩
    exact collecting.missing_root (collecting.visit_mem_iff.mpr reachable) stopped.2

/-- The signature of the function comes first and stays there when the function is added. Its body,
a block, is then walked for the second time. -/
theorem Library.ring_collect_appends : ∃ w result,
    [none, some (.type ⟨3⟩)].foldlM (Walk.collect ring) {} = .ok w ∧ w.closure.types = [⟨2⟩, ⟨3⟩] ∧
      Walk.collect ring w (some (.function ⟨0⟩)) = .ok result ∧
      result.closure.types = [⟨2⟩, ⟨3⟩, ⟨1⟩, ⟨0⟩] ∧ w.closure.IsPrefix result.closure ∧
      Walk.collect ring result (some (.block ⟨1⟩)) = .ok result := by
  have first : (fun w => w.closure.types) <$> [none, some (.type ⟨3⟩)].foldlM (Walk.collect ring) {} =
      .ok [⟨2⟩, ⟨3⟩] := by decide +kernel
  have both : (fun w => w.closure.types) <$>
      [none, some (.type ⟨3⟩), some (.function ⟨0⟩)].foldlM (Walk.collect ring) {} =
      .ok [⟨2⟩, ⟨3⟩, ⟨1⟩, ⟨0⟩] := by decide +kernel
  obtain ⟨w, finished, types⟩ := Outcome.map_eq_ok_iff.mp first
  obtain ⟨result, finished', types'⟩ := Outcome.map_eq_ok_iff.mp both
  have more : Walk.collect ring w (some (.function ⟨0⟩)) = .ok result := by
    have whole : [none, some (.type ⟨3⟩), some (.function ⟨0⟩)] =
        [none, some (.type ⟨3⟩)] ++ [some (NodeRef.function ⟨0⟩)] := rfl
    rw [whole, List.foldlM_append, finished] at finished'
    obtain ⟨_, same, rest⟩ := Outcome.bind_eq_ok_iff.mp finished'
    cases same
    obtain ⟨_, more, same⟩ := Outcome.bind_eq_ok_iff.mp rest
    cases same
    exact more
  have reachable : ring.Reachable [.type ⟨3⟩, .function ⟨0⟩] (.block ⟨1⟩) :=
    ⟨.function ⟨0⟩, by simp, .single (.body rfl (by decide))⟩
  refine ⟨w, result, finished, types, more, types', (Walk.collect_appends finished).1 _ _ more, ?_⟩
  rcases (Walk.collect_appends finished').2.2 (.block ⟨1⟩) (.inr reachable) with again | ⟨_, other⟩
  · exact again
  · simp at other

end ShaderGraph
