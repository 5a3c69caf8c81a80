import ShaderGraph.Proofs.Collection.DeclarationOrder

namespace ShaderGraph

open Spirv

variable {lib : Library}

theorem Moment.Step.unique {before after other : Moment} (step : Moment.Step lib before after)
    (again : Moment.Step lib before other) : after = other := by
  cases step with
  | skip entered =>
    cases again with
    | skip => rfl
    | enter fresh => cases entered.symm.trans fresh
    | record recorded => exact absurd rfl (recorded _)
  | enter fresh found =>
    cases again with
    | skip entered => cases entered.symm.trans fresh
    | enter _ found' => cases found.symm.trans found'; rfl
    | record recorded => exact absurd rfl (recorded _)
  | record recorded =>
    cases again with
    | skip => exact absurd rfl (recorded _)
    | enter => exact absurd rfl (recorded _)
    | record => rfl

theorem Collecting.of_no_roots {moment : Moment} (collecting : Collecting lib [] moment) :
    moment = ⟨[], {}, []⟩ := by
  generalize empty : ([] : List NodeRef) = roots at collecting
  induction collecting with
  | start => rfl
  | root node => simp at empty
  | step _ step ih =>
    rw [ih empty] at step
    cases step

/-- The moments of a walk over one root follow its visit. -/
theorem Collecting.steps_of_root {root : NodeRef} {moment : Moment}
    (collecting : Collecting lib [root] moment) :
    Relation.ReflTransGen (Moment.Step lib) ⟨[], {}, [.visit root]⟩ moment := by
  generalize single : [root] = roots at collecting
  induction collecting with
  | start => cases single
  | @root known past w node previous _ =>
    cases known with
    | nil =>
      cases previous.of_no_roots
      cases single
      exact .refl
    | cons first others => simp at single
  | step _ step ih => exact (ih single).tail step

/-- A walk over one root goes from each of its moments to its end. -/
theorem Collecting.steps_to_end {root : NodeRef} {moment : Moment} {past : List Task} {w : Walk}
    (collecting : Collecting lib [root] moment) (finished : Collecting lib [root] ⟨past, w, []⟩) :
    Relation.ReflTransGen (Moment.Step lib) moment ⟨past, w, []⟩ := by
  have unique : Relator.RightUnique (Moment.Step lib) := fun _ _ _ => Moment.Step.unique
  rcases Relation.ReflTransGen.total_of_right_unique unique collecting.steps_of_root
    finished.steps_of_root with onward | back
  · exact onward
  · rcases back.cases_head with same | ⟨next, step, _⟩
    · rw [same]
    · cases step

theorem Walk.hasEntered_enter {w : Walk} {node other : NodeRef} (different : node ≠ other) :
    (w.enter other).hasEntered node = w.hasEntered node := by
  rw [Bool.eq_iff_iff, Walk.hasEntered_iff, Walk.hasEntered_iff]
  cases node with
  | block id => simp [Walk.Shows]
  | literal id => simp [Walk.Shows]
  | _ =>
    rw [Walk.shows_enter rfl]
    simp [different]

/-- A node is entered, or still to be entered, above a declaration that is pending, or it was declared
before. -/
def Moment.Within (moment : Moment) (outer node : NodeRef) : Prop :=
  (∃ before task after, moment.pending = before ++ task :: after ∧ task.declared? = some outer ∧
    (.visit node ∈ before ∧ moment.walk.hasEntered node = false ∨
      ∃ own, (own ∈ before ∨ own ∈ moment.past) ∧ own.declared? = some node)) ∨
  ∃ later task earlier, moment.past = later ++ task :: earlier ∧ task.declared? = some outer ∧
    ∃ own ∈ earlier, own.declared? = some node

theorem Moment.Within.step {before after : Moment} {outer node : NodeRef} {own : Task}
    (within : before.Within outer node) (declares : lib.Declares node own)
    (step : Moment.Step lib before after) : after.Within outer node := by
  rcases within with ⟨above, task, below, split, declared, state⟩ |
    ⟨later, task, earlier, split, declared, first⟩
  · cases step with
    | @skip past w source rest entered =>
      rcases List.cons_eq_append_iff.mp split with ⟨_, same⟩ | ⟨others, rfl, tail⟩
      · cases same
        cases declared
      · refine .inl ⟨others, task, below, tail, declared, ?_⟩
        rcases state with ⟨waiting, fresh⟩ | ⟨own, place, known⟩
        · rcases List.mem_cons.mp waiting with same | later
          · cases same
            cases entered.symm.trans fresh
          · exact .inl ⟨later, fresh⟩
        · refine .inr ⟨own, place.imp_left fun inside => ?_, known⟩
          rcases List.mem_cons.mp inside with rfl | later
          · cases known
          · exact later
    | @enter past w source steps rest fresh found =>
      rcases List.cons_eq_append_iff.mp split with ⟨_, same⟩ | ⟨others, rfl, tail⟩
      · cases same
        cases declared
      · refine .inl ⟨steps ++ others, task, below, by simp [tail], declared, ?_⟩
        rcases state with ⟨waiting, unseen⟩ | ⟨own, place, known⟩
        · by_cases same : source = node
          · subst same
            obtain ⟨front, back, rfl, _⟩ := Library.tasks_split_declaration found declares
            exact .inr ⟨own, .inl (by simp), declares.declared?_eq⟩
          · have later : .visit node ∈ others := by
              rcases List.mem_cons.mp waiting with same' | later
              · cases same'
                exact absurd rfl same
              · exact later
            exact .inl ⟨List.mem_append_right _ later, (Walk.hasEntered_enter (Ne.symm same)).trans unseen⟩
        · refine .inr ⟨own, ?_, known⟩
          simp only [List.mem_cons, List.mem_append] at place ⊢
          rcases place with (rfl | inside) | old
          · cases known
          · exact .inl (.inr inside)
          · exact .inr (.inr old)
    | @record past w done rest recorded =>
      rcases List.cons_eq_append_iff.mp split with ⟨rfl, same⟩ | ⟨others, rfl, tail⟩
      · cases same
        rcases state with ⟨waiting, _⟩ | ⟨own, place, known⟩
        · cases waiting
        · exact .inr ⟨[], task, past, rfl, declared, own, place.resolve_left List.not_mem_nil, known⟩
      · refine .inl ⟨others, task, below, tail, declared, ?_⟩
        rcases state with ⟨waiting, fresh⟩ | ⟨own, place, known⟩
        · refine .inl ⟨?_, (Walk.hasEntered_record ..).trans fresh⟩
          rcases List.mem_cons.mp waiting with same | later
          · exact absurd same.symm (recorded node)
          · exact later
        · refine .inr ⟨own, ?_, known⟩
          simp only [List.mem_cons] at place ⊢
          tauto
  · right
    cases step with
    | skip => exact ⟨later, task, earlier, split, declared, first⟩
    | @enter past w source steps rest =>
      exact ⟨.visit source :: later, task, earlier, by simpa using split, declared, first⟩
    | @record past w done rest =>
      exact ⟨done :: later, task, earlier, by simpa using split, declared, first⟩

theorem Moment.Within.steps {before after : Moment} {outer node : NodeRef} {own : Task}
    (within : before.Within outer node) (declares : lib.Declares node own)
    (steps : Relation.ReflTransGen (Moment.Step lib) before after) : after.Within outer node := by
  induction steps with
  | refl => exact within
  | tail _ step ih => exact ih.step declares step

/-- A node entered while another still had to be declared is declared before it. -/
theorem Library.EntersWithin.order_lt {root outer node : NodeRef} {past : List Task} {w : Walk} {own : Task}
    (within : lib.EntersWithin [root] outer node) (finished : Collecting lib [root] ⟨past, w, []⟩)
    (declares : lib.Declares node own) : w.closure.order.idxOf node < w.closure.order.idxOf outer := by
  obtain ⟨prior, history, before, rest, task, start, collecting, fresh, waiting, declared⟩ := within
  have same : prior = [root] := by
    rcases List.prefix_cons_iff.mp start with rfl | ⟨others, rfl, tail⟩
    · cases collecting.of_no_roots
    · rw [List.prefix_nil.mp tail]
  subst same
  obtain ⟨above, below, rfl⟩ := List.append_of_mem waiting
  have inside : Moment.Within ⟨history, before, .visit node :: (above ++ task :: below)⟩ outer node :=
    .inl ⟨.visit node :: above, task, below, rfl, declared, .inl ⟨List.mem_cons_self .., fresh⟩⟩
  rcases inside.steps declares (collecting.steps_to_end finished) with
    ⟨_, _, _, split, _⟩ | ⟨later, last, earlier, split, known, first, place, own⟩
  · simp at split
  · have order : w.closure.order =
        (earlier.filterMap Task.declared?).reverse ++ outer :: (later.filterMap Task.declared?).reverse := by
      have whole : past = later ++ last :: earlier := split
      simp [show w.closure.order = _ from finished.order_eq, whole, known]
    have front : node ∈ (earlier.filterMap Task.declared?).reverse :=
      List.mem_reverse.mpr (List.mem_filterMap.mpr ⟨first, place, own⟩)
    exact idxOf_lt_idxOf_of_split finished.order_nodup order front

/-- The order is right at a dependency exactly if the node was not entered while the other one still
had to be declared. -/
theorem Collecting.order_lt_iff {root node target : NodeRef} {past : List Task} {w : Walk}
    (finished : Collecting lib [root] ⟨past, w, []⟩) (member : node ∈ w.closure.order)
    (depends : lib.DependsOn node target) (different : target ≠ node) :
    w.closure.order.idxOf target < w.closure.order.idxOf node ↔ ¬lib.EntersWithin [root] target node := by
  constructor
  · intro less within
    obtain ⟨_, own, declares⟩ := finished.mem_order_iff_reachable.mp member
    exact Nat.lt_asymm less (within.order_lt finished declares)
  · intro outside
    rcases finished.order_dependency member depends with less | same | within
    · exact less
    · exact absurd same different
    · exact absurd within outside

/-- A walk is given up only at a node that it reaches and cannot look at. -/
theorem Collecting.of_run_error {roots : List NodeRef} {past tasks : List Task} {w : Walk} {cause : Abort}
    (collecting : Collecting lib roots ⟨past, w, tasks⟩) (failed : Walk.run lib w tasks = .error cause) :
    ∃ node, lib.Reachable roots node ∧ lib.tasks node = .error cause := by
  fun_induction Walk.run lib w tasks generalizing past with
  | case1 w => cases failed
  | case2 w node rest entered ih => exact ih (collecting.step (.skip entered)) failed
  | case3 w node rest fresh other missing =>
    cases failed
    exact ⟨node, collecting.reachable (.inr (List.mem_cons_self ..)), missing⟩
  | case4 w node rest fresh steps found ih =>
    exact ih (collecting.step (.enter (by simpa using fresh) found)) failed
  | case5 w task rest recorded ih => exact ih (collecting.step (.record recorded)) failed

end ShaderGraph
