import ShaderGraph.Command
import ShaderGraph.Proofs.Pipeline.Reference

namespace ShaderGraph

theorem Stage.eq_of_rank_le {stage other : Stage} (below : stage.rank ≤ other.rank)
    (above : other.rank ≤ stage.rank) : stage = other := by
  cases stage <;> cases other <;> first | rfl | simp [Stage.rank] at below above

namespace StageDefinition

/-- The stages come in the order of presentation, and those of one stage as they were given. -/
structure StablySorted (definitions sorted : List StageDefinition) : Prop where
  ranked : sorted.Pairwise fun a b => a.stage.rank ≤ b.stage.rank
  kept : ∀ stage, sorted.filter (·.stage = stage) = definitions.filter (·.stage = stage)

def inOrder (definitions : List StageDefinition) : List StageDefinition :=
  definitions.mergeSort fun a b => a.stage.rank ≤ b.stage.rank

variable {definitions sorted : List StageDefinition}

theorem mem_of_filter_stage {others : List StageDefinition}
    (same : ∀ stage, definitions.filter (·.stage = stage) = others.filter (·.stage = stage))
    {definition : StageDefinition} (member : definition ∈ definitions) : definition ∈ others := by
  have chosen : definition ∈ definitions.filter (·.stage = definition.stage) := by simp [member]
  rw [same] at chosen
  exact List.mem_of_mem_filter chosen

/-- Definitions can be stably sorted in one way only: what stands first is of the lowest stage, and is the
first of that stage. -/
theorem StablySorted.unique {others : List StageDefinition} (first : StablySorted definitions sorted)
    (second : StablySorted definitions others) : sorted = others := by
  have same (stage : Stage) : sorted.filter (·.stage = stage) = others.filter (·.stage = stage) :=
    (first.kept stage).trans (second.kept stage).symm
  have ranked := first.ranked
  have ranked' := second.ranked
  clear first second
  induction sorted generalizing others with
  | nil =>
    cases others with
    | nil => rfl
    | cons other rest =>
      exact absurd (mem_of_filter_stage (fun stage => (same stage).symm) (List.mem_cons_self ..)) List.not_mem_nil
  | cons head tail ih =>
    cases others with
    | nil => exact absurd (mem_of_filter_stage same (List.mem_cons_self ..)) List.not_mem_nil
    | cons other rest =>
      rw [List.pairwise_cons] at ranked ranked'
      have below : other.stage.rank ≤ head.stage.rank := by
        rcases List.mem_cons.mp (mem_of_filter_stage same (List.mem_cons_self ..)) with rfl | later
        · exact Nat.le_refl _
        · exact ranked'.1 head later
      have above : head.stage.rank ≤ other.stage.rank := by
        rcases List.mem_cons.mp (mem_of_filter_stage (fun s => (same s).symm) (List.mem_cons_self ..)) with rfl | later
        · exact Nat.le_refl _
        · exact ranked.1 other later
      -- The two heads are of one stage, and each is the first of it in its list.
      have level := Stage.eq_of_rank_le below above
      have heads := same head.stage
      simp only [List.filter_cons, level, decide_true, if_true] at heads
      obtain ⟨rfl, _⟩ := List.cons.inj heads
      refine congrArg (head :: ·) (ih (fun stage => ?_) ranked.2 ranked'.2)
      have whole := same stage
      simp only [List.filter_cons] at whole
      split at whole
      · exact (List.cons.inj whole).2
      · exact whole

/-- The sort keeps the order of definitions of one stage, since they are a sorted list of their own. -/
theorem stablySorted_inOrder (definitions : List StageDefinition) : StablySorted definitions (inOrder definitions) := by
  have total (a b : StageDefinition) :
      (decide (a.stage.rank ≤ b.stage.rank) || decide (b.stage.rank ≤ a.stage.rank)) = true := by
    simpa using Nat.le_total _ _
  have transitive (a b c : StageDefinition) (first : decide (a.stage.rank ≤ b.stage.rank) = true)
      (second : decide (b.stage.rank ≤ c.stage.rank) = true) : decide (a.stage.rank ≤ c.stage.rank) = true := by
    rw [decide_eq_true_eq] at first second ⊢
    exact Nat.le_trans first second
  constructor
  · simpa [inOrder] using List.pairwise_mergeSort transitive total definitions
  · intro stage
    have level : (definitions.filter (·.stage = stage)).Pairwise
        fun a b => decide (a.stage.rank ≤ b.stage.rank) = true := by
      refine List.pairwise_of_forall_mem_list fun a inside b inside' => ?_
      simp only [List.mem_filter, decide_eq_true_eq] at inside inside' ⊢
      exact Nat.le_of_eq (by rw [inside.2, inside'.2])
    -- Definitions of one stage are sorted as given, so they are a sublist of the result, which has no others.
    have kept := (List.sublist_mergeSort transitive total level List.filter_sublist).filter (·.stage = stage)
    rw [List.filter_filter] at kept
    simp only [Bool.and_self] at kept
    exact (kept.eq_of_length ((List.mergeSort_perm definitions _).filter _).length_eq.symm).symm

theorem inOrder_congr {others : List StageDefinition}
    (same : ∀ stage, others.filter (·.stage = stage) = definitions.filter (·.stage = stage)) :
    inOrder others = inOrder definitions := by
  have sorted := stablySorted_inOrder others
  exact StablySorted.unique ⟨sorted.ranked, fun stage => (sorted.kept stage).trans (same stage)⟩
    (stablySorted_inOrder definitions)

theorem inOrder_filter (definitions : List StageDefinition) (stage : Stage) :
    inOrder (definitions.filter (·.stage = stage)) = (inOrder definitions).filter (·.stage = stage) := by
  have sorted := stablySorted_inOrder definitions
  refine (stablySorted_inOrder _).unique ⟨sorted.ranked.filter _, fun other => ?_⟩
  rw [sorted.kept stage]

theorem mem_inOrder {definition : StageDefinition} : definition ∈ inOrder definitions ↔ definition ∈ definitions :=
  List.mem_mergeSort

end StageDefinition

open StageDefinition

/-! What one definition comes to. -/

theorem CompiledStage.of?_eq (lib : Library) (d : Description) (definition : StageDefinition) :
    CompiledStage.of? lib d definition = (fun answer : Except PipelineError (Option Results) =>
      match answer with
      | .ok results => results.map fun results => ⟨definition.stage, definition.source, .ok results⟩
      | .error error => some ⟨definition.stage, definition.source, .error error⟩) <$>
        (lib.compileStage d definition).settle := by
  unfold CompiledStage.of?
  cases (lib.compileStage d definition).settle with
  | error cause => rfl
  | ok answer =>
    cases answer with
    | error error => rfl
    | ok results => cases results <;> rfl

theorem CompiledStage.stage_of? {lib : Library} {d : Description} {definition : StageDefinition} {s : CompiledStage}
    (compiled : CompiledStage.of? lib d definition = .ok (some s)) : s.stage = definition.stage := by
  rw [of?_eq] at compiled
  obtain ⟨answer, _, made⟩ := Outcome.map_eq_ok_iff.mp compiled
  cases answer with
  | error error =>
    cases made
    rfl
  | ok results =>
    obtain ⟨_, _, rfl⟩ := Option.map_eq_some_iff.mp made
    rfl

variable {lib : Library} {d : Description} {definition : StageDefinition} {definitions : List StageDefinition}

theorem CompiledStage.exists_of? (answers : ∀ cause, lib.compileStage d definition ≠ .error (.abort cause)) :
    ∃ s?, CompiledStage.of? lib d definition = .ok s? := by
  rw [of?_eq]
  cases ran : lib.compileStage d definition with
  | ok results => exact ⟨_, rfl⟩
  | error stop =>
    cases stop with
    | abort cause => exact absurd ran (answers cause)
    | error error => exact ⟨_, rfl⟩

theorem Library.compileStages_singleton :
    lib.compileStages d [definition] = Option.toList <$> CompiledStage.of? lib d definition := by
  rw [Library.compileStages, List.mergeSort_singleton, Outcome.filterMapM_eq_flatten, List.mapM_cons, List.mapM_nil]
  cases CompiledStage.of? lib d definition with
  | error cause => rfl
  | ok answer => exact congrArg Except.ok (by simp)

theorem Library.compileStages_absent (absent : definition.entryType = none) :
    lib.compileStages d [definition] = .ok [] := by
  rw [compileStages_singleton, CompiledStage.of?_eq, compileStage, absent]
  rfl

theorem Library.compileStages_failed {error : PipelineError}
    (failed : lib.compileStage d definition = .error (.error error)) :
    lib.compileStages d [definition] = .ok [⟨definition.stage, definition.source, .error error⟩] := by
  rw [compileStages_singleton, CompiledStage.of?_eq, failed]
  rfl

theorem Library.compileStages_finished {results : Results}
    (finished : lib.compileStage d definition = .ok (some results)) :
    lib.compileStages d [definition] = .ok [⟨definition.stage, definition.source, .ok results⟩] := by
  rw [compileStages_singleton, CompiledStage.of?_eq, finished]
  rfl

theorem Library.compileStages_eq (definitions : List StageDefinition) :
    lib.compileStages d definitions = (inOrder definitions).filterMapM (CompiledStage.of? lib d) := rfl

theorem Library.exists_compileStages
    (answers : ∀ definition ∈ definitions, ∀ cause, lib.compileStage d definition ≠ .error (.abort cause)) :
    ∃ compiled, lib.compileStages d definitions = .ok compiled := by
  have ends : (∃ compiled, lib.compileStages d definitions = .ok compiled) ∨
      ∃ cause, lib.compileStages d definitions = .error cause ∧ False :=
    Outcome.filterMapM_cases fun definition inside =>
      .inl (CompiledStage.exists_of? (answers definition (mem_inOrder.mp inside)))
  exact ends.resolve_right fun ⟨_, _, never⟩ => never

/-- Each definition is compiled as if it were alone. -/
theorem Library.compileStages_eq_flatten (definitions : List StageDefinition) :
    lib.compileStages d definitions =
      List.flatten <$> (inOrder definitions).mapM fun definition => lib.compileStages d [definition] := by
  simp only [Library.compileStages_singleton]
  rw [Library.compileStages_eq, Outcome.filterMapM_eq_flatten]

/-- Compiling the definitions of one stage is compiling all of them and choosing that stage. -/
theorem Library.compileStages_filter {compiled : List CompiledStage}
    (all : lib.compileStages d definitions = .ok compiled) (stage : Stage) :
    lib.compileStages d (definitions.filter (·.stage = stage)) = .ok (compiled.filter (·.stage = stage)) := by
  rw [Library.compileStages_eq] at all
  rw [Library.compileStages_eq, inOrder_filter]
  exact Outcome.filterMapM_filter all fun definition _ s made => by rw [CompiledStage.stage_of? made]

/-! What is presented of a stage. -/

/-- An entry is of a stage if its name ends so, after the heading of its category. -/
def Entry.isOf (entry : Entry) (stage : Stage) : Bool :=
  entry.name = entry.category.heading ++ stage.name

theorem Stage.name_inj {stage other : Stage} : stage.name = other.name ↔ stage = other := by
  cases stage <;> cases other <;> simp [Stage.name]

@[simp] theorem Entry.isOf_of (category : EntryCategory) (stage other : Stage) (value : String) :
    (Entry.of category stage value).isOf other = decide (stage = other) := by
  simp [Entry.isOf, Entry.of, String.append_right_inj, Stage.name_inj]

theorem filter_filterMap_of_agree {α β : Type} {f : α → Option β} {p : α → Bool} {q : β → Bool} (xs : List α)
    (agree : ∀ x, ∀ y ∈ f x, q y = p x) : (xs.filterMap f).filter q = (xs.filter p).filterMap f := by
  rw [List.filter_filterMap, List.filterMap_filter]
  refine List.filterMap_congr fun x _ => ?_
  cases made : f x with
  | none => simp
  | some y => simp [Option.filter, agree x y made]

/-- Choosing the entries of a stage is presenting that stage alone. -/
theorem groupEntries_filter (compiled : List CompiledStage) (stage : Stage) :
    (groupEntries compiled).filter (·.isOf stage) = groupEntries (compiled.filter (·.stage = stage)) := by
  have sources := filter_filterMap_of_agree (f := CompiledStage.sourceEntry?) (p := (·.stage = stage))
    (q := (·.isOf stage)) compiled fun s entry made => by
      obtain ⟨_, _, rfl⟩ := Option.map_eq_some_iff.mp made
      simp
  have listings := filter_filterMap_of_agree (f := CompiledStage.disassemblyEntry?) (p := (·.stage = stage))
    (q := (·.isOf stage)) compiled fun s entry made => by
      unfold CompiledStage.disassemblyEntry? at made
      split at made
      · cases made
      · obtain ⟨_, _, rfl⟩ := Option.map_eq_some_iff.mp made
        simp
  have shaders : (compiled.map CompiledStage.shaderEntry).filter (·.isOf stage) =
      (compiled.filter (·.stage = stage)).map CompiledStage.shaderEntry := by
    simp [List.filter_map, Function.comp_def, CompiledStage.shaderEntry]
  simp only [groupEntries, List.filter_append, sources, shaders, listings]

theorem Library.stageEntries_eq_ok {compiled : List CompiledStage}
    (all : lib.compileStages d definitions = .ok compiled) :
    lib.stageEntries d definitions = .ok (groupEntries compiled) := by
  rw [stageEntries, all]
  rfl

/-- Asking for one stage is choosing among the definitions that there are without asking. -/
theorem Command.Options.stages_of_stage (o : Options) (config : Config) (stage : Stage) :
    { o with stage := some stage }.stages config =
      ({ o with stage := none }.stages config).filter (·.stage = stage) := by
  simp only [Options.stages, Option.all_none, Option.all_some, List.filter_filter, Bool.and_true]
  exact List.filter_congr fun definition _ => decide_eq_decide.mpr eq_comm

/-- Stages do not hear of one another. Where no definition is given up, compiling a list of them is compiling
each alone, in the order of presentation and else as given: a definition without an entry type adds nothing,
one that fails adds its own error. So the order in which definitions of different stages are given makes no
difference, and a stage can be chosen, on the command line or else, before the compilation or after it. -/
theorem Library.compileStages_independent (lib : Library) (d : Description) (definitions : List StageDefinition)
    (answers : ∀ definition ∈ definitions, ∀ cause, lib.compileStage d definition ≠ .error (.abort cause)) :
    ∃ compiled, lib.compileStages d definitions = .ok compiled ∧
      (∃ sorted parts, StablySorted definitions sorted ∧
        sorted.mapM (fun definition => lib.compileStages d [definition]) = .ok parts ∧ compiled = parts.flatten) ∧
      (∀ definition, definition.entryType = none → lib.compileStages d [definition] = .ok []) ∧
      (∀ definition error, lib.compileStage d definition = .error (.error error) →
        lib.compileStages d [definition] = .ok [⟨definition.stage, definition.source, .error error⟩]) ∧
      (∀ definition results, lib.compileStage d definition = .ok (some results) →
        lib.compileStages d [definition] = .ok [⟨definition.stage, definition.source, .ok results⟩]) ∧
      (∀ others, (∀ stage, others.filter (·.stage = stage) = definitions.filter (·.stage = stage)) →
        lib.compileStages d others = .ok compiled ∧ lib.stageEntries d others = .ok (groupEntries compiled)) ∧
      (∀ stage, lib.compileStages d (definitions.filter (·.stage = stage)) =
          .ok (compiled.filter (·.stage = stage)) ∧
        lib.stageEntries d (definitions.filter (·.stage = stage)) =
          .ok ((groupEntries compiled).filter (·.isOf stage))) ∧
      ∀ (options : Command.Options) config, { options with stage := none }.stages config = definitions →
        ∀ stage, { options with stage := some stage }.stages config = definitions.filter (·.stage = stage) := by
  obtain ⟨compiled, all⟩ := Library.exists_compileStages answers
  have chosen (stage : Stage) := Library.compileStages_filter all stage
  refine ⟨compiled, all, ?_, fun _ => compileStages_absent, fun _ _ => compileStages_failed,
    fun _ _ => compileStages_finished, fun others same => ?_, fun stage => ⟨chosen stage, ?_⟩, ?_⟩
  · rw [compileStages_eq_flatten] at all
    obtain ⟨parts, each, rfl⟩ := Outcome.map_eq_ok_iff.mp all
    exact ⟨inOrder definitions, parts, stablySorted_inOrder definitions, each, rfl⟩
  · have again : lib.compileStages d others = .ok compiled := by
      rw [compileStages_eq, inOrder_congr same, ← compileStages_eq, all]
    exact ⟨again, stageEntries_eq_ok again⟩
  · rw [groupEntries_filter]
    exact stageEntries_eq_ok (chosen stage)
  · rintro options config rfl stage
    exact options.stages_of_stage config stage

/-- The ring under a name, so that a stage can be made of it. -/
def Library.namedRing : Library := { Library.ring with typeNames := .ofList [("Node", ⟨0⟩)] }

/-- Two stages out of order, the later one twice, and one without an entry type. -/
def StageDefinition.mixed : List StageDefinition :=
  [⟨.pixel, some "Nothing", some "left out"⟩, ⟨.vertex, none, none⟩, ⟨.pixel, some "Node", none⟩,
    ⟨.geometry, some "Node", some "ring"⟩]

theorem StageDefinition.inOrder_mixed : inOrder mixed = [⟨.vertex, none, none⟩,
    ⟨.geometry, some "Node", some "ring"⟩, ⟨.pixel, some "Nothing", some "left out"⟩, ⟨.pixel, some "Node", none⟩] :=
  (stablySorted_inOrder mixed).unique ⟨by decide, fun stage => by cases stage <;> rfl⟩

theorem Library.namedRing_compileStages_independent :
    (∀ definition ∈ mixed, ∀ cause, namedRing.compileStage .forked definition ≠ .error (.abort cause)) ∧
      ∃ compiled, namedRing.compileStages .forked mixed = .ok compiled ∧
        compiled.map (fun s => (s.stage, s.results.isOk)) = [(.geometry, true), (.pixel, false), (.pixel, true)] ∧
        namedRing.compileStages .forked (mixed.rotate 3) = .ok compiled ∧
        namedRing.stageEntries .forked (mixed.filter (·.stage = .pixel)) =
          .ok ((groupEntries compiled).filter (·.isOf .pixel)) := by
  have ran (stage : Stage) (source : Option String) :
      (fun results? => results?.map (·.failures.length)) <$>
        namedRing.compileStage .forked ⟨stage, some "Node", source⟩ = .ok (some 1) := by
    with_unfolding_all rfl
  have answers : ∀ definition ∈ mixed, ∀ cause,
      namedRing.compileStage .forked definition ≠ .error (.abort cause) := by
    have made (stage : Stage) (source : Option String) (cause : Abort) :
        namedRing.compileStage .forked ⟨stage, some "Node", source⟩ ≠ .error (.abort cause) := by
      obtain ⟨results?, finished, _⟩ := Outcome.map_eq_ok_iff.mp (ran stage source)
      rw [finished]
      rintro ⟨⟩
    simp only [mixed, List.forall_mem_cons]
    refine ⟨?_, ?_, made _ _, made _ _, List.forall_mem_nil _⟩
    · rintro cause ⟨⟩
    · rintro cause ⟨⟩
  have shape : (fun compiled => compiled.map fun s => (s.stage, s.results.isOk)) <$>
      namedRing.compileStages .forked mixed = .ok [(.geometry, true), (.pixel, false), (.pixel, true)] := by
    rw [compileStages_eq, inOrder_mixed]
    decide +kernel
  obtain ⟨compiled, all, stages⟩ := Outcome.map_eq_ok_iff.mp shape
  obtain ⟨compiled', all', _, _, _, _, reordered, chosen, _⟩ :=
    namedRing.compileStages_independent .forked mixed answers
  cases all.symm.trans all'
  exact ⟨answers, compiled, all, stages, (reordered _ fun stage => by cases stage <;> rfl).1, (chosen .pixel).2⟩

end ShaderGraph
