import ShaderGraph.Proofs.PairedOutcome
import ShaderGraph.Proofs.Pipeline.Stages

namespace ShaderGraph

/-- What a pipeline leaves outside the debug branch. -/
structure MainLine where
  primary : List PassOutput
  finalOutput? : Option PassOutput
  binary? : Option Binary
  failures : List PassFailure
  deriving DecidableEq, Repr

def Results.mainLine (r : Results) : MainLine :=
  ⟨r.primary, r.finalOutput?, r.binary?, r.failures.filter (·.branch ≠ .debug)⟩

/-- What is not a failure of the debug branch decides with the outputs what the final one is. -/
theorem Results.mainLine_congr {r r' : Results} (primary : r.primary = r'.primary)
    (failures : r.failures.filter (·.branch ≠ .debug) = r'.failures.filter (·.branch ≠ .debug)) :
    r.mainLine = r'.mainLine := by
  have blamed (r : Results) : r.failures.any (·.branch ≠ .debug) =
      (r.failures.filter (·.branch ≠ .debug)).any (·.branch ≠ .debug) := by
    rw [List.any_filter]
    simp only [Bool.and_self]
  simp only [mainLine, finalOutput?, binary?, blamed, primary, failures]

/-- A debug pass is given up on what it comes to be given after the tools. -/
def Description.DebugGivesUp (d : Description) (binary : Binary) (cause : Abort) : Prop :=
  ∃ tools snapshot before pass after outputs last,
    Chained (.binary binary) d.toolPasses tools snapshot ∧ d.debugPasses = before ++ pass :: after ∧
      Chained snapshot before outputs last ∧ pass.run last = .error (.abort cause)

theorem Pass.apply_eq_error_iff {pass : Pass} {branch : Branch} {input : Artifact} {cause : Abort} :
    pass.apply branch input = .error cause ↔ pass.run input = .error (.abort cause) := by
  rw [Pass.apply]
  rcases pass.run input with (_ | _) | _ <;> simp [Attempt.settle, bind, Except.bind, pure, Except.pure]

/-- Passes in a row are given up by one of them, on what those before it made. -/
theorem exists_of_runChain_eq_error {branch : Branch} {input : Artifact} {passes : List Pass} {cause : Abort}
    (stopped : runChain branch input passes = .error cause) :
    ∃ before pass after outputs last, passes = before ++ pass :: after ∧ Chained input before outputs last ∧
      pass.run last = .error (.abort cause) := by
  induction passes generalizing input with
  | nil => cases stopped
  | cons pass rest ih =>
    rw [runChain] at stopped
    cases applied : pass.apply branch input with
    | error _ =>
      rw [applied] at stopped
      cases stopped
      exact ⟨[], pass, rest, [], input, rfl, .nil, Pass.apply_eq_error_iff.mp applied⟩
    | ok answer =>
      rw [applied] at stopped
      rcases Pass.apply_eq_ok_iff.mp applied with ⟨output, gave, rfl⟩ | ⟨error, failed, rfl⟩
      · cases tail : runChain branch output rest with
        | ok results =>
          simp only [bind, Except.bind, tail] at stopped
          cases stopped
        | error _ =>
          simp only [bind, Except.bind, tail] at stopped
          cases stopped
          obtain ⟨before, pass', after, outputs, last, rfl, chain, gaveUp⟩ := ih tail
          exact ⟨pass :: before, pass', after, _, last, rfl, .cons gave chain, gaveUp⟩
      · cases stopped

variable {d d' : Description}

/-- Of two rows of debug passes that start from one artifact nothing is known to agree, but that each is given
up by itself only and fails in its own branch. -/
theorem Description.debug_agree (tools : d.toolPasses = d'.toolPasses) {binary : Binary}
    {outputs : List PassOutput} {snapshot : Artifact}
    (chain : Chained (.binary binary) d.toolPasses outputs snapshot) :
    Outcome.Agree (fun a b => ∀ failure ∈ a.2.toList ++ b.2.toList, failure.branch = .debug)
      (d.DebugGivesUp binary) (d'.DebugGivesUp binary)
      (runChain .debug snapshot d.debugPasses) (runChain .debug snapshot d'.debugPasses) := by
  cases first : runChain .debug snapshot d.debugPasses with
  | error cause =>
    obtain ⟨before, pass, after, made, last, split, row, gaveUp⟩ := exists_of_runChain_eq_error first
    exact .firstStops ⟨outputs, snapshot, before, pass, after, made, last, chain, split, row, gaveUp⟩
  | ok answer =>
    cases second : runChain .debug snapshot d'.debugPasses with
    | error cause =>
      obtain ⟨before, pass, after, made, last, split, row, gaveUp⟩ := exists_of_runChain_eq_error second
      exact .secondStops ⟨outputs, snapshot, before, pass, after, made, last, tools ▸ chain, split, row, gaveUp⟩
    | ok answer' =>
      refine .ends fun failure inside => ?_
      rcases List.mem_append.mp inside with here | there
      · have ends := runChain_eq_ok_iff.mp first
        rw [Option.mem_toList.mp here] at ends
        exact ends.branch_eq
      · have ends := runChain_eq_ok_iff.mp second
        rw [Option.mem_toList.mp there] at ends
        exact ends.branch_eq

/-- Runs of two pipelines that have the tools and the backend in common agree on the main line. -/
theorem Description.run_agree (tools : d.toolPasses = d'.toolPasses) (backend : d.backend = d'.backend)
    (binary : Binary) :
    Outcome.Agree (fun r r' => r.mainLine = r'.mainLine) (d.DebugGivesUp binary) (d'.DebugGivesUp binary)
      (d.run binary) (d'.run binary) := by
  unfold Description.run
  rw [← tools, ← backend]
  refine (Outcome.Agree.refl _).bind ?_
  rintro ⟨outputs, failure?⟩ _ tooled _ rfl
  cases failure? with
  | some failure => exact .ends rfl
  | none =>
    obtain @⟨_, snapshot, chain⟩ := runChain_eq_ok_iff.mp tooled
    -- From here the runs have the snapshot and the backend in common, which comes after the debug passes.
    have start := chain.getLastD_eq emitterName
    simp only [start]
    refine (debug_agree tools chain).bind fun ⟨debug, failure?⟩ ⟨debug', failure?'⟩ _ _ harmless => ?_
    have unseen (failure? : Option PassFailure) (own : ∀ failure ∈ failure?.toList, failure.branch = .debug) :
        failure?.toList.filter (·.branch ≠ .debug) = [] := by
      rw [List.filter_eq_nil_iff]
      intro failure inside
      simp [own failure inside]
    rw [List.forall_mem_append] at harmless
    have here := unseen failure? harmless.1
    have there := unseen failure?' harmless.2
    refine (Outcome.Agree.refl _).bind fun answer _ _ _ same => ?_
    subst same
    cases answer with
    | ok output => exact .ends (Results.mainLine_congr rfl (here.trans there.symm))
    | error failure =>
      refine .ends (Results.mainLine_congr rfl ?_)
      rw [List.filter_append, List.filter_append, here, there]

variable {lib : Library} {definition : StageDefinition} {definitions : List StageDefinition}

/-- The binary that a stage is emitted to. -/
def Library.Emits (lib : Library) (definition : StageDefinition) (binary : Binary) : Prop :=
  ∃ name ∈ definition.entryType, ∃ entry ∈ lib.findType? name, lib.emitType entry = .ok binary

/-- The tools and the backend succeed on every stage that is emitted. -/
def Description.SucceedsOn (d : Description) (lib : Library) (definitions : List StageDefinition) : Prop :=
  ∀ definition ∈ definitions, ∀ binary, lib.Emits definition binary → ∃ output, d.BackendGives binary output

/-- A debug pass is given up on one of these stages. -/
def Description.DebugGivesUpOn (d : Description) (lib : Library) (definitions : List StageDefinition)
    (cause : Abort) : Prop :=
  ∃ definition ∈ definitions, ∃ binary, lib.Emits definition binary ∧ d.DebugGivesUp binary cause

theorem Library.compile_agree (lib : Library) (tools : d.toolPasses = d'.toolPasses) (backend : d.backend = d'.backend)
    (entry : Option TypeId) :
    Outcome.Agree (fun r r' => r.mainLine = r'.mainLine)
      (fun stop => ∃ type ∈ entry, ∃ binary, lib.emitType type = .ok binary ∧
        ∃ cause, stop = .abort cause ∧ d.DebugGivesUp binary cause)
      (fun stop => ∃ type ∈ entry, ∃ binary, lib.emitType type = .ok binary ∧
        ∃ cause, stop = .abort cause ∧ d'.DebugGivesUp binary cause)
      (lib.compile entry d) (lib.compile entry d') := by
  cases entry with
  | none => exact .fails _
  | some type =>
    refine (Outcome.Agree.refl _).bind ?_
    rintro binary _ found _ rfl
    have emitted := Outcome.mapError_eq_ok_iff.mp found
    exact (Description.run_agree tools backend binary).lift.mono (fun _ _ _ _ same => same)
      (fun _ stops => ⟨type, rfl, binary, emitted, stops⟩) fun _ stops => ⟨type, rfl, binary, emitted, stops⟩

theorem Library.exists_emitted {entry : TypeId} {results : Results}
    (compiled : lib.compile (some entry) d = .ok results) :
    ∃ binary, lib.emitType entry = .ok binary ∧ d.Leaves binary results := by
  obtain ⟨binary, made, _⟩ := Outcome.bind_eq_ok_iff.mp compiled
  have emitted := Outcome.mapError_eq_ok_iff.mp made
  exact ⟨binary, emitted, (Library.compile_eq_ok_iff emitted).mp compiled⟩

/-- The source and the shader are presented alike. -/
def CompiledStage.Alike (s s' : CompiledStage) : Prop :=
  s.sourceEntry? = s'.sourceEntry? ∧ s.shaderEntry = s'.shaderEntry

theorem CompiledStage.alike_of_mainLine {stage : Stage} {source : Option String} {r r' : Results}
    {output : PassOutput} (same : r.mainLine = r'.mainLine) (final : r.finalOutput? = some output) :
    CompiledStage.Alike ⟨stage, source, .ok r⟩ ⟨stage, source, .ok r'⟩ := by
  have final' : r'.finalOutput? = some output := (congrArg MainLine.finalOutput? same).symm.trans final
  refine ⟨rfl, ?_⟩
  simp only [shaderEntry, shaderText, final, final']

theorem CompiledStage.of?_found {name : String} {entry : TypeId} (named : definition.entryType = some name)
    (found : lib.findType? name = some entry) (d : Description) :
    CompiledStage.of? lib d definition =
      (fun results => some ⟨definition.stage, definition.source, results⟩) <$> (lib.compile (some entry) d).settle := by
  rw [of?_eq, Library.compileStage, named]
  simp only [found]
  cases lib.compile (some entry) d with
  | ok results => rfl
  | error stop => cases stop <;> rfl

/-- The final output is all that is shown of a stage on which the tools and the backend succeed. -/
theorem CompiledStage.of?_agree (tools : d.toolPasses = d'.toolPasses) (backend : d.backend = d'.backend)
    (succeeds : ∀ binary, lib.Emits definition binary → ∃ output, d.BackendGives binary output) :
    Outcome.Agree (Option.Rel CompiledStage.Alike)
      (fun cause => ∃ binary, lib.Emits definition binary ∧ d.DebugGivesUp binary cause)
      (fun cause => ∃ binary, lib.Emits definition binary ∧ d'.DebugGivesUp binary cause)
      (CompiledStage.of? lib d definition) (CompiledStage.of? lib d' definition) := by
  cases named : definition.entryType with
  | none =>
    rw [of?_eq, of?_eq, Library.compileStage, Library.compileStage, named]
    exact .ends .none
  | some name =>
    cases found : lib.findType? name with
    | none =>
      rw [of?_eq, of?_eq, Library.compileStage, Library.compileStage, named]
      simp only [found]
      exact .ends (Option.Rel.some ⟨rfl, rfl⟩)
    | some entry =>
      have emits (binary : Binary) (emitted : lib.emitType entry = .ok binary) : lib.Emits definition binary :=
        ⟨name, named, entry, found, emitted⟩
      have blamed (d : Description) (stop : Stop PipelineError) (stops : ∃ type ∈ some entry, ∃ binary,
          lib.emitType type = .ok binary ∧ ∃ cause, stop = .abort cause ∧ d.DebugGivesUp binary cause) :
          ∃ cause, stop = .abort cause ∧ ∃ binary, lib.Emits definition binary ∧ d.DebugGivesUp binary cause := by
        obtain ⟨_, ⟨⟩, binary, emitted, cause, same, gaveUp⟩ := stops
        exact ⟨cause, same, binary, emits binary emitted, gaveUp⟩
      have final (r r' : Results) (compiled : lib.compile (some entry) d = .ok r)
          (_ : lib.compile (some entry) d' = .ok r') (same : r.mainLine = r'.mainLine) :
          r.mainLine = r'.mainLine ∧ ∃ output, r.finalOutput? = some output := by
        obtain ⟨binary, emitted, leaves⟩ := Library.exists_emitted compiled
        obtain ⟨output, gives⟩ := succeeds binary (emits binary emitted)
        exact ⟨same, output, leaves.finalOutput?_eq_some_iff.mpr gives⟩
      have agree := (lib.compile_agree tools backend (some entry)).mono final (blamed d) (blamed d')
      rw [of?_found named found, of?_found named found]
      refine agree.settle.map fun answer answer' related => Option.Rel.some ?_
      cases related with
      | ends both => exact alike_of_mainLine both.1 both.2.choose_spec
      | fails error => exact ⟨rfl, rfl⟩
      | firstStops never => exact never.elim
      | secondStops never => exact never.elim

theorem groupEntries_filter_category (compiled : List CompiledStage) :
    (groupEntries compiled).filter (·.category ≠ .disassembly) =
      compiled.filterMap CompiledStage.sourceEntry? ++ compiled.map CompiledStage.shaderEntry := by
  have listings : (compiled.filterMap CompiledStage.disassemblyEntry?).filter (·.category ≠ .disassembly) = [] := by
    rw [List.filter_eq_nil_iff]
    intro entry inside
    obtain ⟨s, _, made⟩ := List.mem_filterMap.mp inside
    unfold CompiledStage.disassemblyEntry? at made
    split at made
    · cases made
    · obtain ⟨_, _, rfl⟩ := Option.map_eq_some_iff.mp made
      simp [Entry.of]
  have others : (compiled.filterMap CompiledStage.sourceEntry? ++ compiled.map CompiledStage.shaderEntry).filter
      (·.category ≠ .disassembly) =
        compiled.filterMap CompiledStage.sourceEntry? ++ compiled.map CompiledStage.shaderEntry := by
    rw [List.filter_eq_self]
    intro entry inside
    rcases List.mem_append.mp inside with source | shader
    · obtain ⟨s, _, made⟩ := List.mem_filterMap.mp source
      obtain ⟨_, _, rfl⟩ := Option.map_eq_some_iff.mp made
      simp [Entry.of]
    · obtain ⟨s, _, rfl⟩ := List.mem_map.mp shader
      simp [CompiledStage.shaderEntry, Entry.of]
  rw [groupEntries, List.filter_append, others, listings, List.append_nil]

theorem groupEntries_alike {compiled compiled' : List CompiledStage}
    (alike : List.Forall₂ CompiledStage.Alike compiled compiled') :
    (groupEntries compiled).filter (·.category ≠ .disassembly) =
      (groupEntries compiled').filter (·.category ≠ .disassembly) := by
  have same : compiled.filterMap CompiledStage.sourceEntry? = compiled'.filterMap CompiledStage.sourceEntry? ∧
      compiled.map CompiledStage.shaderEntry = compiled'.map CompiledStage.shaderEntry := by
    induction alike with
    | nil => exact ⟨rfl, rfl⟩
    | cons first _ ih =>
      rw [List.filterMap_cons, List.filterMap_cons, List.map_cons, List.map_cons, first.1, first.2, ih.1, ih.2]
      exact ⟨rfl, rfl⟩
  rw [groupEntries_filter_category, groupEntries_filter_category, same.1, same.2]

/-- The debug branch does not feed the main line. Two pipelines with the same tools and the same backend fail
alike on an entry or leave the same outputs, the same final one and the same binary, and the same failures
outside the debug branch, unless a debug pass is given up. Where the tools and the backend succeed on all stages,
the same sources and shaders are presented. -/
theorem Library.compile_ignores_debug (lib : Library) {d d' : Description} (tools : d.toolPasses = d'.toolPasses)
    (backend : d.backend = d'.backend) :
    (∀ entry, Outcome.Agree (fun r r' => r.primary = r'.primary ∧ r.finalOutput? = r'.finalOutput? ∧
          r.binary? = r'.binary? ∧
          r.failures.filter (·.branch ≠ .debug) = r'.failures.filter (·.branch ≠ .debug))
        (fun stop => ∃ type ∈ entry, ∃ binary, lib.emitType type = .ok binary ∧
          ∃ cause, stop = .abort cause ∧ d.DebugGivesUp binary cause)
        (fun stop => ∃ type ∈ entry, ∃ binary, lib.emitType type = .ok binary ∧
          ∃ cause, stop = .abort cause ∧ d'.DebugGivesUp binary cause)
        (lib.compile entry d) (lib.compile entry d')) ∧
      ∀ definitions, d.SucceedsOn lib definitions →
        Outcome.Agree (fun entries entries' => entries.filter (·.category ≠ .disassembly) =
            entries'.filter (·.category ≠ .disassembly))
          (d.DebugGivesUpOn lib definitions) (d'.DebugGivesUpOn lib definitions)
          (lib.stageEntries d definitions) (lib.stageEntries d' definitions) := by
  constructor
  · intro entry
    refine (lib.compile_agree tools backend entry).mono (fun r r' _ _ same => ?_) (fun _ => id) fun _ => id
    exact MainLine.mk.inj same
  · intro definitions succeeds
    have compiled : Outcome.Agree (List.Forall₂ CompiledStage.Alike) (d.DebugGivesUpOn lib definitions)
        (d'.DebugGivesUpOn lib definitions) (lib.compileStages d definitions) (lib.compileStages d' definitions) := by
      refine Outcome.filterMapM_agree fun definition inside => ?_
      have member := StageDefinition.mem_inOrder.mp inside
      exact (CompiledStage.of?_agree tools backend (succeeds definition member)).mono (fun _ _ _ _ alike => alike)
        (fun _ stops => ⟨definition, member, stops⟩) fun _ stops => ⟨definition, member, stops⟩
    exact compiled.map fun _ _ alike => groupEntries_alike alike

/-- The forked pipeline with another debug branch, which fails at once. -/
def Description.unlisted : Description := { Description.forked with debugPasses := [.refuse "listing" (.parse "none")] }

theorem Description.forked_succeedsOn (lib : Library) (definitions : List StageDefinition) :
    Description.forked.SucceedsOn lib definitions := fun _ _ _ _ => ⟨_, _, _, _, .cons rfl .nil, rfl, rfl⟩

theorem Library.namedRing_ignores_debug :
    Description.forked.SucceedsOn namedRing StageDefinition.mixed ∧
      (∃ r r', namedRing.compile (some ⟨0⟩) .forked = .ok r ∧ namedRing.compile (some ⟨0⟩) .unlisted = .ok r' ∧
        r.debug.length = 1 ∧ r'.debug.length = 0 ∧ r.primary = r'.primary ∧ r.finalOutput? = r'.finalOutput?) ∧
      ∃ entries entries', namedRing.stageEntries .forked StageDefinition.mixed = .ok entries ∧
        namedRing.stageEntries .unlisted StageDefinition.mixed = .ok entries' ∧
        entries.filter (·.category ≠ .disassembly) = entries'.filter (·.category ≠ .disassembly) := by
  have tools : Description.forked.toolPasses = Description.unlisted.toolPasses := rfl
  have succeeds := Description.forked_succeedsOn namedRing StageDefinition.mixed
  obtain ⟨results, entries⟩ := namedRing.compile_ignores_debug tools rfl
  have listed (d : Description) (count : Nat)
      (ran : (fun r => r.debug.length) <$> namedRing.compile (some ⟨0⟩) d = .ok count) :
      ∃ r, namedRing.compile (some ⟨0⟩) d = .ok r ∧ r.debug.length = count := Outcome.map_eq_ok_iff.mp ran
  obtain ⟨r, compiled, first⟩ := listed .forked 1 (by decide +kernel)
  obtain ⟨r', compiled', second⟩ := listed .unlisted 0 (by decide +kernel)
  have presented (d : Description) (ran : List.length <$> namedRing.compileStages d StageDefinition.mixed = .ok 3) :
      ∃ entries, namedRing.stageEntries d StageDefinition.mixed = .ok entries := by
    obtain ⟨stages, finished, _⟩ := Outcome.map_eq_ok_iff.mp ran
    exact ⟨_, stageEntries_eq_ok finished⟩
  simp only [compileStages_eq, StageDefinition.inOrder_mixed] at presented
  obtain ⟨texts, shown⟩ := presented .forked (by decide +kernel)
  obtain ⟨texts', shown'⟩ := presented .unlisted (by decide +kernel)
  have same := results (some ⟨0⟩)
  rw [compiled, compiled'] at same
  have alike := entries _ succeeds
  rw [shown, shown'] at alike
  exact ⟨succeeds, ⟨r, r', compiled, compiled', first, second, same.of_ok.1, same.of_ok.2.1⟩,
    texts, texts', shown, shown', alike.of_ok⟩

/-- An array whose length is a constant of another type than a number. -/
def Library.flagSized : Library where
  types := #[
    { name := "f32", shape := { kind := .float 32 } },
    { name := "bool", shape := { kind := .bool } },
    { name := "array<f32>", shape := { kind := .array, component := some ⟨0⟩, parameters := [.op ⟨0⟩] } },
    { name := "S", shape := { kind := .struct, parameters := [.type ⟨2⟩] } }]
  ops := #[{ opcode := .opConstant, resultType := some ⟨1⟩, args := [.literal ⟨0⟩] }]
  literals := #[.int 1]

/-- A pipeline that lists what it hands on. -/
def Description.listed : Description where
  toolPasses := []
  debugPasses := [disassembler]
  backend := .handOn "backend"

/-- Giving up is not kept within the debug branch: there is nothing to hand on for a listing that cannot be
made, and all is well without it. -/
theorem Library.flagSized_lost_to_debug :
    (∃ r, flagSized.compile (some ⟨3⟩) { Description.listed with debugPasses := [] } = .ok r ∧ r.failures = []) ∧
      flagSized.compile (some ⟨3⟩) .listed = .error (.abort (.untypedConstant 3)) := by
  have unlisted : (fun r => r.failures) <$> flagSized.compile (some ⟨3⟩) { Description.listed with debugPasses := [] } =
      .ok [] := by decide +kernel
  exact ⟨Outcome.map_eq_ok_iff.mp unlisted, by decide +kernel⟩

end ShaderGraph
