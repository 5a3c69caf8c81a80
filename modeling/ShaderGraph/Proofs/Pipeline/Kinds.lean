import ShaderGraph.Pass.Id
import ShaderGraph.Proofs.Pipeline.Reference

namespace ShaderGraph

/-- A pass with the kind of artifact that it would be given. -/
structure Handover where
  pass : Pass
  given : ArtifactKind

/-- The pass takes what it would be given. -/
def Handover.Fits (step : Handover) : Prop := step.pass.input = step.given

instance (step : Handover) : Decidable step.Fits := inferInstanceAs (Decidable (_ = _))

def Handover.mismatch (step : Handover) : PipelineError :=
  .incompatiblePass step.pass.name step.pass.input step.given

/-- Passes in a row: the first would be given `first`, every other one what the pass before it declares
to make. -/
def handovers (first : ArtifactKind) (passes : List Pass) : List Handover :=
  List.zipWith Handover.mk passes (first :: passes.map Pass.output)

/-- What passes in a row declare to make in the end. -/
def lastOutput (first : ArtifactKind) (passes : List Pass) : ArtifactKind :=
  (passes.map Pass.output).getLastD first

/-- The passes of a request in the order tools, debug passes, backend. The first tool would be given the
emitted binary, the first debug pass and the backend both what the last tool declares to make. -/
def PipelineRequest.handovers (r : PipelineRequest) (backend : Pass) : List Handover :=
  ShaderGraph.handovers .binary r.toolPasses ++
    ShaderGraph.handovers (lastOutput .binary r.toolPasses) r.debugPasses ++
    [⟨backend, lastOutput .binary r.toolPasses⟩]

/-- An attempt does not fail because of the kind of an artifact. -/
def Attempt.KeepsKinds {α : Type} (attempt : Attempt PassError α) : Prop :=
  ∀ name expected found, attempt ≠ .error (.error (.unexpectedArtifact name expected found))

/-- A pass honours its declaration: given an artifact of the kind it takes, it makes one of the kind it
declares, or fails for another reason than the kind of the artifact. -/
def Pass.Honours (pass : Pass) : Prop :=
  ∀ artifact, artifact.kind = pass.input →
    (pass.run artifact).KeepsKinds ∧ ∀ output, pass.run artifact = .ok output → output.kind = pass.output

theorem Attempt.KeepsKinds.bind {α β : Type} {x : Attempt PassError α} {f : α → Attempt PassError β}
    (first : x.KeepsKinds) (others : ∀ value, x = .ok value → (f value).KeepsKinds) :
    Attempt.KeepsKinds (x >>= f) := by
  cases x with
  | ok value => exact others value rfl
  | error stop => exact fun name expected found failed => first name expected found (by cases failed; rfl)

theorem Attempt.keepsKinds_ok {α : Type} (value : α) : Attempt.KeepsKinds (.ok value) := by
  intro _ _ _ same
  cases same

theorem Attempt.keepsKinds_abort {α : Type} (cause : Abort) :
    Attempt.KeepsKinds (.error (.abort cause) : Attempt PassError α) := by
  intro _ _ _ same
  cases same

theorem Attempt.keepsKinds_fail {α : Type} {error : PassError}
    (other : ∀ name expected found, error ≠ .unexpectedArtifact name expected found) :
    Attempt.KeepsKinds (Attempt.fail error : Attempt PassError α) := by
  intro name expected found same
  cases same
  exact other name expected found rfl

theorem Attempt.keepsKinds_lift {α : Type} (x : Except Abort α) : Attempt.KeepsKinds (liftM x) := by
  cases x with
  | ok value => exact Attempt.keepsKinds_ok value
  | error cause => exact Attempt.keepsKinds_abort cause

theorem readModule_keepsKinds (words : List UInt32) : (readModule words).KeepsKinds := by
  unfold readModule
  cases Spirv.Module.ofWords words with
  | ok m => exact Attempt.keepsKinds_ok m
  | error stop =>
    cases stop with
    | abort cause => exact Attempt.keepsKinds_abort cause
    | error fault => exact Attempt.keepsKinds_fail (by simp)

/-- The passes that can be asked for by name honour their declarations. -/
theorem PassId.pass_honours (id : PassId) : id.pass.Honours := by
  intro artifact taken
  cases artifact with
  | text value => cases id <;> cases taken
  | binary value =>
    cases id with
    | optimizer =>
      refine ⟨(readModule_keepsKinds value.words).bind fun m _ => Attempt.keepsKinds_ok _, fun output gave => ?_⟩
      obtain ⟨_, _, gave⟩ := Outcome.bind_eq_ok_iff.mp gave
      obtain ⟨m, _, gave⟩ := Outcome.bind_eq_ok_iff.mp gave
      cases gave
      rfl
    | disassembler =>
      refine ⟨(readModule_keepsKinds value.words).bind fun m _ =>
        (Attempt.keepsKinds_lift m.listing).bind fun text _ => Attempt.keepsKinds_ok _, fun output gave => ?_⟩
      obtain ⟨_, _, gave⟩ := Outcome.bind_eq_ok_iff.mp gave
      obtain ⟨m, _, gave⟩ := Outcome.bind_eq_ok_iff.mp gave
      obtain ⟨text, _, gave⟩ := Outcome.bind_eq_ok_iff.mp gave
      cases gave
      rfl
    | wgsl =>
      cases read : Wgsl.Shader.ofWords value.words with
      | error fault =>
        have ran : PassId.wgsl.pass.run (.binary value) = Attempt.fail (.parse fault.message) := by
          simp [PassId.pass, ShaderGraph.wgsl, expectBinary, bind, Except.bind, read]
        rw [ran]
        exact ⟨Attempt.keepsKinds_fail (by simp), fun output gave => by cases gave⟩
      | ok shader =>
        cases checked : shader.invalid? with
        | some invalid =>
          have ran : PassId.wgsl.pass.run (.binary value) = Attempt.fail (.validation invalid.message) := by
            simp [PassId.pass, ShaderGraph.wgsl, expectBinary, bind, Except.bind, read, checked]
          rw [ran]
          exact ⟨Attempt.keepsKinds_fail (by simp), fun output gave => by cases gave⟩
        | none =>
          have ran : PassId.wgsl.pass.run (.binary value) = .ok (.text shader.text) := by
            simp [PassId.pass, ShaderGraph.wgsl, expectBinary, bind, Except.bind, read, checked, pure, Except.pure]
          rw [ran]
          refine ⟨Attempt.keepsKinds_ok _, fun output gave => ?_⟩
          cases gave
          rfl

@[simp] theorem handovers_cons (first : ArtifactKind) (pass : Pass) (rest : List Pass) :
    handovers first (pass :: rest) = ⟨pass, first⟩ :: handovers pass.output rest := rfl

@[simp] theorem lastOutput_cons (first : ArtifactKind) (pass : Pass) (rest : List Pass) :
    lastOutput first (pass :: rest) = lastOutput pass.output rest := by
  rw [lastOutput, List.map_cons, List.getLastD_cons, lastOutput]

/-! The check of a request goes through its handovers in order and stops at the first that does not fit. -/

def checkAll (steps : List Handover) : Except PipelineError Unit :=
  forM steps fun step => step.pass.check step.given

theorem checkChain_eq (first : ArtifactKind) (passes : List Pass) :
    checkChain first passes = (fun _ => lastOutput first passes) <$> checkAll (handovers first passes) := by
  induction passes generalizing first with
  | nil => rfl
  | cons pass rest ih =>
    simp only [checkChain, ih, handovers_cons, lastOutput_cons, checkAll, List.forM_cons, map_bind]

theorem PipelineRequest.build_eq {r : PipelineRequest} {backend : Pass} (given : r.backend = some backend) :
    r.build = (fun _ => ⟨r.toolPasses, r.debugPasses, backend⟩) <$> checkAll (r.handovers backend) := by
  simp only [build, given, checkChain_eq, PipelineRequest.handovers, checkAll, List.forM_append, List.forM_cons,
    List.forM_nil, bind_map_left, map_bind, bind_assoc]
  rfl

theorem checkAll_eq_ok_iff {steps : List Handover} :
    checkAll steps = .ok () ↔ ∀ step ∈ steps, step.Fits := by
  induction steps with
  | nil => simp [checkAll, pure, Except.pure]
  | cons step rest ih =>
    have first : step.pass.check step.given = .ok () ↔ step.Fits := by
      unfold Pass.check Handover.Fits
      split <;> simp [*]
    rw [checkAll, List.forM_cons, Outcome.bind_eq_ok_iff, List.forall_mem_cons, ← first, ← ih]
    constructor
    · rintro ⟨⟨⟩, passed, others⟩
      exact ⟨passed, others⟩
    · rintro ⟨passed, others⟩
      exact ⟨(), passed, others⟩

theorem checkAll_eq_error {before after : List Handover} {step : Handover}
    (fit : ∀ earlier ∈ before, earlier.Fits) (misfit : ¬step.Fits) :
    checkAll (before ++ step :: after) = .error step.mismatch := by
  have passed := checkAll_eq_ok_iff.mpr fit
  have refused : step.pass.check step.given = .error step.mismatch := if_neg misfit
  simp only [checkAll] at passed ⊢
  rw [List.forM_append, passed, List.forM_cons, refused]
  rfl

theorem PipelineRequest.build_eq_ok_iff {r : PipelineRequest} {d : Description} :
    r.build = .ok d ↔ ∃ backend, r.backend = some backend ∧ d = ⟨r.toolPasses, r.debugPasses, backend⟩ ∧
      ∀ step ∈ r.handovers backend, step.Fits := by
  cases given : r.backend with
  | none => simp [build, given]
  | some backend =>
    simp only [build_eq given, Outcome.map_eq_ok_iff, ← checkAll_eq_ok_iff, Option.some.injEq, exists_eq_left']
    constructor
    · rintro ⟨⟨⟩, passed, rfl⟩
      exact ⟨rfl, passed⟩
    · rintro ⟨rfl, passed⟩
      exact ⟨(), passed, rfl⟩

/-! What is checked of the declarations holds of the artifacts. -/

def Pass.label (pass : Pass) : String × ArtifactKind := (pass.name, pass.output)

def PassOutput.label (output : PassOutput) : String × ArtifactKind := (output.pass, output.artifact.kind)

variable {branch : Branch} {input last : Artifact} {passes : List Pass} {outputs : List PassOutput}

/-- Along passes in a row each artifact has the kind that its pass declares. -/
theorem Chained.labels (chain : Chained input passes outputs last)
    (fit : ∀ step ∈ handovers input.kind passes, step.Fits) (honour : ∀ pass ∈ passes, pass.Honours) :
    outputs.map PassOutput.label = passes.map Pass.label ∧ last.kind = lastOutput input.kind passes := by
  induction chain with
  | nil => exact ⟨rfl, rfl⟩
  | @cons input output last pass rest outputs gave tail ih =>
    rw [handovers_cons, List.forall_mem_cons] at fit
    rw [List.forall_mem_cons] at honour
    have kind : output.kind = pass.output := (honour.1 input fit.1.symm).2 output gave
    obtain ⟨labels, final⟩ := ih (kind ▸ fit.2) honour.2
    rw [List.map_cons, List.map_cons, labels, lastOutput_cons, ← kind]
    exact ⟨by rw [Pass.label, PassOutput.label, kind], final⟩

theorem handovers_append (first : ArtifactKind) (front back : List Pass) :
    handovers first (front ++ back) = handovers first front ++ handovers (lastOutput first front) back := by
  induction front generalizing first with
  | nil => rfl
  | cons pass rest ih => simp [ih]

theorem lastOutput_append (first : ArtifactKind) (front back : List Pass) :
    lastOutput first (front ++ back) = lastOutput (lastOutput first front) back := by
  induction front generalizing first with
  | nil => rfl
  | cons pass rest ih => simp [ih]

theorem Pass.Honours.not_unexpected {pass : Pass} {artifact : Artifact} {error : PassError}
    (honours : pass.Honours) (fits : artifact.kind = pass.input)
    (failed : pass.run artifact = .error (.error error)) (name : String) (expected found : ArtifactKind) :
    error ≠ .unexpectedArtifact name expected found := by
  rintro rfl
  exact (honours artifact fits).1 name expected found failed

/-- Where the declarations fit, a row of passes does not fail because of the kind of an artifact. -/
theorem ChainEnds.labels {failure? : Option PassFailure} (ends : ChainEnds branch input passes outputs failure?)
    (fit : ∀ step ∈ handovers input.kind passes, step.Fits) (honour : ∀ pass ∈ passes, pass.Honours) :
    outputs.map PassOutput.label <+: passes.map Pass.label ∧
      ∀ failure ∈ failure?.toList, ∀ name expected found,
        failure.error ≠ .unexpectedArtifact name expected found := by
  cases ends with
  | finished chain =>
    rw [(chain.labels fit honour).1]
    exact ⟨List.prefix_rfl, by simp⟩
  | @failed pass after _ last error before split chain failed =>
    subst split
    rw [handovers_append, handovers_cons] at fit
    obtain ⟨labels, kind⟩ := chain.labels (fun step inside => fit step (List.mem_append_left _ inside))
      fun pass inside => honour pass (List.mem_append_left _ inside)
    have fits : pass.input = lastOutput input.kind before :=
      fit ⟨pass, _⟩ (List.mem_append_right _ (List.mem_cons_self ..))
    have honours := honour pass (List.mem_append_right _ (List.mem_cons_self ..))
    refine ⟨by rw [labels, List.map_append]; exact List.prefix_append .., fun failure inside => ?_⟩
    cases List.mem_singleton.mp inside
    exact honours.not_unexpected (kind.trans fits.symm) failed

theorem Library.exists_leaves_of_compile {lib : Library} {entry : Option TypeId} {d : Description}
    {results : Results} (compiled : lib.compile entry d = .ok results) : ∃ binary, d.Leaves binary results := by
  cases entry with
  | none => cases compiled
  | some entry =>
    cases emitted : lib.emitType entry with
    | ok binary => exact ⟨binary, (Library.compile_eq_ok_iff emitted).mp compiled⟩
    | error stop => simp [Library.compile, emitted, Except.mapError, bind, Except.bind] at compiled

/-- A pipeline whose declarations fit and are honoured has outputs of the kinds declared, in order and as
far as it comes, and never fails because of the kind of an artifact. -/
theorem Description.Leaves.labels {d : Description} {binary : Binary} {results : Results}
    (leaves : d.Leaves binary results)
    (fit : ∀ step ∈ (PipelineRequest.mk d.toolPasses d.debugPasses d.backend).handovers d.backend, step.Fits)
    (honour : ∀ pass ∈ d.passes, pass.Honours) :
    results.primary.map PassOutput.label <+:
        (emitterName, .binary) :: (d.toolPasses ++ [d.backend]).map Pass.label ∧
      results.debug.map PassOutput.label <+: d.debugPasses.map Pass.label ∧
      ∀ failure ∈ results.failures, ∀ name expected found,
        failure.error ≠ .unexpectedArtifact name expected found := by
  simp only [PipelineRequest.handovers, List.forall_mem_append, List.forall_mem_singleton] at fit
  simp only [Description.passes, List.forall_mem_append, List.forall_mem_singleton] at honour
  obtain ⟨⟨toolsFit, debugFit⟩, backendFits⟩ := fit
  obtain ⟨⟨toolsHonour, debugHonour⟩, backendHonours⟩ := honour
  cases leaves with
  | toolFailed ends =>
    obtain ⟨labels, harmless⟩ := ends.labels toolsFit toolsHonour
    refine ⟨?_, List.nil_prefix, by simpa using harmless⟩
    rw [List.map_cons, List.map_append]
    exact List.prefix_cons_inj _ |>.mpr (labels.trans (List.prefix_append ..))
  | backendGave chain ends gave =>
    obtain ⟨labels, kind⟩ := chain.labels toolsFit toolsHonour
    obtain ⟨debugLabels, harmless⟩ := ends.labels (kind ▸ debugFit) debugHonour
    have made := (backendHonours _ (kind.trans backendFits.symm)).2 _ gave
    have final : PassOutput.label ⟨d.backend.name, _⟩ = d.backend.label := congrArg _ made
    refine ⟨?_, debugLabels, harmless⟩
    rw [List.map_append, List.map_cons, labels, List.map_singleton, final, List.map_append]
    exact List.prefix_rfl
  | backendFailed chain ends failed =>
    obtain ⟨labels, kind⟩ := chain.labels toolsFit toolsHonour
    obtain ⟨debugLabels, harmless⟩ := ends.labels (kind ▸ debugFit) debugHonour
    refine ⟨?_, debugLabels, fun failure inside => ?_⟩
    · simp [labels, PassOutput.label, Artifact.kind]
    · rcases List.mem_append.mp inside with early | final
      · exact harmless failure early
      · cases List.mem_singleton.mp final
        exact backendHonours.not_unexpected (kind.trans backendFits.symm) failed

/-- The check at set-up is exact: it accepts a request if there is a backend and every pass takes what the
one it follows declares to make, and else names the first pass that does not. And it is sound: where it
accepts passes that honour their declarations, no run fails because of the kind of an artifact, and every
artifact is of the kind that its pass declares. -/
theorem PipelineRequest.build_sound_and_complete (r : PipelineRequest) :
    (∀ d, r.build = .ok d ↔ ∃ backend, r.backend = some backend ∧
      d = ⟨r.toolPasses, r.debugPasses, backend⟩ ∧ ∀ step ∈ r.handovers backend, step.Fits) ∧
    (r.backend = none → r.build = .error .missingBackend) ∧
    (∀ backend before step after, r.backend = some backend → r.handovers backend = before ++ step :: after →
      (∀ earlier ∈ before, earlier.Fits) → ¬step.Fits →
      r.build = .error (.incompatiblePass step.pass.name step.pass.input step.given)) ∧
    ∀ d, r.build = .ok d → (∀ pass ∈ d.passes, pass.Honours) →
      ∀ (lib : Library) (entry : Option TypeId) (results : Results), lib.compile entry d = .ok results →
        results.primary.map PassOutput.label <+:
            (emitterName, .binary) :: (d.toolPasses ++ [d.backend]).map Pass.label ∧
          results.debug.map PassOutput.label <+: d.debugPasses.map Pass.label ∧
          ∀ failure ∈ results.failures, ∀ name expected found,
            failure.error ≠ .unexpectedArtifact name expected found := by
  refine ⟨fun d => build_eq_ok_iff, fun missing => by rw [build, missing], ?_, ?_⟩
  · intro backend before step after given split fit misfit
    rw [build_eq given, split, checkAll_eq_error fit misfit]
    rfl
  · intro d built honour lib entry results compiled
    obtain ⟨backend, _, rfl, fit⟩ := build_eq_ok_iff.mp built
    obtain ⟨binary, leaves⟩ := Library.exists_leaves_of_compile compiled
    exact leaves.labels fit honour

/-- One pass of each kind: the optimizer, a listing on the side and the text backend. -/
def PipelineRequest.standard : PipelineRequest :=
  ⟨[PassId.optimizer.pass], [PassId.disassembler.pass], some PassId.wgsl.pass⟩

/-- The listing stands where a module is still asked for. -/
def PipelineRequest.listedTooEarly : PipelineRequest :=
  ⟨[PassId.disassembler.pass, PassId.optimizer.pass], [], some PassId.wgsl.pass⟩

/-- A library with one type, which no function belongs to. -/
def Library.onlyVoid : Library where
  types := #[{ name := "void", shape := { kind := .void } }]

theorem PipelineRequest.standard_sound :
    PipelineRequest.listedTooEarly.build = .error (.incompatiblePass "optimizer" .binary .text) ∧
      ∃ d results, PipelineRequest.standard.build = .ok d ∧
        Library.onlyVoid.compile (some ⟨0⟩) d = .ok results ∧
        results.primary.map PassOutput.label =
          [("spirv-binary", .binary), ("optimizer", .binary), ("wgsl", .text)] ∧
        results.debug.map PassOutput.label = [("disassembler", .text)] ∧
        results.primary.map PassOutput.label <+:
          (emitterName, .binary) :: (d.toolPasses ++ [d.backend]).map Pass.label ∧
        ∀ failure ∈ results.failures, ∀ name expected found,
          failure.error ≠ .unexpectedArtifact name expected found := by
  have run : (fun results => (results.primary.map PassOutput.label, results.debug.map PassOutput.label)) <$>
      Library.onlyVoid.compile (some ⟨0⟩)
        ⟨[PassId.optimizer.pass], [PassId.disassembler.pass], PassId.wgsl.pass⟩ =
      .ok ([("spirv-binary", .binary), ("optimizer", .binary), ("wgsl", .text)], [("disassembler", .text)]) := by
    decide +kernel
  obtain ⟨results, compiled, labels⟩ := Outcome.map_eq_ok_iff.mp run
  obtain ⟨primary, debug⟩ := Prod.mk.inj labels
  obtain ⟨_, _, firstMisfit, _⟩ := PipelineRequest.listedTooEarly.build_sound_and_complete
  obtain ⟨accepts, _, _, sound⟩ := PipelineRequest.standard.build_sound_and_complete
  have built := (accepts _).mpr ⟨PassId.wgsl.pass, rfl, rfl, by decide⟩
  have honoured := sound _ built (by
    simp [Description.passes, PipelineRequest.standard, PassId.pass_honours]) _ _ _ compiled
  refine ⟨firstMisfit PassId.wgsl.pass [⟨PassId.disassembler.pass, .binary⟩] ⟨PassId.optimizer.pass, .text⟩
    [⟨PassId.wgsl.pass, .binary⟩] rfl rfl (by decide) (by decide), ?_⟩
  exact ⟨_, results, built, compiled, primary, debug, honoured.1, honoured.2.2⟩

end ShaderGraph
