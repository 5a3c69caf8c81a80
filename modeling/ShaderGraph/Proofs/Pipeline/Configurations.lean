import Mathlib.Data.List.Induction
import ShaderGraph.Config
import ShaderGraph.Proofs.Pipeline.Kinds

namespace ShaderGraph

namespace PassId

/-! All passes that can be asked for take a module. Only the optimizer makes one. -/

@[simp] theorem pass_name (id : PassId) : id.pass.name = id.name := by cases id <;> rfl

@[simp] theorem pass_input (id : PassId) : id.pass.input = .binary := by cases id <;> rfl

@[simp] theorem pass_output (id : PassId) : id.pass.output = if id = .optimizer then .binary else .text := by
  cases id <;> rfl

theorem fits_iff {id : PassId} {given : ArtifactKind} : Handover.Fits ⟨id.pass, given⟩ ↔ given = .binary := by
  simp [Handover.Fits, eq_comm]

end PassId

/-- Passes in a row fit and hand on a module exactly if all of them are optimizers. -/
theorem handovers_fit_and_lastOutput_iff {ids : List PassId} :
    (∀ step ∈ handovers .binary (ids.map PassId.pass), step.Fits) ∧
        lastOutput .binary (ids.map PassId.pass) = .binary ↔ ∀ id ∈ ids, id = .optimizer := by
  induction ids with
  | nil => simp [handovers, lastOutput]
  | cons id rest ih =>
    rw [List.map_cons, handovers_cons, lastOutput_cons, List.forall_mem_cons, List.forall_mem_cons, id.pass_output]
    by_cases same : id = .optimizer
    · rw [if_pos same, and_assoc, ih]
      simp [PassId.fits_iff, same]
    · rw [if_neg same]
      refine iff_of_false ?_ fun all => same all.1
      rintro ⟨⟨_, fit⟩, last⟩
      -- What is made here is no binary, so no pass can follow and none can be handed on.
      cases rest with
      | nil => cases last
      | cons next others => cases PassId.fits_iff.mp (fit ⟨next.pass, .text⟩ (List.mem_cons_self ..))

/-- Passes in a row fit exactly if all but the last are optimizers. -/
theorem handovers_fit_iff {ids : List PassId} :
    (∀ step ∈ handovers .binary (ids.map PassId.pass), step.Fits) ↔ ∀ id ∈ ids.dropLast, id = .optimizer := by
  cases ids using List.reverseRecOn with
  | nil => simp [handovers]
  | append_singleton front last =>
    rw [List.dropLast_concat, ← handovers_fit_and_lastOutput_iff, List.map_append, handovers_append,
      List.forall_mem_append]
    refine and_congr_right fun _ => ?_
    simp [handovers, PassId.fits_iff]

namespace PipelineSection

/-- Only what is not handed on may be another pass than the optimizer: the last debug pass, and the backend. -/
structure IsFit (p : PipelineSection) : Prop where
  tools : ∀ id ∈ p.toolPasses, id = .optimizer
  debug : ∀ id ∈ p.debugPasses.dropLast, id = .optimizer

/-- The pass that is checked after the first one that hands on something else than a module. After the last tool
this is the first debug pass, or the backend if there is none. -/
inductive Refuses (p : PipelineSection) (backend : PassId) : PassId → Prop
  | afterTool {before id rest next after} : p.toolPasses = before ++ id :: rest →
      (∀ early ∈ before, early = .optimizer) → id ≠ .optimizer →
      rest ++ p.debugPasses ++ [backend] = next :: after → Refuses p backend next
  | afterDebug {before id next after} : (∀ tool ∈ p.toolPasses, tool = .optimizer) →
      p.debugPasses = before ++ id :: next :: after → (∀ early ∈ before, early = .optimizer) → id ≠ .optimizer →
      Refuses p backend next

theorem exists_first_other {ids : List PassId} (mixed : ¬∀ id ∈ ids, id = .optimizer) :
    ∃ before id rest, ids = before ++ id :: rest ∧ (∀ early ∈ before, early = .optimizer) ∧ id ≠ .optimizer := by
  induction ids with
  | nil => exact absurd (List.forall_mem_nil _) mixed
  | cons first others ih =>
    by_cases same : first = .optimizer
    · obtain ⟨before, id, rest, rfl, early, other⟩ := ih fun all => mixed (List.forall_mem_cons.mpr ⟨same, all⟩)
      exact ⟨first :: before, id, rest, rfl, List.forall_mem_cons.mpr ⟨same, early⟩, other⟩
    · exact ⟨[], first, others, rfl, List.forall_mem_nil _, same⟩

variable {p : PipelineSection} {backend refused : PassId}

theorem exists_refuses (unfit : ¬p.IsFit) (backend : PassId) : ∃ refused, p.Refuses backend refused := by
  by_cases tools : ∀ id ∈ p.toolPasses, id = .optimizer
  · obtain ⟨before, id, rest, split, early, other⟩ := exists_first_other fun debug => unfit ⟨tools, debug⟩
    rcases p.debugPasses.eq_nil_or_concat' with none | ⟨front, last, whole⟩
    · simp [none] at split
    · rw [whole, List.dropLast_concat] at split
      obtain ⟨next, after, following⟩ : ∃ next after, rest ++ [last] = next :: after :=
        List.exists_cons_of_ne_nil (by simp)
      rw [split, List.append_assoc, List.cons_append, following] at whole
      exact ⟨next, .afterDebug tools whole early other⟩
  · obtain ⟨before, id, rest, split, early, other⟩ := exists_first_other tools
    obtain ⟨next, after, following⟩ : ∃ next after, rest ++ p.debugPasses ++ [backend] = next :: after :=
      List.exists_cons_of_ne_nil (by simp)
    exact ⟨next, .afterTool split early other following⟩

/-- After a tool the check goes on with the pass that follows, which is given what the tool makes. -/
theorem exists_following (given : ArtifactKind) {rest debug : List PassId} {next : PassId} {after : List PassId}
    (following : rest ++ debug ++ [backend] = next :: after) :
    ∃ steps, handovers given (rest.map PassId.pass) ++
        handovers (lastOutput given (rest.map PassId.pass)) (debug.map PassId.pass) ++
        [⟨backend.pass, lastOutput given (rest.map PassId.pass)⟩] = ⟨next.pass, given⟩ :: steps := by
  cases rest with
  | cons first others =>
    cases following
    exact ⟨_, rfl⟩
  | nil => cases debug <;> cases following <;> exact ⟨_, rfl⟩

/-- The check comes to the pass that is refused: it would be given a text, and all passes before it fit. -/
theorem Refuses.exists_split {c : Config} (refuses : c.pipeline.Refuses backend refused) :
    ∃ before after, c.request.handovers backend.pass = before ++ ⟨refused.pass, .text⟩ :: after ∧
      ∀ step ∈ before, step.Fits := by
  cases refuses with
  | @afterTool before id rest _ _ split early other following =>
    obtain ⟨fit, binary⟩ := handovers_fit_and_lastOutput_iff.mpr early
    obtain ⟨steps, following⟩ := exists_following .text following
    refine ⟨handovers .binary (before.map PassId.pass) ++ [⟨id.pass, .binary⟩], steps, ?_, ?_⟩
    · rw [PipelineRequest.handovers, Config.request, split, List.map_append, List.map_cons, handovers_append,
        handovers_cons, lastOutput_append, lastOutput_cons, binary, id.pass_output, if_neg other, ← following]
      simp
    · exact List.forall_mem_append.mpr ⟨fit, List.forall_mem_singleton.mpr (PassId.fits_iff.mpr rfl)⟩
  | @afterDebug before id _ after tools split early other =>
    obtain ⟨fit, binary⟩ := handovers_fit_and_lastOutput_iff.mpr tools
    obtain ⟨earlyFit, still⟩ := handovers_fit_and_lastOutput_iff.mpr early
    refine ⟨handovers .binary (c.pipeline.toolPasses.map PassId.pass) ++
      (handovers .binary (before.map PassId.pass) ++ [⟨id.pass, .binary⟩]),
      handovers refused.pass.output (after.map PassId.pass) ++ [⟨backend.pass, .binary⟩], ?_, ?_⟩
    · rw [PipelineRequest.handovers, Config.request, binary, split, List.map_append, List.map_cons, List.map_cons,
        handovers_append, handovers_cons, handovers_cons, still, id.pass_output, if_neg other]
      simp
    · simp only [List.forall_mem_append, List.forall_mem_singleton]
      exact ⟨fit, earlyFit, PassId.fits_iff.mpr rfl⟩

end PipelineSection

theorem Config.request_fits_iff {c : Config} {backend : PassId} :
    (∀ step ∈ c.request.handovers backend.pass, step.Fits) ↔ c.pipeline.IsFit := by
  simp only [PipelineRequest.handovers, Config.request, List.forall_mem_append, List.forall_mem_singleton,
    PassId.fits_iff]
  constructor
  · rintro ⟨⟨tools, debug⟩, binary⟩
    rw [binary] at debug
    exact ⟨handovers_fit_and_lastOutput_iff.mp ⟨tools, binary⟩, handovers_fit_iff.mp debug⟩
  · rintro ⟨tools, debug⟩
    obtain ⟨fit, binary⟩ := handovers_fit_and_lastOutput_iff.mpr tools
    rw [binary]
    exact ⟨⟨fit, handovers_fit_iff.mpr debug⟩, rfl⟩

theorem Config.description_eq_ok_iff {c : Config} {d : Description} :
    c.description = .ok d ↔ ∃ backend, c.pipeline.backend = some backend ∧ c.pipeline.IsFit ∧
      d = ⟨c.pipeline.toolPasses.map PassId.pass, c.pipeline.debugPasses.map PassId.pass, backend.pass⟩ := by
  rw [description, PipelineRequest.build_eq_ok_iff]
  constructor
  · rintro ⟨_, asked, rfl, fit⟩
    obtain ⟨backend, given, rfl⟩ := Option.map_eq_some_iff.mp asked
    exact ⟨backend, given, request_fits_iff.mp fit, rfl⟩
  · rintro ⟨backend, given, fit, rfl⟩
    exact ⟨backend.pass, Option.map_eq_some_iff.mpr ⟨backend, given, rfl⟩, rfl, request_fits_iff.mpr fit⟩

theorem PipelineSection.Refuses.description_eq {c : Config} {backend refused : PassId}
    (given : c.pipeline.backend = some backend) (refuses : c.pipeline.Refuses backend refused) :
    c.description = .error (.incompatiblePass refused.name .binary .text) := by
  obtain ⟨before, after, split, fit⟩ := refuses.exists_split
  have asked : c.request.backend = some backend.pass := Option.map_eq_some_iff.mpr ⟨backend, given, rfl⟩
  have misfit : ¬Handover.Fits ⟨refused.pass, .text⟩ := by simp [PassId.fits_iff]
  have mismatch : Handover.mismatch ⟨refused.pass, .text⟩ = .incompatiblePass refused.name .binary .text := by
    simp [Handover.mismatch]
  rw [Config.description, PipelineRequest.build_eq asked, split, checkAll_eq_error fit misfit, mismatch]
  rfl

/-- The configurations that can be set up: there is a backend, and only optimizers stand before another pass. Of any
other one that pass is named which would be the first to be given a text. What is set up never fails because of the
kind of an artifact. -/
theorem Config.description_closed_form (c : Config) :
    (∀ d, c.description = .ok d ↔ ∃ backend, c.pipeline.backend = some backend ∧ c.pipeline.IsFit ∧
      d = ⟨c.pipeline.toolPasses.map PassId.pass, c.pipeline.debugPasses.map PassId.pass, backend.pass⟩) ∧
    (c.pipeline.backend = none → c.description = .error .missingBackend) ∧
    (∀ backend, c.pipeline.backend = some backend →
      (¬c.pipeline.IsFit → ∃ refused, c.pipeline.Refuses backend refused) ∧
      ∀ refused, c.pipeline.Refuses backend refused →
        c.description = .error (.incompatiblePass refused.name .binary .text)) ∧
    ∀ d, c.description = .ok d → ∀ (lib : Library) entry results, lib.compile entry d = .ok results →
      ∀ failure ∈ results.failures, ∀ name expected found,
        failure.error ≠ .unexpectedArtifact name expected found := by
  refine ⟨fun d => description_eq_ok_iff, fun missing => ?_, fun backend given => ⟨fun unfit => ?_, fun refused => ?_⟩,
    fun d built lib entry results compiled => ?_⟩
  · rw [description, PipelineRequest.build, request, missing]
    rfl
  · exact PipelineSection.exists_refuses unfit backend
  · exact PipelineSection.Refuses.description_eq given
  · obtain ⟨backend, given, fit, rfl⟩ := description_eq_ok_iff.mp built
    obtain ⟨binary, leaves⟩ := Library.exists_leaves_of_compile compiled
    refine (leaves.labels (request_fits_iff.mpr fit) fun pass member => ?_).2.2
    obtain ⟨id, rfl⟩ : ∃ id : PassId, id.pass = pass := by
      simp only [Description.passes, List.mem_append, List.mem_map, List.mem_singleton] at member
      obtain (⟨id, _, same⟩ | ⟨id, _, same⟩) | same := member
      · exact ⟨id, same⟩
      · exact ⟨id, same⟩
      · exact ⟨backend, same.symm⟩
    exact id.pass_honours

/-- Optimizers before a listing on the side. -/
def Config.listedLast : Config where
  pipeline := ⟨[.optimizer, .optimizer], [.optimizer, .disassembler], some .wgsl⟩

/-- The last tool makes a text, which the first debug pass would be given. -/
def Config.listedByTool : Config where
  pipeline := ⟨[.optimizer, .disassembler], [.optimizer, .wgsl], some .wgsl⟩

theorem Config.listedLast_closed_form :
    Config.listedByTool.description = .error (.incompatiblePass "optimizer" .binary .text) ∧
      ∃ d results, Config.listedLast.description = .ok d ∧ Library.onlyVoid.compile (some ⟨0⟩) d = .ok results ∧
        ∀ failure ∈ results.failures, ∀ name expected found,
          failure.error ≠ .unexpectedArtifact name expected found := by
  obtain ⟨_, _, refuses, _⟩ := Config.listedByTool.description_closed_form
  obtain ⟨accepts, _, _, sound⟩ := Config.listedLast.description_closed_form
  have built := (accepts _).mpr ⟨.wgsl, rfl, ⟨by decide, by decide⟩, rfl⟩
  have run : (fun results => results.debug.length) <$> Library.onlyVoid.compile (some ⟨0⟩)
      ⟨[.optimizer, .optimizer].map PassId.pass, [.optimizer, .disassembler].map PassId.pass, PassId.wgsl.pass⟩ =
        .ok 2 := by decide +kernel
  obtain ⟨results, compiled, _⟩ := Outcome.map_eq_ok_iff.mp run
  have split : Config.listedByTool.pipeline.toolPasses = [.optimizer] ++ [.disassembler] := rfl
  have refused := (refuses .wgsl rfl).2 .optimizer (.afterTool split (by decide) (by decide) rfl)
  exact ⟨refused, _, results, built, compiled, sound _ built _ _ _ compiled⟩

end ShaderGraph
