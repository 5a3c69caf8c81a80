import ShaderGraph.Proofs.Collection.Reachability
import ShaderGraph.Proofs.Pipeline.Chain

namespace ShaderGraph

namespace Description

def passes (d : Description) : List Pass := d.toolPasses ++ d.debugPasses ++ [d.backend]

/-- What a pipeline leaves of a binary. The first tool that fails ends it, with the outputs before the
failure. After the last tool the debug passes and the backend start from the same artifact, and neither
of them hears of the other's failure. -/
inductive Leaves (d : Description) (binary : Binary) : Results → Prop
  | toolFailed {tools failure} : ChainEnds .tool (.binary binary) d.toolPasses tools (some failure) →
      Leaves d binary ⟨⟨emitterName, .binary binary⟩ :: tools, [], [failure]⟩
  | backendGave {tools snapshot debug failure? output} :
      Chained (.binary binary) d.toolPasses tools snapshot →
      ChainEnds .debug snapshot d.debugPasses debug failure? → d.backend.run snapshot = .ok output →
      Leaves d binary ⟨⟨emitterName, .binary binary⟩ :: tools ++ [⟨d.backend.name, output⟩], debug,
        failure?.toList⟩
  | backendFailed {tools snapshot debug failure? error} :
      Chained (.binary binary) d.toolPasses tools snapshot →
      ChainEnds .debug snapshot d.debugPasses debug failure? →
      d.backend.run snapshot = .error (.error error) →
      Leaves d binary ⟨⟨emitterName, .binary binary⟩ :: tools, debug,
        failure?.toList ++ [⟨d.backend.name, .backend, error⟩]⟩

/-- All tools succeed and the backend makes this of what they leave. -/
def BackendGives (d : Description) (binary : Binary) (output : PassOutput) : Prop :=
  ∃ tools snapshot artifact, Chained (.binary binary) d.toolPasses tools snapshot ∧
    d.backend.run snapshot = .ok artifact ∧ output = ⟨d.backend.name, artifact⟩

variable {d : Description} {binary : Binary} {results : Results}

/-- A run of a pipeline has the results that it should leave, and no others. -/
theorem run_eq_ok_iff : d.run binary = .ok results ↔ d.Leaves binary results := by
  constructor
  · intro ran
    obtain ⟨⟨tools, failure?⟩, tooled, ran⟩ := Outcome.bind_eq_ok_iff.mp ran
    have ends := runChain_eq_ok_iff.mp tooled
    cases failure? with
    | some failure =>
      cases Outcome.pure_eq_ok_iff.mp ran
      exact .toolFailed ends
    | none =>
      cases ends with
      | finished chain =>
        obtain ⟨⟨debug, failure?⟩, debugged, ran⟩ := Outcome.bind_eq_ok_iff.mp ran
        rw [chain.getLastD_eq] at debugged ran
        obtain ⟨answer, applied, ran⟩ := Outcome.bind_eq_ok_iff.mp ran
        have debugEnds := runChain_eq_ok_iff.mp debugged
        rcases Pass.apply_eq_ok_iff.mp applied with ⟨output, gave, rfl⟩ | ⟨error, failed, rfl⟩
        · cases Outcome.pure_eq_ok_iff.mp ran
          exact .backendGave chain debugEnds gave
        · cases Outcome.pure_eq_ok_iff.mp ran
          exact .backendFailed chain debugEnds failed
  · intro leaves
    cases leaves with
    | toolFailed ends => exact Outcome.bind_eq_ok_iff.mpr ⟨_, runChain_eq_ok_iff.mpr ends, rfl⟩
    | backendGave chain ends gave =>
      rw [← chain.getLastD_eq emitterName] at ends gave
      refine Outcome.bind_eq_ok_iff.mpr ⟨_, runChain_eq_ok_iff.mpr (.finished chain), ?_⟩
      refine Outcome.bind_eq_ok_iff.mpr ⟨_, runChain_eq_ok_iff.mpr ends, ?_⟩
      exact Outcome.bind_eq_ok_iff.mpr ⟨_, Pass.apply_eq_ok_iff.mpr (.inl ⟨_, gave, rfl⟩), rfl⟩
    | backendFailed chain ends failed =>
      rw [← chain.getLastD_eq emitterName] at ends failed
      refine Outcome.bind_eq_ok_iff.mpr ⟨_, runChain_eq_ok_iff.mpr (.finished chain), ?_⟩
      refine Outcome.bind_eq_ok_iff.mpr ⟨_, runChain_eq_ok_iff.mpr ends, ?_⟩
      exact Outcome.bind_eq_ok_iff.mpr ⟨_, Pass.apply_eq_ok_iff.mpr (.inr ⟨_, failed, rfl⟩), rfl⟩

theorem exists_leaves (answers : ∀ pass ∈ d.passes, pass.Answers) (binary : Binary) :
    ∃ results, d.Leaves binary results := by
  have inTools (pass : Pass) (inside : pass ∈ d.toolPasses) : pass ∈ d.passes := by simp [passes, inside]
  have inDebug (pass : Pass) (inside : pass ∈ d.debugPasses) : pass ∈ d.passes := by simp [passes, inside]
  obtain ⟨tools, failure?, ends⟩ := ChainEnds.exists_of_answers .tool (.binary binary)
    fun pass inside => answers pass (inTools pass inside)
  cases failure? with
  | some failure => exact ⟨_, .toolFailed ends⟩
  | none =>
    obtain @⟨_, snapshot, chain⟩ := ends
    obtain ⟨debug, failure?, debugEnds⟩ := ChainEnds.exists_of_answers .debug snapshot
      fun pass inside => answers pass (inDebug pass inside)
    cases ran : d.backend.run snapshot with
    | ok output => exact ⟨_, .backendGave chain debugEnds ran⟩
    | error stop =>
      cases stop with
      | abort cause => exact absurd ran (answers d.backend (by simp [passes]) snapshot cause)
      | error error => exact ⟨_, .backendFailed chain debugEnds ran⟩

theorem Leaves.length_eq_of_isSuccess (leaves : d.Leaves binary results) (success : results.isSuccess = true) :
    results.primary.length = d.toolPasses.length + 2 ∧ results.debug.length = d.debugPasses.length := by
  cases leaves with
  | toolFailed => cases success
  | @backendGave _ _ _ failure? _ chain ends =>
    cases ends with
    | finished debugChain => simp [chain.length_eq, debugChain.length_eq]
    | failed => cases success
  | backendFailed => simp [Results.isSuccess] at success

theorem Leaves.length_failures_le (leaves : d.Leaves binary results) : results.failures.length ≤ 2 := by
  have single (failure? : Option PassFailure) : failure?.toList.length ≤ 1 := by cases failure? <;> simp
  cases leaves with
  | toolFailed => simp
  | backendGave => exact Nat.le_trans (single _) (by omega)
  | @backendFailed _ _ _ failure? =>
    have few := single failure?
    simp only [List.length_append, List.length_singleton]
    omega

/-- The final output is that of the backend, whether or not the debug passes succeed. -/
theorem Leaves.finalOutput?_eq_some_iff (leaves : d.Leaves binary results) {output : PassOutput} :
    results.finalOutput? = some output ↔ d.BackendGives binary output := by
  cases leaves with
  | @toolFailed tools failure ends =>
    have blamed : failure.branch ≠ .debug := by
      rw [ends.branch_eq]
      decide
    refine iff_of_false (by simp [Results.finalOutput?, blamed]) ?_
    rintro ⟨_, _, _, chain, _⟩
    cases (ends.unique (.finished chain)).2
  | @backendGave tools snapshot debug failure? artifact chain ends gave =>
    have harmless : failure?.toList.any (fun f => f.branch ≠ .debug) = false := by
      cases failure? with
      | none => rfl
      | some failure => simp [ends.branch_eq]
    have last : (Results.mk (⟨emitterName, .binary binary⟩ :: tools ++ [⟨d.backend.name, artifact⟩]) debug
        failure?.toList).finalOutput? = some ⟨d.backend.name, artifact⟩ := by
      rw [Results.finalOutput?, harmless, if_neg Bool.false_ne_true]
      exact List.getLast?_concat
    rw [last]
    constructor
    · rintro ⟨⟩
      exact ⟨tools, snapshot, artifact, chain, gave, rfl⟩
    · rintro ⟨_, other, again, chain', gave', rfl⟩
      cases chain.last_unique chain'
      cases gave.symm.trans gave'
      rfl
  | backendFailed chain ends failed =>
    refine iff_of_false (by simp [Results.finalOutput?]) ?_
    rintro ⟨_, other, again, chain', gave, _⟩
    cases chain.last_unique chain'
    cases gave.symm.trans failed

end Description

variable {lib : Library} {entry : TypeId} {d : Description} {binary : Binary} {results : Results}

theorem Library.compile_eq_ok_iff (emitted : lib.emitType entry = .ok binary) :
    lib.compile (some entry) d = .ok results ↔ d.Leaves binary results := by
  rw [← Description.run_eq_ok_iff, Library.compile, emitted]
  exact Outcome.lift_eq_ok_iff

/-- Where no pass is given up, a pipeline on an emitted binary has exactly the results that it should
leave. A success has an artifact of each pass, at most two passes fail, and the final output is there
exactly if the backend was reached and succeeded. -/
theorem Library.compile_leaves (emitted : lib.emitType entry = .ok binary)
    (answers : ∀ pass ∈ d.passes, pass.Answers) :
    ∃ results, lib.compile (some entry) d = .ok results ∧
      (∀ other, d.Leaves binary other ↔ other = results) ∧
      (results.isSuccess = true → results.primary.length = d.toolPasses.length + 2 ∧
        results.debug.length = d.debugPasses.length) ∧
      results.failures.length ≤ 2 ∧
      ∀ output, results.finalOutput? = some output ↔ d.BackendGives binary output := by
  obtain ⟨results, leaves⟩ := d.exists_leaves answers binary
  have compiled := (Library.compile_eq_ok_iff emitted).mpr leaves
  refine ⟨results, compiled, fun other => ⟨fun again => ?_, fun same => same ▸ leaves⟩,
    leaves.length_eq_of_isSuccess, leaves.length_failures_le, fun _ => leaves.finalOutput?_eq_some_iff⟩
  cases compiled.symm.trans ((Library.compile_eq_ok_iff emitted).mpr again)
  rfl

/-- Hands on what it is given. -/
def Pass.handOn (name : String) : Pass where
  name
  output := .binary
  run artifact := .ok artifact

/-- Fails on everything. -/
def Pass.refuse (name : String) (error : PassError) : Pass where
  name
  output := .binary
  run _ := Attempt.fail error

/-- A pipeline whose second debug pass fails. -/
def Description.forked : Description where
  toolPasses := [.handOn "tool"]
  debugPasses := [.handOn "first", .refuse "second" (.parse "nothing to see"), .handOn "third"]
  backend := .handOn "backend"

theorem Library.ring_compile_leaves :
    ∃ binary, ring.emitType ⟨0⟩ = .ok binary ∧ (∀ pass ∈ Description.forked.passes, pass.Answers) ∧
      ring.compile (some ⟨0⟩) .forked = .ok {
        primary := [⟨emitterName, .binary binary⟩, ⟨"tool", .binary binary⟩, ⟨"backend", .binary binary⟩]
        debug := [⟨"first", .binary binary⟩]
        failures := [⟨"second", .debug, .parse "nothing to see"⟩] } := by
  have bound : (fun binary => binary.reflection.idBound) <$> ring.emitType ⟨0⟩ = .ok 9 := by decide +kernel
  obtain ⟨binary, emitted, _⟩ := Outcome.map_eq_ok_iff.mp bound
  have answers : ∀ pass ∈ Description.forked.passes, pass.Answers := by
    simp [Description.passes, Description.forked, Pass.Answers, Pass.handOn, Pass.refuse, Attempt.fail]
  obtain ⟨results, compiled, only, _⟩ := Library.compile_leaves emitted answers
  have tools : Chained (.binary binary) Description.forked.toolPasses [⟨"tool", .binary binary⟩]
      (.binary binary) := .cons rfl .nil
  have debug : ChainEnds .debug (.binary binary) Description.forked.debugPasses [⟨"first", .binary binary⟩]
      (some ⟨"second", .debug, .parse "nothing to see"⟩) :=
    .failed [.handOn "first"] rfl (.cons rfl .nil) rfl
  rw [← (only _).mp (.backendGave tools debug rfl)] at compiled
  exact ⟨binary, emitted, answers, compiled⟩

end ShaderGraph
