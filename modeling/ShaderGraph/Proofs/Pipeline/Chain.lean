import ShaderGraph.Pipeline.Results
import ShaderGraph.Proofs.Outcome

namespace ShaderGraph

/-- Passes in a row that all succeed, each given what the one before it made. The last artifact is the
one the first pass was given if there is no pass. -/
inductive Chained : Artifact → List Pass → List PassOutput → Artifact → Prop
  | nil {input} : Chained input [] [] input
  | cons {input output last pass rest outputs} : pass.run input = .ok output →
      Chained output rest outputs last →
      Chained input (pass :: rest) (⟨pass.name, output⟩ :: outputs) last

/-- How passes in a row end: all of them succeed, or one fails on what those before it made. -/
inductive ChainEnds (branch : Branch) (input : Artifact) (passes : List Pass) :
    List PassOutput → Option PassFailure → Prop
  | finished {outputs last} : Chained input passes outputs last →
      ChainEnds branch input passes outputs none
  | failed {pass after outputs last error} (before : List Pass) : passes = before ++ pass :: after →
      Chained input before outputs last → pass.run last = .error (.error error) →
      ChainEnds branch input passes outputs (some ⟨pass.name, branch, error⟩)

/-- Whatever it is given, a pass comes to an answer, if only to an error. -/
def Pass.Answers (pass : Pass) : Prop :=
  ∀ artifact cause, pass.run artifact ≠ .error (.abort cause)

variable {branch : Branch} {pass : Pass} {input last : Artifact} {passes : List Pass}
  {outputs : List PassOutput}

theorem Pass.apply_eq_ok_iff {answer : Except PassFailure PassOutput} :
    pass.apply branch input = .ok answer ↔
      (∃ output, pass.run input = .ok output ∧ answer = .ok ⟨pass.name, output⟩) ∨
        ∃ error, pass.run input = .error (.error error) ∧ answer = .error ⟨pass.name, branch, error⟩ := by
  cases ran : pass.run input with
  | ok output =>
    have applied : pass.apply branch input = .ok (.ok ⟨pass.name, output⟩) := by
      rw [Pass.apply, ran]
      rfl
    simp [applied, eq_comm]
  | error stop =>
    cases stop with
    | abort cause =>
      have applied : pass.apply branch input = .error cause := by
        rw [Pass.apply, ran]
        rfl
      simp [applied]
    | error error =>
      have applied : pass.apply branch input = .ok (.error ⟨pass.name, branch, error⟩) := by
        rw [Pass.apply, ran]
        rfl
      simp [applied, eq_comm]

theorem Chained.length_eq (chain : Chained input passes outputs last) : outputs.length = passes.length := by
  induction chain with
  | nil => rfl
  | cons _ _ ih => rw [List.length_cons, List.length_cons, ih]

theorem Chained.getLastD_eq (chain : Chained input passes outputs last) (name : String) :
    (outputs.getLastD ⟨name, input⟩).artifact = last := by
  induction chain generalizing name with
  | nil => rfl
  | cons _ _ ih => rw [List.getLastD_cons, ih]

theorem ChainEnds.cons {output : Artifact} {failure? : Option PassFailure} (ran : pass.run input = .ok output)
    (ends : ChainEnds branch output passes outputs failure?) :
    ChainEnds branch input (pass :: passes) (⟨pass.name, output⟩ :: outputs) failure? := by
  cases ends with
  | finished chain => exact .finished (.cons ran chain)
  | failed before split chain failed =>
    exact .failed (pass :: before) (by rw [split, List.cons_append]) (.cons ran chain) failed

/-- The answers of passes in a row are how they end. -/
theorem runChain_eq_ok_iff {failure? : Option PassFailure} :
    runChain branch input passes = .ok (outputs, failure?) ↔
      ChainEnds branch input passes outputs failure? := by
  induction passes generalizing input outputs with
  | nil =>
    constructor
    · intro ran
      cases Outcome.pure_eq_ok_iff.mp ran
      exact .finished .nil
    · intro ends
      cases ends with
      | finished chain => cases chain; rfl
      | failed _ split => simp at split
  | cons pass rest ih =>
    rw [runChain, Outcome.bind_eq_ok_iff]
    constructor
    · rintro ⟨answer, applied, ran⟩
      rcases Pass.apply_eq_ok_iff.mp applied with ⟨output, gave, rfl⟩ | ⟨error, failed, rfl⟩
      · obtain ⟨⟨others, failure?⟩, tail, same⟩ := Outcome.bind_eq_ok_iff.mp ran
        cases Outcome.pure_eq_ok_iff.mp same
        exact .cons gave (ih.mp tail)
      · cases Outcome.pure_eq_ok_iff.mp ran
        exact .failed [] rfl .nil failed
    · intro ends
      have applied (output : Artifact) (gave : pass.run input = .ok output) :
          pass.apply branch input = .ok (.ok ⟨pass.name, output⟩) :=
        Pass.apply_eq_ok_iff.mpr (.inl ⟨output, gave, rfl⟩)
      cases ends with
      | finished chain =>
        cases chain with
        | cons gave tail =>
          refine ⟨_, applied _ gave, ?_⟩
          exact Outcome.bind_eq_ok_iff.mpr ⟨_, ih.mpr (.finished tail), rfl⟩
      | failed _ split chain failed =>
        cases chain with
        | nil =>
          obtain ⟨rfl, rfl⟩ := List.cons.inj split
          exact ⟨_, Pass.apply_eq_ok_iff.mpr (.inr ⟨_, failed, rfl⟩), rfl⟩
        | cons gave tail =>
          obtain ⟨rfl, rfl⟩ := List.cons.inj split
          refine ⟨_, applied _ gave, ?_⟩
          exact Outcome.bind_eq_ok_iff.mpr ⟨_, ih.mpr (.failed _ rfl tail failed), rfl⟩

/-- Passes in a row end in one way only. -/
theorem ChainEnds.unique {failure? failure'? : Option PassFailure} {others : List PassOutput}
    (ends : ChainEnds branch input passes outputs failure?)
    (again : ChainEnds branch input passes others failure'?) : outputs = others ∧ failure? = failure'? := by
  have same := (runChain_eq_ok_iff.mpr ends).symm.trans (runChain_eq_ok_iff.mpr again)
  cases same
  exact ⟨rfl, rfl⟩

theorem ChainEnds.branch_eq {failure : PassFailure} (ends : ChainEnds branch input passes outputs (some failure)) :
    failure.branch = branch := by
  cases ends
  rfl

theorem Chained.last_unique {others : List PassOutput} {last' : Artifact}
    (chain : Chained input passes outputs last) (again : Chained input passes others last') : last = last' := by
  obtain ⟨rfl, _⟩ := (show ChainEnds .tool _ _ _ _ from .finished chain).unique (.finished again)
  rw [← chain.getLastD_eq "", again.getLastD_eq]

theorem ChainEnds.exists_of_answers (branch : Branch) (input : Artifact)
    (answers : ∀ pass ∈ passes, pass.Answers) : ∃ outputs failure?, ChainEnds branch input passes outputs failure? := by
  induction passes generalizing input with
  | nil => exact ⟨[], none, .finished .nil⟩
  | cons pass rest ih =>
    cases ran : pass.run input with
    | ok output =>
      obtain ⟨outputs, failure?, ends⟩ := ih output fun other inside => answers other (List.mem_cons_of_mem _ inside)
      exact ⟨_, failure?, ends.cons ran⟩
    | error stop =>
      cases stop with
      | abort cause => exact absurd ran (answers pass (List.mem_cons_self ..) input cause)
      | error error => exact ⟨[], _, .failed [] rfl .nil ran⟩

end ShaderGraph
