import ShaderGraph.Proofs.Pipeline.DebugBranch

namespace ShaderGraph

/-- The first output of passes in a row is that of the first pass, if it has one. -/
theorem ChainEnds.head?_eq_some_iff {branch : Branch} {input artifact : Artifact} {passes : List Pass}
    {outputs : List PassOutput} {failure? : Option PassFailure}
    (ends : ChainEnds branch input passes outputs failure?) :
    outputs.head?.map PassOutput.artifact = some artifact ↔
      ∃ pass rest, passes = pass :: rest ∧ pass.run input = .ok artifact := by
  cases ends with
  | finished chain =>
    cases chain with
    | nil => simp
    | cons gave _ => simp [gave]
  | failed before split chain failed =>
    subst split
    cases chain with
    | nil => simp [failed]
    | cons gave _ => simp [gave]

namespace Description

/-- What is blamed where there is no final output: the tool that fails, or else the backend, after the debug pass
that fails if there is one. -/
inductive Blames (d : Description) (binary : Binary) : List PassFailure → Prop
  | tool {tools failure} : ChainEnds .tool (.binary binary) d.toolPasses tools (some failure) →
      Blames d binary [failure]
  | backend {tools snapshot debug failure? error} : Chained (.binary binary) d.toolPasses tools snapshot →
      ChainEnds .debug snapshot d.debugPasses debug failure? → d.backend.run snapshot = .error (.error error) →
      Blames d binary (failure?.toList ++ [⟨d.backend.name, .backend, error⟩])

/-- All tools succeed, and the first debug pass makes this of what they leave. -/
def Lists (d : Description) (binary : Binary) (artifact : Artifact) : Prop :=
  ∃ tools snapshot pass rest, Chained (.binary binary) d.toolPasses tools snapshot ∧ d.debugPasses = pass :: rest ∧
    pass.run snapshot = .ok artifact

variable {d : Description} {binary : Binary} {results : Results}

theorem Leaves.unique {others : Results} (leaves : d.Leaves binary results) (again : d.Leaves binary others) :
    results = others :=
  Except.ok.inj ((run_eq_ok_iff.mpr leaves).symm.trans (run_eq_ok_iff.mpr again))

/-- There is no final output exactly if something is blamed, and that is all that failed. -/
theorem Leaves.blames_iff (leaves : d.Leaves binary results) {failures : List PassFailure} :
    d.Blames binary failures ↔ results.finalOutput? = none ∧ results.failures = failures := by
  constructor
  · intro blames
    cases blames with
    | tool ends =>
      cases leaves.unique (.toolFailed ends)
      simp [Results.finalOutput?, ends.branch_eq]
    | backend chain ends failed =>
      cases leaves.unique (.backendFailed chain ends failed)
      simp [Results.finalOutput?]
  · rintro ⟨missing, rfl⟩
    cases leaves with
    | toolFailed ends => exact .tool ends
    | backendGave chain ends gave =>
      have gives := (Leaves.backendGave chain ends gave).finalOutput?_eq_some_iff.mpr ⟨_, _, _, chain, gave, rfl⟩
      cases missing.symm.trans gives
    | backendFailed chain ends failed => exact .backend chain ends failed

/-- What a run amounts to is what the backend makes, or what is blamed where it makes nothing. -/
theorem Leaves.shaderText_eq_iff (leaves : d.Leaves binary results) (stage : Stage) (source : Option String)
    {text : String} : (CompiledStage.mk stage source (.ok results)).shaderText = text ↔
      (∃ output, d.BackendGives binary output ∧ output.artifact.display = text) ∨
        ∃ failures, d.Blames binary failures ∧ "\n".intercalate (failures.map PassFailure.message) = text := by
  simp only [← leaves.finalOutput?_eq_some_iff, leaves.blames_iff, CompiledStage.shaderText]
  cases results.finalOutput? <;> simp

/-- The first debug output does not depend on the debug passes after it, nor on the backend. -/
theorem Leaves.lists_iff (leaves : d.Leaves binary results) {artifact : Artifact} :
    d.Lists binary artifact ↔ results.debug.head?.map PassOutput.artifact = some artifact := by
  have afterTools {tools : List PassOutput} {snapshot : Artifact}
      (chain : Chained (.binary binary) d.toolPasses tools snapshot) :
      d.Lists binary artifact ↔ ∃ pass rest, d.debugPasses = pass :: rest ∧ pass.run snapshot = .ok artifact := by
    constructor
    · rintro ⟨_, _, pass, rest, again, first, gave⟩
      cases chain.last_unique again
      exact ⟨pass, rest, first, gave⟩
    · rintro ⟨pass, rest, first, gave⟩
      exact ⟨tools, snapshot, pass, rest, chain, first, gave⟩
  cases leaves with
  | toolFailed ends =>
    refine iff_of_false ?_ (by simp)
    rintro ⟨_, _, _, _, chain, _⟩
    cases (ends.unique (.finished chain)).2
  | backendGave chain ends => rw [afterTools chain, ends.head?_eq_some_iff]
  | backendFailed chain ends => rw [afterTools chain, ends.head?_eq_some_iff]

end Description

/-- The text of a category that there is of a stage. -/
def CompiledStage.text? (s : CompiledStage) : EntryCategory → Option String
  | .source => s.source
  | .shader => some s.shaderText
  | .disassembly => s.results.toOption.bind fun results => results.debug.head?.map (·.artifact.display)

def CompiledStage.entryOf? (category : EntryCategory) (s : CompiledStage) : Option Entry :=
  (s.text? category).map (.of category s.stage)

theorem groupEntries_eq (compiled : List CompiledStage) : groupEntries compiled =
    [.source, .shader, .disassembly].flatMap fun category => compiled.filterMap (CompiledStage.entryOf? category) := by
  have listing (s : CompiledStage) : s.disassemblyEntry? = CompiledStage.entryOf? .disassembly s := by
    unfold CompiledStage.disassemblyEntry? CompiledStage.entryOf? CompiledStage.text?
    split <;> simp_all [Except.toOption, Function.comp_def]
  have source : CompiledStage.sourceEntry? = CompiledStage.entryOf? .source := rfl
  have shader : CompiledStage.entryOf? .shader = some ∘ CompiledStage.shaderEntry := rfl
  simp only [groupEntries, source, funext listing, shader, List.flatMap_cons, List.flatMap_nil, List.append_nil,
    List.filterMap_eq_map, List.append_assoc]

variable {lib : Library} {d : Description} {definition : StageDefinition}

open StageDefinition

namespace Library

/-- Why nothing is run on a stage. -/
inductive Fails (lib : Library) (definition : StageDefinition) : PipelineError → Prop
  | unresolved {name} : definition.entryType = some name → lib.findType? name = none →
      Fails lib definition (.unresolvedEntryType (some name))
  | notEmitted {name entry error} : definition.entryType = some name → lib.findType? name = some entry →
      lib.emitType entry = .error (.error error) → Fails lib definition (.emit error)

/-- The text that stands for a final output that there is not. -/
inductive Complains (lib : Library) (d : Description) (definition : StageDefinition) : String → Prop
  | failed {error} : lib.Fails definition error → Complains lib d definition error.message
  | blamed {binary failures} : lib.Emits definition binary → d.Blames binary failures →
      Complains lib d definition ("\n".intercalate (failures.map PassFailure.message))

/-- What is to be presented of a stage: its source, what the backend makes of it or what went wrong, and what the
first debug pass makes of it. -/
def Shows (lib : Library) (d : Description) : EntryCategory → StageDefinition → String → Prop
  | .source, definition, text => definition.entryType.isSome = true ∧ definition.source = some text
  | .shader, definition, text =>
    (∃ binary output, lib.Emits definition binary ∧ d.BackendGives binary output ∧ output.artifact.display = text) ∨
      lib.Complains d definition text
  | .disassembly, definition, text =>
    ∃ binary artifact, lib.Emits definition binary ∧ d.Lists binary artifact ∧ artifact.display = text

/-- What becomes of a stage. -/
inductive Settles (lib : Library) (d : Description) (definition : StageDefinition) : Option CompiledStage → Prop
  | absent : definition.entryType = none → Settles lib d definition none
  | failed {error} : lib.Fails definition error →
      Settles lib d definition (some ⟨definition.stage, definition.source, .error error⟩)
  | ran {binary results} : lib.Emits definition binary → d.Leaves binary results →
      Settles lib d definition (some ⟨definition.stage, definition.source, .ok results⟩)

theorem Emits.isSome {binary : Binary} (emits : lib.Emits definition binary) : definition.entryType.isSome = true := by
  obtain ⟨name, named, _⟩ := emits
  exact Option.isSome_of_mem named

theorem Fails.isSome {error : PipelineError} (fails : lib.Fails definition error) :
    definition.entryType.isSome = true := by
  cases fails with
  | unresolved named | notEmitted named => exact Option.isSome_of_mem named

theorem Emits.unique {binary other : Binary} (emits : lib.Emits definition binary)
    (again : lib.Emits definition other) : binary = other := by
  obtain ⟨name, named, entry, found, emitted⟩ := emits
  obtain ⟨_, named', _, found', emitted'⟩ := again
  cases named.symm.trans named'
  cases found.symm.trans found'
  exact Except.ok.inj (emitted.symm.trans emitted')

theorem Emits.not_fails {binary : Binary} {error : PipelineError} (emits : lib.Emits definition binary) :
    ¬lib.Fails definition error := by
  obtain ⟨name, named, entry, found, emitted⟩ := emits
  intro fails
  cases fails with
  | unresolved named' missing =>
    cases named.symm.trans named'
    cases found.symm.trans missing
  | notEmitted named' found' failed =>
    cases named.symm.trans named'
    cases found.symm.trans found'
    cases emitted.symm.trans failed

theorem Fails.unique {error other : PipelineError} (fails : lib.Fails definition error)
    (again : lib.Fails definition other) : error = other := by
  cases fails with
  | unresolved named missing =>
    cases again with
    | unresolved named' =>
      cases named.symm.trans named'
      rfl
    | notEmitted named' found =>
      cases named.symm.trans named'
      cases missing.symm.trans found
  | notEmitted named found failed =>
    cases again with
    | unresolved named' missing =>
      cases named.symm.trans named'
      cases missing.symm.trans found
    | notEmitted named' found' failed' =>
      cases named.symm.trans named'
      cases found.symm.trans found'
      cases failed.symm.trans failed'
      rfl

/-- An emitted stage has results, or the run is given up. -/
theorem settle_compile_emitted {entry : TypeId} {binary : Binary} (emitted : lib.emitType entry = .ok binary) :
    (lib.compile (some entry) d).settle = Except.ok <$> d.run binary := by
  have form : lib.compile (some entry) d = liftM (d.run binary) := by
    rw [compile, emitted]
    rfl
  rw [form]
  cases d.run binary <;> rfl

theorem settle_compile_failed {entry : TypeId} {error : EmitError}
    (failed : lib.emitType entry = .error (.error error)) :
    (lib.compile (some entry) d).settle = .ok (.error (.emit error)) := by
  rw [compile, failed]
  rfl

/-- A definition that is not given up settles in one of these ways. -/
theorem settles_of_compiled {s? : Option CompiledStage} (compiled : CompiledStage.of? lib d definition = .ok s?) :
    lib.Settles d definition s? := by
  cases named : definition.entryType with
  | none =>
    rw [CompiledStage.of?_eq, compileStage, named] at compiled
    cases compiled
    exact .absent named
  | some name =>
    cases found : lib.findType? name with
    | none =>
      rw [CompiledStage.of?_eq, compileStage, named] at compiled
      simp only [found] at compiled
      cases compiled
      exact .failed (.unresolved named found)
    | some entry =>
      rw [CompiledStage.of?_found named found] at compiled
      obtain ⟨answer, settled, rfl⟩ := Outcome.map_eq_ok_iff.mp compiled
      cases emitted : lib.emitType entry with
      | ok binary =>
        rw [settle_compile_emitted emitted] at settled
        obtain ⟨results, ran, rfl⟩ := Outcome.map_eq_ok_iff.mp settled
        exact .ran ⟨name, named, entry, found, emitted⟩ (Description.run_eq_ok_iff.mp ran)
      | error stop =>
        cases stop with
        | error error =>
          rw [settle_compile_failed emitted] at settled
          cases settled
          exact .failed (.notEmitted named found emitted)
        | abort cause =>
          -- Giving up would not have been settled.
          rw [compile, emitted] at settled
          cases settled

theorem Shows.isSome {category : EntryCategory} {text : String} (shown : lib.Shows d category definition text) :
    definition.entryType.isSome = true := by
  cases category with
  | source => exact shown.1
  | shader =>
    rcases shown with ⟨_, _, emits, _⟩ | complains
    · exact emits.isSome
    · cases complains with
      | failed fails => exact fails.isSome
      | blamed emits => exact emits.isSome
  | disassembly =>
    obtain ⟨_, _, emits, _⟩ := shown
    exact emits.isSome

theorem Fails.shows_iff {error : PipelineError} (fails : lib.Fails definition error) {category : EntryCategory}
    {text : String} : (CompiledStage.mk definition.stage definition.source (.error error)).text? category = some text ↔
      lib.Shows d category definition text := by
  cases category with
  | source => simp [CompiledStage.text?, Shows, fails.isSome]
  | shader =>
    rw [CompiledStage.text?, Option.some_inj]
    constructor
    · rintro rfl
      exact .inr (.failed fails)
    · rintro (⟨_, _, emits, _⟩ | complains)
      · exact absurd fails emits.not_fails
      · cases complains with
        | failed again => rw [fails.unique again]; rfl
        | blamed emits => exact absurd fails emits.not_fails
  | disassembly =>
    refine iff_of_false (by simp [CompiledStage.text?, Except.toOption]) ?_
    rintro ⟨_, _, emits, _⟩
    exact emits.not_fails fails

theorem Emits.shows_iff {binary : Binary} {results : Results} (emits : lib.Emits definition binary)
    (leaves : d.Leaves binary results) {category : EntryCategory} {text : String} :
    (CompiledStage.mk definition.stage definition.source (.ok results)).text? category = some text ↔
      lib.Shows d category definition text := by
  cases category with
  | source => simp [CompiledStage.text?, Shows, emits.isSome]
  | shader =>
    rw [CompiledStage.text?, Option.some_inj, leaves.shaderText_eq_iff]
    constructor
    · rintro (⟨output, gives, same⟩ | ⟨failures, blames, rfl⟩)
      · exact .inl ⟨binary, output, emits, gives, same⟩
      · exact .inr (.blamed emits blames)
    · rintro (⟨_, output, again, gives, same⟩ | complains)
      · exact .inl ⟨output, emits.unique again ▸ gives, same⟩
      · cases complains with
        | failed fails => exact absurd fails emits.not_fails
        | blamed again blames => exact .inr ⟨_, emits.unique again ▸ blames, rfl⟩
  | disassembly =>
    have first : (CompiledStage.mk definition.stage definition.source (.ok results)).text? .disassembly =
        (results.debug.head?.map PassOutput.artifact).map Artifact.display := by
      simp [CompiledStage.text?, Except.toOption, Function.comp_def]
    rw [first, Option.map_eq_some_iff]
    simp only [← leaves.lists_iff]
    constructor
    · rintro ⟨artifact, lists, same⟩
      exact ⟨binary, artifact, emits, lists, same⟩
    · rintro ⟨_, artifact, again, lists, same⟩
      exact ⟨artifact, emits.unique again ▸ lists, same⟩

/-- There is a text of a category exactly if it is to be presented. -/
theorem Settles.shows_iff {s? : Option CompiledStage} (settles : lib.Settles d definition s?)
    {category : EntryCategory} {text : String} :
    s?.bind (·.text? category) = some text ↔ lib.Shows d category definition text := by
  cases settles with
  | absent missing =>
    refine iff_of_false (by simp) fun shown => ?_
    simpa [missing] using shown.isSome
  | failed fails => exact fails.shows_iff
  | ran emits leaves => exact emits.shows_iff leaves

/-- The entry that there should be of a category, if there should be one. -/
def Presents (lib : Library) (d : Description) (category : EntryCategory) (definition : StageDefinition)
    (made? : Option Entry) : Prop :=
  ∀ entry, made? = some entry ↔
    ∃ text, lib.Shows d category definition text ∧ entry = .of category definition.stage text

theorem Settles.presents {s? : Option CompiledStage} (settles : lib.Settles d definition s?)
    (category : EntryCategory) : lib.Presents d category definition (s?.bind (CompiledStage.entryOf? category)) := by
  intro entry
  simp only [← settles.shows_iff]
  cases s? with
  | none => simp
  | some s =>
    have stage : s.stage = definition.stage := by cases settles <;> rfl
    simp only [Option.bind_some, CompiledStage.entryOf?, stage, Option.map_eq_some_iff]
    exact exists_congr fun _ => and_congr_right fun _ => eq_comm

theorem Settles.exists_shows {s? : Option CompiledStage} (settles : lib.Settles d definition s?)
    (present : definition.entryType.isSome = true) : ∃ text, lib.Shows d .shader definition text := by
  cases s? with
  | none =>
    cases settles with
    | absent missing => simp [missing] at present
  | some s => exact ⟨s.shaderText, settles.shows_iff.mp rfl⟩

theorem Fails.message_ne_empty {error : PipelineError} (fails : lib.Fails definition error) : error.message ≠ "" := by
  cases fails with
  | @unresolved name =>
    have said : PipelineError.message (.unresolvedEntryType (some name)) =
      "entry type " ++ name ++ " could not be resolved" := rfl
    simp [said]
  | @notEmitted _ _ error =>
    cases error with
    | missingOperand node operand =>
      have said : PipelineError.message (.emit (.missingOperand node operand)) = node ++ " has no " ++ operand := rfl
      simp [said]
    | instructionTooLong opcode words =>
      have said : PipelineError.message (.emit (.instructionTooLong opcode words)) =
        "instruction " ++ opcode.name ++ " needs " ++ toString words ++
          " words, more than an instruction can hold" := rfl
      simp [said]

/-- What is said where there is no output is never nothing. -/
theorem Complains.ne_empty {text : String} (complains : lib.Complains d definition text) : text ≠ "" := by
  have joined (first : PassFailure) (rest : List PassFailure) :
      "\n".intercalate ((first :: rest).map PassFailure.message) ≠ "" := by
    have said : first.message ≠ "" := by simp [PassFailure.message]
    cases rest with
    | nil => simpa using said
    | cons second others => simp [String.intercalate_cons_of_ne_nil]
  cases complains with
  | failed fails => exact fails.message_ne_empty
  | blamed _ blames =>
    cases blames with
    | tool => exact joined _ []
    | @backend _ _ _ failure? =>
      cases failure? with
      | none => exact joined _ []
      | some failure => exact joined failure _

/-- Nothing is lost and nothing made up on the way from stages to entries. Where no definition is given up, all
sources are presented, then all shaders, then all listings, each in the order of stages: of each definition the
entries that there should be, and no others. There is a shader for each definition with an entry type, and if it is
not what the backend made it says why. -/
theorem stageEntries_grouped (lib : Library) (d : Description) (definitions : List StageDefinition)
    (answers : ∀ definition ∈ definitions, ∀ cause, lib.compileStage d definition ≠ .error (.abort cause)) :
    ∃ (sorted : List StageDefinition) (presented : EntryCategory → List (Option Entry)),
      StablySorted definitions sorted ∧
      lib.stageEntries d definitions = .ok ((presented .source).reduceOption ++ (presented .shader).reduceOption ++
        (presented .disassembly).reduceOption) ∧
      (∀ category, List.Forall₂ (lib.Presents d category) sorted (presented category)) ∧
      (∀ definition ∈ definitions, definition.entryType.isSome = true → ∃ text, lib.Shows d .shader definition text) ∧
      ∀ definition text, lib.Complains d definition text → text ≠ "" := by
  obtain ⟨compiled, all⟩ := Library.exists_compileStages answers
  have entries := stageEntries_eq_ok all
  rw [compileStages_eq, Outcome.filterMapM_eq_reduceOption] at all
  obtain ⟨found, each, rfl⟩ := Outcome.map_eq_ok_iff.mp all
  -- Definitions that add nothing are kept as `none`, so that all groups are as long as the list of definitions.
  have settles : List.Forall₂ (lib.Settles d) (inOrder definitions) found :=
    (Outcome.mapM_eq_ok_iff.mp each).imp fun _ _ => settles_of_compiled
  refine ⟨inOrder definitions, fun category => found.map (·.bind (CompiledStage.entryOf? category)),
    stablySorted_inOrder definitions, ?_, fun category => ?_, fun definition member present => ?_,
    fun _ _ => Complains.ne_empty⟩
  · simp [entries, groupEntries_eq, List.reduceOption, List.filterMap_filterMap, List.filterMap_map]
  · exact List.forall₂_map_right_iff.mpr (settles.imp fun _ _ settles => settles.presents category)
  · obtain ⟨s?, _, settles⟩ := Outcome.exists_of_forall₂ settles.flip (mem_inOrder.mpr member)
    exact settles.exists_shows present

end Library

/-- Leaves a text, whatever it is given. -/
def Pass.say (name text : String) : Pass where
  name
  output := .text
  run _ := .ok (.text text)

/-- The second debug pass fails, and then the backend. -/
def Description.faltering : Description where
  toolPasses := [.handOn "tool"]
  debugPasses := [.say "first" "a node", .refuse "second" (.parse "nothing to see")]
  backend := .refuse "backend" (.backend "no room")

/-- One stage of two definitions, of which the second cannot be resolved, an earlier one after it, and a source
without an entry type. -/
def StageDefinition.sourced : List StageDefinition :=
  [⟨.pixel, some "Node", none⟩, ⟨.compute, none, some "left out"⟩, ⟨.pixel, some "Nothing", some "missing"⟩,
    ⟨.vertex, some "Node", some "ring"⟩]

/-- What is presented of them. -/
def Entry.ofSourced : List Entry :=
  let blame := "debug pass \"second\" failed: failed to parse SPIR-V: nothing to see\n" ++
    "backend pass \"backend\" failed: backend error: no room"
  [⟨"SourceVertex", .source, "ring"⟩, ⟨"SourcePixel", .source, "missing"⟩,
    ⟨"ShaderVertex", .shader, blame⟩, ⟨"ShaderPixel", .shader, blame⟩,
    ⟨"ShaderPixel", .shader, "entry type Nothing could not be resolved"⟩,
    ⟨"SpirVVertex", .disassembly, "a node"⟩, ⟨"SpirVPixel", .disassembly, "a node"⟩]

theorem Library.namedRing_stageEntries_grouped :
    (∀ definition ∈ sourced, ∀ cause, namedRing.compileStage .faltering definition ≠ .error (.abort cause)) ∧
      namedRing.stageEntries .faltering sourced = .ok Entry.ofSourced ∧
      ∃ (sorted : List StageDefinition) (presented : EntryCategory → List (Option Entry)),
        StablySorted sourced sorted ∧
        (presented .source).reduceOption ++ (presented .shader).reduceOption ++
          (presented .disassembly).reduceOption = Entry.ofSourced ∧
        ∀ category, List.Forall₂ (namedRing.Presents .faltering category) sorted (presented category) := by
  have bound : (fun binary => binary.reflection.idBound) <$> namedRing.emitType ⟨0⟩ = .ok 9 := by decide +kernel
  obtain ⟨binary, emitted, _⟩ := Outcome.map_eq_ok_iff.mp bound
  have found : namedRing.findType? "Node" = some ⟨0⟩ := by decide +kernel
  let results : Results := {
    primary := [⟨emitterName, .binary binary⟩, ⟨"tool", .binary binary⟩]
    debug := [⟨"first", .text "a node"⟩]
    failures := [⟨"second", .debug, .parse "nothing to see"⟩, ⟨"backend", .backend, .backend "no room"⟩] }
  have ran (stage : Stage) (source : Option String) :
      namedRing.compileStage .faltering ⟨stage, some "Node", source⟩ = .ok (some results) := by
    rw [compileStage]
    simp only [found]
    rw [compile, emitted]
    rfl
  have made (stage : Stage) (source : Option String) :
      CompiledStage.of? namedRing .faltering ⟨stage, some "Node", source⟩ =
        .ok (some ⟨stage, source, .ok results⟩) := by
    rw [CompiledStage.of?, ran]
    rfl
  have missed : CompiledStage.of? namedRing .faltering ⟨.pixel, some "Nothing", some "missing"⟩ =
      .ok (some ⟨.pixel, some "missing", .error (.unresolvedEntryType (some "Nothing"))⟩) := rfl
  have order : inOrder sourced = [⟨.vertex, some "Node", some "ring"⟩, ⟨.pixel, some "Node", none⟩,
      ⟨.pixel, some "Nothing", some "missing"⟩, ⟨.compute, none, some "left out"⟩] :=
    (stablySorted_inOrder sourced).unique ⟨by decide, fun stage => by cases stage <;> rfl⟩
  have compiled : namedRing.compileStages .faltering sourced = .ok [⟨.vertex, some "ring", .ok results⟩,
      ⟨.pixel, none, .ok results⟩, ⟨.pixel, some "missing", .error (.unresolvedEntryType (some "Nothing"))⟩] := by
    rw [compileStages_eq, order, Outcome.filterMapM_eq_reduceOption, List.mapM_cons, made, List.mapM_cons, made,
      List.mapM_cons, missed]
    rfl
  have pinned : namedRing.stageEntries .faltering sourced = .ok Entry.ofSourced := stageEntries_eq_ok compiled
  have answers : ∀ definition ∈ sourced, ∀ cause,
      namedRing.compileStage .faltering definition ≠ .error (.abort cause) := by
    simp only [sourced, List.forall_mem_cons, ran]
    refine ⟨?_, ?_, ?_, ?_, List.forall_mem_nil _⟩ <;> rintro cause ⟨⟩
  obtain ⟨sorted, presented, stable, entries, each, _⟩ :=
    namedRing.stageEntries_grouped .faltering sourced answers
  exact ⟨answers, pinned, sorted, presented, stable, Except.ok.inj (entries.symm.trans pinned), each⟩

end ShaderGraph
