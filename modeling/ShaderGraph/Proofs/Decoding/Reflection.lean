import ShaderGraph.Proofs.Emission.Section

namespace ShaderGraph

open Spirv

namespace Spirv

/-- The instructions of an opcode, in order. -/
def framesOf (opcode : Opcode) (frames : List Frame) : List Frame := frames.filter (·.code = opcode.code)

/-- What stands before the first function of a module. -/
def moduleScope (frames : List Frame) : List Frame := frames.takeWhile (·.code ≠ Opcode.opFunction.code)

namespace Frame

/-- An instruction of an id and its name. -/
def Names (f : Frame) (id : UInt32) (name : String) : Prop :=
  ∃ words, f.operands = id :: words ∧ readText? words = some (name, [])

/-- An instruction that asks for a capability. -/
def Requires (f : Frame) (capability : String) : Prop :=
  ∃ code, f.operands = [code] ∧ EnumKind.capability.name? code = some capability

/-- An instruction that makes a function an entry point. -/
def Enters (f : Frame) (entry : EntryPointReflection) : Prop :=
  ∃ model function words interface, f.operands = model :: function :: words ∧
    EnumKind.executionModel.name? model = some entry.executionModel ∧ readText? words = some (entry.name, interface)

/-- A variable of a storage class that variables at module scope can have. If it is named, its name is that
of the reflection. -/
def Declares (f : Frame) (names : List Frame) (global : GlobalReflection) : Prop :=
  ∃ type id rest, ∃ storageClass : StorageClass, f.operands = type :: id :: storageClass.code :: rest ∧
    storageClass.isGlobal = true ∧ global.storageClass = storageClass.name ∧ global.storageClass ≠ "" ∧
    ∀ named ∈ names, ∀ words, named.operands = id :: words → named.Names id global.name

end Frame

end Spirv

/-- A reflection says what can be read from the instructions of a module. Capabilities, imports, entry points
and names are looked for among `remarks`. -/
structure Reflection.DescribedBy (r : Reflection) (remarks frames : List Frame) : Prop where
  capabilities : List.Forall₂ Frame.Requires (framesOf .opCapability remarks) r.capabilities
  extensionImports : List.Forall₂ (fun f name => ∃ id, f.Names id name) (framesOf .opExtInstImport remarks)
    r.extensionImports
  entryPoints : List.Forall₂ Frame.Enters (framesOf .opEntryPoint remarks) r.entryPoints
  globals : List.Forall₂ (Frame.Declares · (framesOf .opName remarks)) (framesOf .opVariable (moduleScope frames))
    r.globals
  initializers : ∀ name ∈ r.initializers, ∃ f ∈ framesOf .opFunction frames, ∃ type id rest,
    f.operands = type :: id :: rest ∧ ∃ named ∈ framesOf .opName remarks, named.Names id name

namespace Library

/-- The entry points of a module can be read back: the names of functions have no zero in them. And its
variables have a result. -/
structure LegibleEntries (lib : Library) (root : NodeRef) : Prop where
  functions : ∀ id function, lib.Reachable [root] (.function id) → lib.functionAt id = .ok function →
    '\x00' ∉ function.name.toList
  globals : ∀ id op, lib.Reachable [root] (.op id) → lib.opAt id = .ok op → lib.DeclaresGlobal op →
    op.resultType.isSome = true

/-- Besides, the other names that a module shows can be read back. -/
structure Legible (lib : Library) (root : NodeRef) : Prop extends lib.LegibleEntries root where
  imports : ∀ id item, lib.Reachable [root] (.extImport id) → lib.importAt id = .ok item → '\x00' ∉ item.name.toList
  ops : ∀ id op name, lib.Reachable [root] (.op id) → lib.opAt id = .ok op → op.debugName = some name →
    '\x00' ∉ name.toList

/-- The opcodes by which a module says something about itself. -/
def remarkOpcodes : List Opcode := [.opCapability, .opExtInstImport, .opEntryPoint, .opName]

/-- The instructions by which a module says something about itself, by their opcode. -/
def Sections.remarksOf {lib : Library} {c : Closure} {interface : List OpId} (s : lib.Sections c interface) :
    Opcode → List Draft
  | .opCapability => s.capabilities
  | .opExtInstImport => s.imports
  | .opEntryPoint => s.entryPoints
  | .opName => s.names
  | _ => []

variable {lib : Library} {c : Closure} {root : NodeRef} {interface : List OpId} {idOf : NodeRef → UInt32}

theorem framesOf_map_frame (opcode : Opcode) (drafts : List Draft) :
    framesOf opcode (drafts.map (Draft.frame idOf)) = (drafts.filter (·.opcode = opcode)).map (Draft.frame idOf) := by
  rw [framesOf, List.filter_map]
  congr 2
  funext draft
  simp [Draft.frame, Opcode.code_inj]

theorem reflectGlobal_eq_ok {id : OpId} {global : GlobalReflection} (found : lib.reflectGlobal id = .ok global) :
    ∃ op storageClass, lib.opAt id = .ok op ∧ lib.storageClassOf op = .ok storageClass ∧
      global.storageClass = (storageClass.map Enumerant.name).getD "" ∧
      ∀ name, op.debugName = some name → global.name = name := by
  obtain ⟨op, atId, found⟩ := Outcome.bind_eq_ok_iff.mp found
  obtain ⟨storageClass, known, found⟩ := Outcome.bind_eq_ok_iff.mp found
  obtain ⟨name, shown, found⟩ := Outcome.bind_eq_ok_iff.mp found
  obtain ⟨op', at', shown⟩ := Outcome.bind_eq_ok_iff.mp shown
  cases at'.symm.trans atId
  cases Outcome.pure_eq_ok_iff.mp shown
  refine ⟨op, storageClass, atId, known, ?_⟩
  cases typed : op.resultType with
  | none =>
    simp only [typed] at found
    cases Outcome.pure_eq_ok_iff.mp found
    exact ⟨rfl, fun name debug => by simp [debug]⟩
  | some pointer =>
    simp only [typed] at found
    obtain ⟨typeName, _, found⟩ := Outcome.bind_eq_ok_iff.mp found
    cases Outcome.pure_eq_ok_iff.mp found
    exact ⟨rfl, fun name debug => by simp [debug]⟩

theorem name?_code {kind : EnumKind} (e : Enumerant kind) : kind.name? e.code = some e.name :=
  (Option.some_get e.known).symm

theorem name_ne_empty_of_isGlobal {storageClass : StorageClass} (isGlobal : storageClass.isGlobal = true) :
    storageClass.name ≠ "" := by
  simp only [StorageClass.isGlobal, decide_eq_true_eq] at isGlobal
  revert storageClass
  decide

namespace Sections

section Reading

variable (s : lib.Sections c interface)

theorem requires_capabilities :
    List.Forall₂ Frame.Requires (s.capabilities.map (Draft.frame idOf)) (c.capabilities.map Enumerant.name) := by
  rw [capabilities, List.map_map, List.forall₂_map_left_iff, List.forall₂_map_right_iff, List.forall₂_same]
  intro capability _
  exact ⟨capability.code, rfl, name?_code capability⟩

/-- The names of a module are those of its declarations and functions. -/
theorem mem_names_iff {named : Frame} : named ∈ s.names.map (Draft.frame idOf) ↔
    ∃ node ∈ c.order ++ c.functions.map NodeRef.function, ∃ text, lib.debugName? node = .ok (some text) ∧
      named = ⟨Opcode.opName.code, idOf node :: packText text⟩ := by
  have form (node : NodeRef) (text : String) : Draft.frame idOf ⟨.opName, [.node node, .text text]⟩ =
      ⟨Opcode.opName.code, idOf node :: packText text⟩ := by
    simp [Draft.frame, Piece.words]
  rw [List.mem_map]
  constructor
  · rintro ⟨draft, inside, rfl⟩
    obtain ⟨node, member, made⟩ := Outcome.exists_of_filterMapM s.named inside
    obtain ⟨name, known, _, same⟩ := nameDraft_eq_ok made
    obtain ⟨text, rfl, rfl⟩ := Option.map_eq_some_iff.mp same.symm
    exact ⟨node, member, text, known, form node text⟩
  · rintro ⟨node, member, text, known, rfl⟩
    obtain ⟨answer, made, kept⟩ := Outcome.exists_result_of_filterMapM s.named member
    obtain ⟨name, known', _, rfl⟩ := nameDraft_eq_ok made
    cases known'.symm.trans known
    exact ⟨_, kept _ rfl, form node text⟩

theorem mem_drafts_of_declared {draft : Draft} (inside : draft ∈ s.declarations.flatten) : draft ∈ s.drafts :=
  List.mem_append_left _ (List.mem_append_right _ inside)

/-- A name is given to an id, so its node has one. -/
theorem mem_mentions_of_debugName {node : NodeRef} {text : String}
    (member : node ∈ c.order ++ c.functions.map NodeRef.function) (known : lib.debugName? node = .ok (some text)) :
    node ∈ s.drafts.flatMap Draft.mentions := by
  obtain ⟨answer, made, kept⟩ := Outcome.exists_result_of_filterMapM s.named member
  obtain ⟨name, known', _, rfl⟩ := nameDraft_eq_ok made
  cases known'.symm.trans known
  have inside : (⟨.opName, [.node node, .text text]⟩ : Draft) ∈ s.drafts := by
    have named := kept _ rfl
    simp [drafts, moduleScope, named]
  exact List.mem_flatMap.mpr ⟨_, inside, by simp [Draft.mentions]⟩

theorem framesOf_variables : framesOf .opVariable (s.moduleScope.map (Draft.frame idOf)) =
    (s.declarations.flatten.filter (·.opcode = .opVariable)).map (Draft.frame idOf) := by
  rw [framesOf_map_frame, s.filter_moduleScope]
  simp

/-- An entry point is written with its model, its function, its name and its interface. -/
theorem operands_entryPoint (model : ExecutionModel) (id : FunctionId) (name : String) :
    (Draft.frame idOf ⟨.opEntryPoint, [.word model.code, .node (.function id), .text name] ++
        interface.map (.node <| .op ·)⟩).operands =
      model.code :: idOf (.function id) :: (packText name ++ interface.map fun op => idOf (.op op)) := by
  have ids : (interface.map fun op => Piece.node (.op op)).flatMap (Piece.words idOf) =
      interface.map fun op => idOf (.op op) := by
    rw [List.flatMap_map, List.map_eq_flatMap]
    rfl
  rw [Draft.frame, List.flatMap_append, ids]
  simp [Piece.words]

/-- Each function has an instruction that defines it. -/
theorem exists_function_frame (idOf : NodeRef → UInt32) {id : FunctionId} (listed : id ∈ c.functions) :
    ∃ f ∈ framesOf .opFunction (s.drafts.map (Draft.frame idOf)), ∃ type rest,
      f.operands = type :: idOf (.function id) :: rest := by
  obtain ⟨drafts, inside, made⟩ := Outcome.exists_result_of_mapM s.bodies listed
  obtain ⟨component, signature, rest, rfl⟩ := exists_functionHead made
  refine ⟨Draft.frame idOf ⟨.opFunction, [.node (.type component), .node (.function id), .word 0,
    .node (.type signature)]⟩, ?_, idOf (.type component), _, rfl⟩
  rw [framesOf_map_frame]
  refine List.mem_map_of_mem (List.mem_filter.mpr ⟨List.mem_append_right _ (List.mem_flatten.mpr ⟨_, inside, ?_⟩), ?_⟩)
  · exact List.mem_cons_self ..
  · simp

variable (reaches : c.IsReachablePart lib [root])

include reaches

theorem enters_entryPoints {entries : List EntryPointReflection}
    (clean : ∀ id function, lib.Reachable [root] (.function id) → lib.functionAt id = .ok function →
      '\x00' ∉ function.name.toList)
    (reflected : c.functions.filterMapM lib.reflectEntryPoint = .ok entries) :
    List.Forall₂ Frame.Enters (s.entryPoints.map (Draft.frame idOf)) entries := by
  rw [List.forall₂_map_left_iff]
  refine Outcome.forall₂_of_filterMapM s.entered reflected fun id member answer entry made shown => ?_
  obtain ⟨function, atId, _, rfl⟩ := entryPointDraft_eq_ok made
  obtain ⟨function', at', shown⟩ := Outcome.bind_eq_ok_iff.mp shown
  cases at'.symm.trans atId
  cases Outcome.pure_eq_ok_iff.mp shown
  have named := clean id function ((reaches.functions id).mp member) atId
  cases function.executionModel with
  | none => exact .none
  | some model =>
    exact .some ⟨_, _, _, _, operands_entryPoint model id function.name, name?_code model, readText?_packText named _⟩

omit s in
/-- A variable at module scope is written with its type, its id and its storage class. -/
theorem operands_global (idOf : NodeRef → UInt32) {id : OpId} {draft : Draft} (listed : id ∈ c.globals)
    (made : lib.opDraft id = .ok draft)
    (typed : ∀ op, lib.opAt id = .ok op → lib.DeclaresGlobal op → op.resultType.isSome = true) :
    ∃ op, ∃ storageClass : StorageClass, ∃ type rest, lib.opAt id = .ok op ∧
      lib.storageClassOf op = .ok (some storageClass) ∧ storageClass.isGlobal = true ∧
      .op id ∈ draft.mentions ∧
      (draft.frame idOf).operands = type :: idOf (.op id) :: storageClass.code :: rest := by
  obtain ⟨_, op, atId, isVariable, literal, rest, value, storageClass, args, atLiteral, known, isGlobal⟩ :=
    (reaches.globals id).mp listed
  have typed := typed op atId ⟨isVariable, literal, rest, value, storageClass, args, atLiteral, known, isGlobal⟩
  have stored := storageClassOf_eq_some_iff.mpr ⟨isVariable, literal, rest, value, args, atLiteral, known⟩
  cases (opDraft_eq_ok made).2 with
  | plain at' untyped =>
    cases at'.symm.trans atId
    simp [untyped] at typed
  | @result _ type pieces at' _ read =>
    cases at'.symm.trans atId
    rw [args] at read
    -- The first argument is the storage class, the others become whatever they are.
    obtain ⟨first, others, head, _, rfl⟩ := List.forall₂_cons_left_iff.mp read
    obtain rfl : first = .word storageClass.code := by
      cases head with
      | int found =>
        cases found.symm.trans atLiteral
        rw [Enumerant.code_of_ofCode? known]
      | float found => cases found.symm.trans atLiteral
      | text found => cases found.symm.trans atLiteral
      | node plain => cases plain
    refine ⟨op, storageClass, idOf (.type type), others.flatMap (Piece.words idOf), atId, stored, ?_, ?_, ?_⟩
    · simpa [StorageClass.isGlobal] using isGlobal
    · simp [Draft.mentions]
    · simp [Draft.frame, Piece.words]

variable (legible : lib.Legible root)

include legible

theorem names_imports {names : List String}
    (reflected : (c.imports.mapM fun id => return (← lib.importAt id).name) = .ok names) :
    List.Forall₂ (fun (f : Frame) name => ∃ id, f.Names id name) (s.imports.map (Draft.frame idOf)) names := by
  rw [List.forall₂_map_left_iff]
  refine Outcome.forall₂_of_mapM s.imported reflected fun id member draft name made shown => ?_
  obtain ⟨_, item, atId, rfl⟩ := importDraft_eq_ok made
  obtain ⟨item', at', shown⟩ := Outcome.bind_eq_ok_iff.mp shown
  cases at'.symm.trans atId
  cases Outcome.pure_eq_ok_iff.mp shown
  have clean := legible.imports id item ((reaches.imports id).mp member) atId
  have read := readText?_packText clean []
  exact ⟨idOf (.extImport id), _, rfl, by simpa [Piece.words] using read⟩

theorem declares_globals {globals : List GlobalReflection} (reflected : c.globals.mapM lib.reflectGlobal = .ok globals)
    (listed : c.globals = c.order.filterMap lib.variableOf?) (distinct : s.Distinguishes idOf) :
    List.Forall₂ (Frame.Declares · (s.names.map (Draft.frame idOf)))
      ((s.declarations.flatten.filter (·.opcode = .opVariable)).map (Draft.frame idOf)) globals := by
  have written : c.globals.mapM lib.opDraft = .ok (s.declarations.flatten.filter (·.opcode = .opVariable)) := by
    rw [listed]
    exact variables_declared s.declared
  rw [List.forall₂_map_left_iff]
  refine Outcome.forall₂_of_mapM written reflected fun id member draft global made shown => ?_
  have declared : draft ∈ s.drafts := by
    obtain ⟨own, inside, made'⟩ := Outcome.exists_result_of_mapM written member
    cases made'.symm.trans made
    exact s.mem_drafts_of_declared (List.mem_filter.mp inside).1
  have reachable := ((reaches.globals id).mp member).1
  obtain ⟨op, storageClass, type, rest, atId, classOf, isGlobal, mentioned, operands⟩ :=
    operands_global reaches idOf member made fun op => legible.globals id op reachable
  obtain ⟨op', stored, at', classOf', className, named⟩ := reflectGlobal_eq_ok shown
  cases at'.symm.trans atId
  cases classOf'.symm.trans classOf
  refine ⟨type, idOf (.op id), rest, storageClass, operands, isGlobal, className, ?_, ?_⟩
  · rw [className]
    exact name_ne_empty_of_isGlobal isGlobal
  · intro frame inside words operands
    obtain ⟨node, place, text, shown, rfl⟩ := s.mem_names_iff.mp inside
    obtain ⟨same, rfl⟩ := List.cons.inj operands
    have written : .op id ∈ s.drafts.flatMap Draft.mentions := List.mem_flatMap.mpr ⟨draft, declared, mentioned⟩
    have named' := s.mem_mentions_of_debugName place shown
    cases distinct (List.mem_append_right _ named') (List.mem_append_right _ written) same
    rw [debugName?, atId] at shown
    have debug : op.debugName = some text := Outcome.pure_eq_ok_iff.mp shown
    have read := readText?_packText (legible.ops id op text reachable atId debug) []
    rw [List.append_nil] at read
    rw [named text debug]
    exact ⟨packText text, rfl, read⟩

theorem names_initializers {names : List String}
    (reflected : (c.initializers.mapM fun id => return (← lib.functionAt id).name) = .ok names) :
    ∀ name ∈ names, ∃ f ∈ framesOf .opFunction (s.drafts.map (Draft.frame idOf)), ∃ type id rest,
      f.operands = type :: id :: rest ∧ ∃ named ∈ s.names.map (Draft.frame idOf), named.Names id name := by
  intro name member
  obtain ⟨id, listed, shown⟩ := Outcome.exists_of_mapM reflected member
  obtain ⟨function, atId, shown⟩ := Outcome.bind_eq_ok_iff.mp shown
  cases Outcome.pure_eq_ok_iff.mp shown
  obtain ⟨op, content, reached, atOp, declares, recorded⟩ := (reaches.initializers id).mp listed
  have reachable := reached.link (.initializer atOp declares recorded)
  have emitted := (reaches.functions id).mpr reachable
  obtain ⟨f, inside, type, rest, operands⟩ := s.exists_function_frame idOf emitted
  have read := readText?_packText (legible.functions id function reachable atId) []
  rw [List.append_nil] at read
  have known : lib.debugName? (.function id) = .ok (some function.name) := by
    rw [debugName?, atId]
    rfl
  refine ⟨f, inside, type, idOf (.function id), rest, operands, _, s.mem_names_iff.mpr
    ⟨.function id, ?_, function.name, known, rfl⟩, packText function.name, rfl, read⟩
  exact List.mem_append_right _ (List.mem_map_of_mem emitted)

omit legible in
/-- The module scope of what is emitted ends where the functions begin. -/
theorem moduleScope_frames :
    Spirv.moduleScope (s.drafts.map (Draft.frame idOf)) = s.moduleScope.map (Draft.frame idOf) := by
  have outside : ∀ f ∈ s.moduleScope.map (Draft.frame idOf), decide (f.code ≠ Opcode.opFunction.code) = true := by
    have none : s.moduleScope.filter (·.opcode = .opFunction) = [] := by
      rw [s.filter_moduleScope, s.filter_declarations reaches rfl rfl (by decide)]
      rfl
    intro f member
    obtain ⟨draft, inside, rfl⟩ := List.mem_map.mp member
    simpa [Draft.frame, Opcode.code_inj] using List.filter_eq_nil_iff.mp none draft inside
  have ends : (s.functions.flatten.map (Draft.frame idOf)).takeWhile (·.code ≠ Opcode.opFunction.code) = [] := by
    have bodies := s.bodies
    cases functions : s.functions with
    | nil => rfl
    | cons first others =>
      rw [functions] at bodies
      obtain ⟨id, _, made⟩ := Outcome.exists_of_mapM bodies (List.mem_cons_self ..)
      obtain ⟨component, signature, rest, rfl⟩ := exists_functionHead made
      exact List.takeWhile_cons_of_neg (by simp [Draft.frame])
  rw [Spirv.moduleScope, drafts, List.map_append, List.takeWhile_append_of_pos outside, ends, List.append_nil]

omit legible in
theorem framesOf_moduleScope {opcode : Opcode} (member : opcode ∈ remarkOpcodes) :
    framesOf opcode (s.moduleScope.map (Draft.frame idOf)) = (s.remarksOf opcode).map (Draft.frame idOf) := by
  rw [framesOf_map_frame, s.filter_moduleScope]
  simp only [remarkOpcodes, List.mem_cons, List.not_mem_nil, or_false] at member
  rcases member with rfl | rfl | rfl | rfl <;>
    rw [s.filter_declarations reaches rfl rfl (by decide)] <;> simp [remarksOf]

/-- A reflection says what stands at module scope, wherever the remarks of the module scope are looked for. -/
theorem describedBy {bound : UInt32} {r : Reflection} (reflected : lib.reflect c bound = .ok r)
    (listed : c.globals = c.order.filterMap lib.variableOf?) (distinct : s.Distinguishes idOf) {remarks : List Frame}
    (same : ∀ opcode ∈ remarkOpcodes, framesOf opcode remarks =
      framesOf opcode (s.moduleScope.map (Draft.frame idOf))) :
    r.DescribedBy remarks (s.drafts.map (Draft.frame idOf)) := by
  obtain ⟨_, capabilities, imports, initializers, entryPoints, globals⟩ := reflect_eq_ok reflected
  have found {opcode : Opcode} (member : opcode ∈ remarkOpcodes) :
      framesOf opcode remarks = (s.remarksOf opcode).map (Draft.frame idOf) :=
    (same opcode member).trans (s.framesOf_moduleScope reaches member)
  have names : framesOf .opName remarks = s.names.map (Draft.frame idOf) := found (by decide)
  constructor
  · rw [capabilities, found (by decide)]
    exact s.requires_capabilities
  · rw [found (by decide)]
    exact s.names_imports reaches legible imports
  · rw [found (by decide)]
    exact s.enters_entryPoints reaches legible.functions entryPoints
  · rw [names, s.moduleScope_frames reaches, s.framesOf_variables]
    exact s.declares_globals reaches legible globals listed distinct
  · rw [names]
    exact s.names_initializers reaches legible initializers

end Reading

end Sections

/-- The reflection of a module agrees with the words it comes with: read back instruction by instruction, they
give the bound, and before the first function the capabilities, imports, entry points and variables of the
reflection. Where no function lists an instruction that belongs before the functions, it is enough to look at
the opcodes. -/
theorem emitType_described {entry : TypeId} {binary : Binary} (emitted : lib.emitType entry = .ok binary)
    (legible : lib.Legible (.type entry)) :
    ∃ header frames, readStream? binary.words = some (header, frames) ∧
      binary.words[3]? = some binary.reflection.idBound ∧
      binary.reflection.DescribedBy (moduleScope frames) frames ∧
      (lib.NoneInFunctions (.type entry) (· ∈ remarkOpcodes) → binary.reflection.DescribedBy frames frames) := by
  obtain ⟨past, w, interface, s, collecting, fits, words, reflected⟩ := exists_emission emitted
  have reaches := collecting.isReachablePart
  have distinct := s.distinguishes_numbering fits
  have listed := collecting.globals_eq
  refine ⟨_, _, words ▸ s.readStream?_emitWords reaches _, ?_, ?_, fun plain => ?_⟩
  · rw [words, (reflect_eq_ok reflected).1]
    rfl
  · refine s.describedBy reaches legible reflected listed distinct fun opcode _ => ?_
    rw [s.moduleScope_frames reaches]
  · refine s.describedBy reaches legible reflected listed distinct fun opcode member => ?_
    have elsewhere : ∀ opcode ∈ [Opcode.opFunction, .opLabel, .opFunctionEnd], opcode ∉ remarkOpcodes := by decide
    have unlisted := s.filter_functions (s.not_mem_functions reaches elsewhere plain) member
    rw [framesOf_map_frame, framesOf_map_frame, Sections.drafts, List.filter_append, unlisted, List.append_nil]

/-- A stage that reads a variable and calls an extended instruction. The variable has an initializer. -/
def stage : Library where
  types := #[
    { name := "Stage", shape := { kind := .struct }, functions := [⟨0⟩] },
    { name := "void", shape := { kind := .void } },
    { name := "fn() -> void", shape := { kind := .function, component := some ⟨1⟩ } },
    { name := "f32", shape := { kind := .float 32 } },
    { name := "ptr<Private, f32>", shape := { kind := .pointer .priv, dereference := some ⟨3⟩ } }]
  functions := #[
    { name := "main", functionType := ⟨2⟩, parameterBlock := ⟨0⟩, blocks := [⟨1⟩], executionModel := some .vertex },
    { name := "start", functionType := ⟨2⟩, parameterBlock := ⟨0⟩, blocks := [⟨2⟩], executionModel := none }]
  blocks := #[⟨[], []⟩, ⟨[⟨1⟩, ⟨2⟩, ⟨3⟩], []⟩, ⟨[⟨3⟩], []⟩]
  ops := #[
    { opcode := .opVariable, resultType := some ⟨4⟩, args := [.literal ⟨0⟩], debugName := some "time" },
    { opcode := .opLoad, resultType := some ⟨3⟩, args := [.op ⟨0⟩] },
    { opcode := .opExtInst, resultType := some ⟨3⟩, args := [.extImport ⟨0⟩, .literal ⟨1⟩, .op ⟨1⟩] },
    { opcode := .opReturn, resultType := none, args := [] }]
  literals := #[.int 6, .int 31]
  imports := #[⟨"GLSL.std.450"⟩]
  globals := .ofList [(⟨0⟩, ⟨some ⟨1⟩⟩)]

theorem stage_legible : stage.Legible (.type ⟨0⟩) where
  imports id item _ atId := by
    obtain ⟨index⟩ := id
    match index, atId with
    | 0, atId => cases atId; decide
    | _ + 1, atId => cases atId
  functions id function _ atId := by
    obtain ⟨index⟩ := id
    match index, atId with
    | 0, atId => cases atId; decide
    | 1, atId => cases atId; decide
    | _ + 2, atId => cases atId
  ops id op name _ atId debug := by
    obtain ⟨index⟩ := id
    match index, atId with
    | 0, atId => cases atId; cases debug; decide
    | 1, atId => cases atId; cases debug
    | 2, atId => cases atId; cases debug
    | 3, atId => cases atId; cases debug
    | _ + 4, atId => cases atId
  globals id op _ atId declares := by
    obtain ⟨index⟩ := id
    match index, atId with
    | 0, atId => cases atId; rfl
    | 1, atId => cases atId; rfl
    | 2, atId => cases atId; rfl
    | 3, atId => cases atId; cases declares.1
    | _ + 4, atId => cases atId

theorem stage_noRemarksInFunctions : stage.NoneInFunctions (.type ⟨0⟩) (· ∈ remarkOpcodes) := by
  intro function _ id _ op atId
  obtain ⟨index⟩ := id
  match index, atId with
  | 0, atId => cases atId; decide
  | 1, atId => cases atId; decide
  | 2, atId => cases atId; decide
  | 3, atId => cases atId; decide
  | _ + 4, atId => cases atId

theorem stage_described : ∃ binary header frames, stage.emitType ⟨0⟩ = .ok binary ∧
    binary.reflection.entryPoints = [⟨"main", "Vertex"⟩] ∧
    binary.reflection.globals = [⟨"time", "Private", "f32"⟩] ∧ binary.reflection.initializers = ["start"] ∧
    readStream? binary.words = some (header, frames) ∧ binary.reflection.DescribedBy frames frames := by
  have run : (fun binary => (binary.reflection.entryPoints, binary.reflection.globals,
      binary.reflection.initializers)) <$> stage.emitType ⟨0⟩ =
      .ok ([⟨"main", "Vertex"⟩], [⟨"time", "Private", "f32"⟩], ["start"]) := by decide +kernel
  obtain ⟨binary, emitted, shown⟩ := Outcome.map_eq_ok_iff.mp run
  simp only [Prod.mk.injEq] at shown
  obtain ⟨header, frames, read, _, _, described⟩ := emitType_described emitted stage_legible
  exact ⟨binary, header, frames, emitted, shown.1, shown.2.1, shown.2.2, read, described stage_noRemarksInFunctions⟩

/-- A function lists an instruction that asks for a capability. -/
def misplacedCapability : Library where
  types := #[
    { name := "S", shape := { kind := .struct }, functions := [⟨0⟩] },
    { name := "void", shape := { kind := .void } },
    { name := "fn() -> void", shape := { kind := .function, component := some ⟨1⟩ } }]
  functions := #[
    { name := "read", functionType := ⟨2⟩, parameterBlock := ⟨0⟩, blocks := [⟨1⟩], executionModel := none }]
  blocks := #[⟨[], []⟩, ⟨[⟨0⟩], []⟩]
  ops := #[{ opcode := .opCapability, resultType := none, args := [.literal ⟨0⟩] }]
  literals := #[.int 0]

theorem misplacedCapability_legible : misplacedCapability.Legible (.type ⟨0⟩) where
  imports _ _ _ atId := by cases atId
  functions id function _ atId := by
    obtain ⟨index⟩ := id
    match index, atId with
    | 0, atId => cases atId; decide
    | _ + 1, atId => cases atId
  ops id op name _ atId debug := by
    obtain ⟨index⟩ := id
    match index, atId with
    | 0, atId => cases atId; cases debug
    | _ + 1, atId => cases atId
  globals id op _ atId declares := by
    obtain ⟨index⟩ := id
    match index, atId with
    | 0, atId => cases atId; cases declares.1
    | _ + 1, atId => cases atId

/-- The capability that the function asks for stands in the module but not in the reflection. -/
theorem misplacedCapability_unreflected : misplacedCapability.Legible (.type ⟨0⟩) ∧
    ∃ binary header frames, misplacedCapability.emitType ⟨0⟩ = .ok binary ∧
      readStream? binary.words = some (header, frames) ∧
      framesOf .opCapability frames = [⟨17, [1]⟩, ⟨17, [0]⟩] ∧ binary.reflection.capabilities = ["Shader"] ∧
      ¬binary.reflection.DescribedBy frames frames := by
  have run : (fun binary => ((readStream? binary.words).map fun read => framesOf .opCapability read.2,
      binary.reflection.capabilities)) <$> misplacedCapability.emitType ⟨0⟩ =
      .ok (some [⟨17, [1]⟩, ⟨17, [0]⟩], ["Shader"]) := by decide +kernel
  obtain ⟨binary, emitted, shown⟩ := Outcome.map_eq_ok_iff.mp run
  obtain ⟨decoded, reflected⟩ := Prod.mk.inj shown
  obtain ⟨⟨header, frames⟩, read, found⟩ := Option.map_eq_some_iff.mp decoded
  refine ⟨misplacedCapability_legible, binary, header, frames, emitted, read, found, reflected, fun described => ?_⟩
  have lengths := described.capabilities.length_eq
  rw [found, reflected] at lengths
  cases lengths

end Library

end ShaderGraph
