import Mathlib.Data.Set.Function
import ShaderGraph.Proofs.Collection.Consistency
import ShaderGraph.Proofs.Decoding.Stream
import ShaderGraph.Proofs.Emission.Placement

namespace ShaderGraph

open Spirv

namespace Library

/-- The instructions of a module, section by section. -/
structure Sections (lib : Library) (c : Closure) (interface : List OpId) where
  imports : List Draft
  entryPoints : List Draft
  modes : List Draft
  names : List Draft
  decorations : List (List Draft)
  declarations : List (List Draft)
  functions : List (List Draft)
  imported : c.imports.mapM lib.importDraft = .ok imports
  entered : c.functions.filterMapM (lib.entryPointDraft interface) = .ok entryPoints
  executed : c.functions.filterMapM lib.executionModeDraft = .ok modes
  named : (c.order ++ c.functions.map NodeRef.function).filterMapM lib.nameDraft = .ok names
  decorated : c.order.mapM lib.decorationDrafts = .ok decorations
  declared : c.order.mapM lib.declarationDrafts = .ok declarations
  bodies : c.functions.mapM lib.functionDrafts = .ok functions

namespace Sections

variable {lib : Library} {c : Closure} {interface : List OpId}

def capabilities (_ : lib.Sections c interface) : List Draft :=
  c.capabilities.map fun capability => ⟨.opCapability, [.word capability.code]⟩

/-- What stands before the first function. -/
def moduleScope (s : lib.Sections c interface) : List Draft :=
  s.capabilities ++ s.imports ++ [⟨.opMemoryModel, [.word 0, .word 1]⟩] ++ s.entryPoints ++ s.modes ++ s.names ++
    s.decorations.flatten ++ s.declarations.flatten

def drafts (s : lib.Sections c interface) : List Draft := s.moduleScope ++ s.functions.flatten

end Sections

variable {lib : Library} {c : Closure} {interface : List OpId}

theorem exists_sections {drafts : List Draft} (found : lib.moduleDrafts c interface = .ok drafts) :
    ∃ s : lib.Sections c interface, drafts = s.drafts := by
  obtain ⟨capabilities, required, found⟩ := Outcome.bind_eq_ok_iff.mp found
  obtain ⟨imports, imported, found⟩ := Outcome.bind_eq_ok_iff.mp found
  obtain ⟨memoryModel, checked, found⟩ := Outcome.bind_eq_ok_iff.mp found
  obtain ⟨entryPoints, entered, found⟩ := Outcome.bind_eq_ok_iff.mp found
  obtain ⟨modes, executed, found⟩ := Outcome.bind_eq_ok_iff.mp found
  obtain ⟨names, named, found⟩ := Outcome.bind_eq_ok_iff.mp found
  obtain ⟨decorations, decorated, found⟩ := Outcome.bind_eq_ok_iff.mp found
  obtain ⟨declarations, declared, found⟩ := Outcome.bind_eq_ok_iff.mp found
  obtain ⟨functions, bodies, found⟩ := Outcome.bind_eq_ok_iff.mp found
  obtain ⟨rfl, _⟩ := checked_eq_ok_iff.mp checked
  have same : capabilities = c.capabilities.map fun capability => ⟨.opCapability, [.word capability.code]⟩ := by
    have pairs := Outcome.mapM_eq_ok_iff.mp required
    simp only [checked_eq_ok_iff] at pairs
    rw [← List.forall₂_eq_eq_eq, List.forall₂_map_right_iff]
    exact (pairs.imp fun _ _ pair => pair.1.symm).flip
  refine ⟨⟨imports, entryPoints, modes, names, decorations, declarations, functions, imported, entered, executed,
    named, decorated, declared, bodies⟩, ?_⟩
  simp [Sections.drafts, Sections.moduleScope, Sections.capabilities, ← same, ← Outcome.pure_eq_ok_iff.mp found]

/-! The form of each instruction. All of them are checked for their length. -/

theorem checked_map_eq_ok_iff {written : Draft} {answer : Option Draft} :
    some <$> written.checked = .ok answer ↔ written.wordCount ≤ maxWordCount ∧ answer = some written := by
  simp only [Outcome.map_eq_ok_iff, checked_eq_ok_iff]
  constructor
  · rintro ⟨_, ⟨rfl, short⟩, rfl⟩
    exact ⟨short, rfl⟩
  · rintro ⟨short, rfl⟩
    exact ⟨written, ⟨rfl, short⟩, rfl⟩

theorem importDraft_eq_ok {id : ImportId} {draft : Draft} (found : lib.importDraft id = .ok draft) :
    draft.wordCount ≤ maxWordCount ∧ ∃ item, lib.importAt id = .ok item ∧
      draft = ⟨.opExtInstImport, [.node (.extImport id), .text item.name]⟩ := by
  have written : lib.write [] (.extImport id) = .ok draft := found
  obtain ⟨instructs, short⟩ := write_eq_ok_iff.mp written
  cases instructs with
  | extImport atId => exact ⟨short, _, atId, rfl⟩

theorem typeDraft_eq_ok {id : TypeId} {draft : Draft} (found : lib.typeDraft id = .ok draft) :
    draft.wordCount ≤ maxWordCount ∧ ∃ decl opcode pieces, lib.typeAt id = .ok decl ∧
      lib.DeclaredAs decl.shape opcode pieces ∧ draft = ⟨opcode, .node (.type id) :: pieces⟩ := by
  have written : lib.write [] (.declaration (.type id)) = .ok draft := found
  obtain ⟨instructs, short⟩ := write_eq_ok_iff.mp written
  cases instructs with
  | type atId declared => exact ⟨short, _, _, _, atId, declared, rfl⟩

theorem opDraft_eq_ok {id : OpId} {draft : Draft} (found : lib.opDraft id = .ok draft) :
    draft.wordCount ≤ maxWordCount ∧ lib.Reads id draft := by
  have reads := reads_of_opDraft found
  rw [opDraft_eq_checked reads] at found
  exact ⟨(checked_eq_ok_iff.mp found).2, reads⟩

theorem entryPointDraft_eq_ok {id : FunctionId} {answer : Option Draft}
    (found : lib.entryPointDraft interface id = .ok answer) :
    ∃ function, lib.functionAt id = .ok function ∧ (∀ draft ∈ answer, draft.wordCount ≤ maxWordCount) ∧
      answer = function.executionModel.map fun model =>
        ⟨.opEntryPoint, [.word model.code, .node (.function id), .text function.name] ++
          interface.map (.node <| .op ·)⟩ := by
  obtain ⟨function, atId, found⟩ := Outcome.bind_eq_ok_iff.mp found
  refine ⟨function, Outcome.lift_eq_ok_iff.mp atId, ?_⟩
  cases stage : function.executionModel with
  | none =>
    simp only [stage] at found
    cases Outcome.pure_eq_ok_iff.mp found
    exact ⟨by simp, rfl⟩
  | some model =>
    simp only [stage] at found
    obtain ⟨short, rfl⟩ := checked_map_eq_ok_iff.mp found
    exact ⟨by simpa using short, rfl⟩

theorem executionModeDraft_eq_ok {id : FunctionId} {answer : Option Draft}
    (found : lib.executionModeDraft id = .ok answer) :
    ∃ function, lib.functionAt id = .ok function ∧ (∀ draft ∈ answer, draft.wordCount ≤ maxWordCount) ∧
      answer = (function.executionModel.bind executionMode?).map fun mode =>
        ⟨.opExecutionMode, .node (.function id) :: mode.map .word⟩ := by
  obtain ⟨function, atId, found⟩ := Outcome.bind_eq_ok_iff.mp found
  refine ⟨function, Outcome.lift_eq_ok_iff.mp atId, ?_⟩
  cases needed : function.executionModel.bind executionMode? with
  | none =>
    simp only [needed] at found
    cases Outcome.pure_eq_ok_iff.mp found
    exact ⟨by simp, rfl⟩
  | some mode =>
    simp only [needed] at found
    obtain ⟨short, rfl⟩ := checked_map_eq_ok_iff.mp found
    exact ⟨by simpa using short, rfl⟩

theorem nameDraft_eq_ok {node : NodeRef} {answer : Option Draft} (found : lib.nameDraft node = .ok answer) :
    ∃ name, lib.debugName? node = .ok name ∧ (∀ draft ∈ answer, draft.wordCount ≤ maxWordCount) ∧
      answer = name.map fun text => ⟨.opName, [.node node, .text text]⟩ := by
  obtain ⟨name, known, found⟩ := Outcome.bind_eq_ok_iff.mp found
  refine ⟨name, Outcome.lift_eq_ok_iff.mp known, ?_⟩
  cases name with
  | none =>
    cases Outcome.pure_eq_ok_iff.mp found
    exact ⟨by simp, rfl⟩
  | some text =>
    obtain ⟨short, rfl⟩ := checked_map_eq_ok_iff.mp found
    exact ⟨by simpa using short, rfl⟩

theorem decorationDrafts_eq_ok {node : NodeRef} {drafts : List Draft}
    (found : lib.decorationDrafts node = .ok drafts) :
    ∀ draft ∈ drafts, draft.wordCount ≤ maxWordCount ∧ ∃ id op, node = .op id ∧ lib.opAt id = .ok op ∧
      ∃ decoration ∈ op.decorations, draft =
        ⟨.opDecorate, .node node :: .word decoration.kind.code :: decoration.literals.map .word⟩ := by
  intro draft inside
  cases node with
  | op id =>
    obtain ⟨op, atId, found⟩ := Outcome.bind_eq_ok_iff.mp found
    obtain ⟨decoration, listed, checked⟩ := Outcome.exists_of_mapM found inside
    obtain ⟨rfl, short⟩ := checked_eq_ok_iff.mp checked
    exact ⟨short, id, op, rfl, Outcome.lift_eq_ok_iff.mp atId, decoration, listed, rfl⟩
  | _ =>
    cases found
    cases inside

/-- The instructions of a function are those for its parts. -/
theorem write_functionParts (interface : List OpId) {id : FunctionId} {drafts : List Draft}
    (found : lib.functionDrafts id = .ok drafts) :
    (lib.functionParts id).mapM (lib.write interface) = .ok drafts := by
  obtain ⟨function, atId, later⟩ := Outcome.bind_eq_ok_iff.mp found
  obtain ⟨_, _, later⟩ := Outcome.bind_eq_ok_iff.mp later
  obtain ⟨_, _, later⟩ := Outcome.bind_eq_ok_iff.mp later
  obtain ⟨_, _, later⟩ := Outcome.bind_eq_ok_iff.mp later
  obtain ⟨block, atBlock, later⟩ := Outcome.bind_eq_ok_iff.mp later
  obtain ⟨_, _, later⟩ := Outcome.bind_eq_ok_iff.mp later
  obtain ⟨_, bodies, _⟩ := Outcome.bind_eq_ok_iff.mp later
  have atId := Outcome.lift_eq_ok_iff.mp atId
  have atBlock := Outcome.lift_eq_ok_iff.mp atBlock
  refine (functionDrafts_eq_write atId atBlock ?_).symm.trans found
  intro body inside
  obtain ⟨_, _, made⟩ := Outcome.exists_result_of_mapM bodies inside
  obtain ⟨content, atBody, _⟩ := Outcome.bind_eq_ok_iff.mp made
  exact ⟨content, Outcome.lift_eq_ok_iff.mp atBody⟩

/-- A function starts with the instruction that defines it. -/
theorem exists_functionHead {id : FunctionId} {drafts : List Draft} (found : lib.functionDrafts id = .ok drafts) :
    ∃ component signature rest, drafts = ⟨.opFunction, [.node (.type component), .node (.function id), .word 0,
      .node (.type signature)]⟩ :: rest := by
  have pairs := Outcome.mapM_eq_ok_iff.mp (write_functionParts [] found)
  obtain ⟨head, rest, first, _, rfl⟩ := List.forall₂_cons_left_iff.mp pairs
  obtain ⟨instructs, _⟩ := write_eq_ok_iff.mp first
  cases instructs with
  | functionHead => exact ⟨_, _, rest, rfl⟩

/-- The instructions of a function are its own and those of the library that are listed in it. -/
theorem functionDrafts_cases {id : FunctionId} {drafts : List Draft} (found : lib.functionDrafts id = .ok drafts)
    {draft : Draft} (member : draft ∈ drafts) : draft.wordCount ≤ maxWordCount ∧
      (draft.opcode ∈ [.opFunction, .opLabel, .opFunctionEnd] ∨
        ∃ op ∈ lib.functionOps id, ∃ content, lib.opAt op = .ok content ∧ draft.opcode = content.opcode) := by
  obtain ⟨part, inside, made⟩ := Outcome.exists_of_mapM (write_functionParts [] found) member
  obtain ⟨instructs, short⟩ := write_eq_ok_iff.mp made
  refine ⟨short, ?_⟩
  rcases functionParts_cases inside with rfl | ⟨op, listed, rfl⟩ | ⟨block, body, rfl⟩ | rfl
  · cases instructs
    exact .inl (by simp)
  · cases instructs with
    | line reads => exact .inr ⟨op, listed, reads.opcode⟩
  · cases instructs
    exact .inl (by simp)
  · cases instructs
    exact .inl (by simp)

/-- No function lists an instruction with such an opcode. -/
def NoneInFunctions (lib : Library) (root : NodeRef) (listed : Opcode → Prop) : Prop :=
  ∀ function, lib.Reachable [root] (.function function) → ∀ id ∈ lib.functionOps function, ∀ op,
    lib.opAt id = .ok op → ¬listed op.opcode

/-- Instructions of one opcode, all short enough to be encoded. -/
def AllOf (opcode : Opcode) (drafts : List Draft) : Prop :=
  ∀ draft ∈ drafts, draft.wordCount ≤ maxWordCount ∧ draft.opcode = opcode

theorem AllOf.filter {opcode : Opcode} {drafts : List Draft} (all : AllOf opcode drafts) (sought : Opcode) :
    drafts.filter (·.opcode = sought) = if opcode = sought then drafts else [] := by
  split
  · next same => exact List.filter_eq_self.mpr fun draft inside => by simpa [(all draft inside).2] using same
  · next other => exact List.filter_eq_nil_iff.mpr fun draft inside => by simpa [(all draft inside).2] using other

/-- The words of a module are read back as its instructions. -/
theorem readStream?_emitWords_of_short (n : Numbering) {drafts : List Draft}
    (short : ∀ draft ∈ drafts, draft.wordCount ≤ maxWordCount) :
    readStream? (emitWords n drafts) = some (emittedHeader (.ofNat n.bound), drafts.map (Draft.frame n.word)) := by
  have fit : ∀ f ∈ drafts.map (Draft.frame n.word), f.Fits :=
    List.forall_mem_map.mpr fun draft inside => Draft.frame_fits (short draft inside)
  rw [← readStream?_words _ fit, List.flatMap_map]
  rfl

namespace Sections

variable (s : lib.Sections c interface)

theorem allOf_capabilities : AllOf .opCapability s.capabilities := by
  intro draft inside
  obtain ⟨capability, _, rfl⟩ := List.mem_map.mp inside
  exact ⟨by simp [Draft.wordCount, Piece.wordCount, maxWordCount], rfl⟩

theorem allOf_imports : AllOf .opExtInstImport s.imports := by
  intro draft inside
  obtain ⟨id, _, made⟩ := Outcome.exists_of_mapM s.imported inside
  obtain ⟨short, item, _, rfl⟩ := importDraft_eq_ok made
  exact ⟨short, rfl⟩

theorem allOf_entryPoints : AllOf .opEntryPoint s.entryPoints := by
  intro draft inside
  obtain ⟨id, _, made⟩ := Outcome.exists_of_filterMapM s.entered inside
  obtain ⟨function, _, short, form⟩ := entryPointDraft_eq_ok made
  obtain ⟨model, _, rfl⟩ := Option.map_eq_some_iff.mp form.symm
  exact ⟨short _ rfl, rfl⟩

theorem allOf_modes : AllOf .opExecutionMode s.modes := by
  intro draft inside
  obtain ⟨id, _, made⟩ := Outcome.exists_of_filterMapM s.executed inside
  obtain ⟨function, _, short, form⟩ := executionModeDraft_eq_ok made
  obtain ⟨mode, _, rfl⟩ := Option.map_eq_some_iff.mp form.symm
  exact ⟨short _ rfl, rfl⟩

theorem allOf_names : AllOf .opName s.names := by
  intro draft inside
  obtain ⟨node, _, made⟩ := Outcome.exists_of_filterMapM s.named inside
  obtain ⟨name, _, short, form⟩ := nameDraft_eq_ok made
  obtain ⟨text, _, rfl⟩ := Option.map_eq_some_iff.mp form.symm
  exact ⟨short _ rfl, rfl⟩

theorem allOf_decorations : AllOf .opDecorate s.decorations.flatten := by
  intro draft inside
  obtain ⟨drafts, listed, inside⟩ := List.mem_flatten.mp inside
  obtain ⟨node, _, made⟩ := Outcome.exists_of_mapM s.decorated listed
  obtain ⟨short, _, _, _, _, decoration, _, rfl⟩ := decorationDrafts_eq_ok made draft inside
  exact ⟨short, rfl⟩

/-- What is declared at module scope is a type, a constant or a variable. -/
theorem declaration_opcode {root : NodeRef} (reaches : c.IsReachablePart lib [root]) {draft : Draft}
    (member : draft ∈ s.declarations.flatten) : draft.wordCount ≤ maxWordCount ∧
      (draft.opcode.isType = true ∨ draft.opcode.isConstant = true ∨ draft.opcode = .opVariable) := by
  obtain ⟨drafts, listed, inside⟩ := List.mem_flatten.mp member
  obtain ⟨node, ordered, made⟩ := Outcome.exists_of_mapM s.declared listed
  cases node with
  | type id =>
    obtain ⟨own, written, found⟩ := Outcome.bind_eq_ok_iff.mp made
    cases Outcome.pure_eq_ok_iff.mp found
    cases List.mem_singleton.mp inside
    obtain ⟨short, decl, opcode, pieces, _, declared, rfl⟩ := typeDraft_eq_ok written
    exact ⟨short, .inl declared.isType⟩
  | op id =>
    obtain ⟨own, written, found⟩ := Outcome.bind_eq_ok_iff.mp made
    cases Outcome.pure_eq_ok_iff.mp found
    cases List.mem_singleton.mp inside
    obtain ⟨short, reads⟩ := opDraft_eq_ok written
    obtain ⟨op, atId, opcode⟩ := reads.opcode
    obtain ⟨_, content, atId', declaration⟩ := (op_mem_order_iff reaches).mp ordered
    cases atId'.symm.trans atId
    rw [opcode]
    exact ⟨short, .inr (declaration.imp_right And.left)⟩
  | _ =>
    cases made
    cases inside

theorem filter_declarations {root : NodeRef} (reaches : c.IsReachablePart lib [root]) {sought : Opcode}
    (noType : sought.isType = false) (noConstant : sought.isConstant = false) (noVariable : sought ≠ .opVariable) :
    s.declarations.flatten.filter (·.opcode = sought) = [] := by
  refine List.filter_eq_nil_iff.mpr fun draft inside => ?_
  simp only [decide_eq_true_eq]
  rintro rfl
  rcases (s.declaration_opcode reaches inside).2 with isType | isConstant | isVariable
  · rw [isType] at noType
    cases noType
  · rw [isConstant] at noConstant
    cases noConstant
  · exact noVariable isVariable

/-- Where to look for the instructions of an opcode. -/
theorem filter_moduleScope (sought : Opcode) : s.moduleScope.filter (·.opcode = sought) =
    (if Opcode.opCapability = sought then s.capabilities else []) ++
    (if Opcode.opExtInstImport = sought then s.imports else []) ++
    (if Opcode.opMemoryModel = sought then [⟨.opMemoryModel, [.word 0, .word 1]⟩] else []) ++
    (if Opcode.opEntryPoint = sought then s.entryPoints else []) ++
    (if Opcode.opExecutionMode = sought then s.modes else []) ++
    (if Opcode.opName = sought then s.names else []) ++
    (if Opcode.opDecorate = sought then s.decorations.flatten else []) ++
    s.declarations.flatten.filter (·.opcode = sought) := by
  simp only [moduleScope, List.filter_append, s.allOf_capabilities.filter, s.allOf_imports.filter,
    s.allOf_entryPoints.filter, s.allOf_modes.filter, s.allOf_names.filter, s.allOf_decorations.filter,
    List.filter_singleton, Bool.cond_decide]

/-- Opcodes that functions neither have of their own nor list are in none of them. -/
theorem not_mem_functions {root : NodeRef} (reaches : c.IsReachablePart lib [root]) {listed : Opcode → Prop}
    (other : ∀ opcode ∈ [Opcode.opFunction, .opLabel, .opFunctionEnd], ¬listed opcode)
    (none : lib.NoneInFunctions root listed) : ∀ draft ∈ s.functions.flatten, ¬listed draft.opcode := by
  intro draft inside
  obtain ⟨drafts, place, inside⟩ := List.mem_flatten.mp inside
  obtain ⟨id, member, made⟩ := Outcome.exists_of_mapM s.bodies place
  rcases (functionDrafts_cases made inside).2 with own | ⟨op, within, content, atOp, same⟩
  · exact other _ own
  · rw [same]
    exact none id ((reaches.functions id).mp member) op within content atOp

theorem filter_functions {listed : Opcode → Prop} (none : ∀ draft ∈ s.functions.flatten, ¬listed draft.opcode)
    {sought : Opcode} (member : listed sought) : s.functions.flatten.filter (·.opcode = sought) = [] := by
  refine List.filter_eq_nil_iff.mpr fun draft inside same => none draft inside ?_
  rwa [of_decide_eq_true same]

theorem short {root : NodeRef} (reaches : c.IsReachablePart lib [root]) :
    ∀ draft ∈ s.drafts, draft.wordCount ≤ maxWordCount := by
  intro draft inside
  simp only [drafts, moduleScope, List.mem_append, List.mem_singleton] at inside
  rcases inside with (((((((capability | import') | rfl) | entry) | mode) | name) | decoration) | declaration) | body
  · exact (s.allOf_capabilities draft capability).1
  · exact (s.allOf_imports draft import').1
  · simp [Draft.wordCount, Piece.wordCount, maxWordCount]
  · exact (s.allOf_entryPoints draft entry).1
  · exact (s.allOf_modes draft mode).1
  · exact (s.allOf_names draft name).1
  · exact (s.allOf_decorations draft decoration).1
  · exact (s.declaration_opcode reaches declaration).1
  · obtain ⟨drafts, listed, inside⟩ := List.mem_flatten.mp body
    obtain ⟨id, _, made⟩ := Outcome.exists_of_mapM s.bodies listed
    exact (functionDrafts_cases made inside).1

theorem readStream?_emitWords {root : NodeRef} (reaches : c.IsReachablePart lib [root]) (n : Numbering) :
    readStream? (emitWords n s.drafts) = some (emittedHeader (.ofNat n.bound), s.drafts.map (Draft.frame n.word)) :=
  readStream?_emitWords_of_short n (s.short reaches)

/-- Nodes of the interface, or that an instruction names, are known by different ids. -/
def Distinguishes (idOf : NodeRef → UInt32) : Prop :=
  Set.InjOn idOf {node | node ∈ interface.map NodeRef.op ++ s.drafts.flatMap Draft.mentions}

theorem mem_numbering {node : NodeRef} (member : node ∈ interface.map NodeRef.op ++ s.drafts.flatMap Draft.mentions) :
    node ∈ (numbering c interface s.drafts).nodes := by
  refine (Numbering.mem_ofMentions _).mpr ?_
  rw [List.append_assoc]
  exact List.mem_append_right _ member

theorem distinguishes_numbering (fits : (numbering c interface s.drafts).bound < UInt32.size) :
    s.Distinguishes (numbering c interface s.drafts).word :=
  fun _ member _ other => Numbering.ofNat_id_inj fits (s.mem_numbering member) (s.mem_numbering other)

end Sections

/-- The variable that a node is, if it is one. -/
def variableOf? (lib : Library) : NodeRef → Option OpId
  | .op id =>
    match lib.opAt id with
    | .ok op => if op.opcode = .opVariable then some id else none
    | .error _ => none
  | _ => none

theorem variableOf?_op {id : OpId} {op : Op} (atId : lib.opAt id = .ok op) :
    lib.variableOf? (.op id) = if op.opcode = .opVariable then some id else none := by
  rw [variableOf?, atId]

/-- The variables among the declarations are written as the globals are listed. -/
theorem variables_declared {order : List NodeRef} {declarations : List (List Draft)}
    (found : order.mapM lib.declarationDrafts = .ok declarations) :
    (order.filterMap lib.variableOf?).mapM lib.opDraft =
      .ok (declarations.flatten.filter (·.opcode = .opVariable)) := by
  have pairs := Outcome.mapM_eq_ok_iff.mp found
  clear found
  induction pairs with
  | nil => rfl
  | @cons node drafts rest others made _ ih =>
    rw [List.flatten_cons, List.filter_append]
    cases node with
    | type id =>
      obtain ⟨own, written, found⟩ := Outcome.bind_eq_ok_iff.mp made
      cases Outcome.pure_eq_ok_iff.mp found
      obtain ⟨_, decl, opcode, pieces, _, declared, rfl⟩ := typeDraft_eq_ok written
      have other : opcode ≠ .opVariable := fun same => by simpa [same, Opcode.isType] using declared.isType
      have none : lib.variableOf? (.type id) = none := rfl
      rw [List.filterMap_cons_none none, ih]
      simp [other]
    | op id =>
      obtain ⟨own, written, found⟩ := Outcome.bind_eq_ok_iff.mp made
      cases Outcome.pure_eq_ok_iff.mp found
      obtain ⟨op, atId, same⟩ := (reads_of_opDraft written).opcode
      by_cases isVariable : op.opcode = .opVariable
      · rw [List.filterMap_cons_some ((variableOf?_op atId).trans (if_pos isVariable)), List.mapM_cons, written, ih]
        have kept : [own].filter (·.opcode = .opVariable) = [own] := by simp [same, isVariable]
        rw [kept]
        rfl
      · rw [List.filterMap_cons_none ((variableOf?_op atId).trans (if_neg isVariable)), ih]
        simp [same, isVariable]
    | _ =>
      cases made
      exact ih

end Library

/-- The globals are the variables of the order, as they stand in it. -/
theorem Collecting.globals_eq {lib : Library} {roots : List NodeRef} {moment : Moment}
    (collecting : Collecting lib roots moment) :
    moment.walk.closure.globals = moment.walk.closure.order.filterMap lib.variableOf? := by
  rw [← collecting.order_parts.2.2]
  refine List.filterMap_congr fun node member => ?_
  rw [collecting.order_eq, List.mem_reverse] at member
  obtain ⟨task, done, declared⟩ := List.mem_filterMap.mp member
  cases (collecting.declared_visited (.inl done) declared).1 with
  | type => rfl
  | @constant id op atId isConstant =>
    have noVariable : op.opcode ≠ .opVariable := fun same => by simp [same, Opcode.isConstant] at isConstant
    rw [Library.variableOf?_op atId, if_neg noVariable]
    exact Library.opWhere?_eq_none atId (by simp [isConstant])
  | globalVariable atId declares =>
    rw [Library.variableOf?_op atId, if_pos declares.1]
    exact Library.opWhere?_eq_some_iff.mpr ⟨rfl, _, atId, by rw [declares.1]; rfl⟩

theorem Library.reflect_eq_ok {lib : Library} {c : Closure} {bound : UInt32} {r : Reflection}
    (found : lib.reflect c bound = .ok r) :
    r.idBound = bound ∧ r.capabilities = c.capabilities.map Enumerant.name ∧
      (c.imports.mapM fun id => return (← lib.importAt id).name) = .ok r.extensionImports ∧
      (c.initializers.mapM fun id => return (← lib.functionAt id).name) = .ok r.initializers ∧
      c.functions.filterMapM lib.reflectEntryPoint = .ok r.entryPoints ∧
      c.globals.mapM lib.reflectGlobal = .ok r.globals := by
  obtain ⟨imports, imported, found⟩ := Outcome.bind_eq_ok_iff.mp found
  obtain ⟨initializers, started, found⟩ := Outcome.bind_eq_ok_iff.mp found
  obtain ⟨entryPoints, entered, found⟩ := Outcome.bind_eq_ok_iff.mp found
  obtain ⟨globals, declared, found⟩ := Outcome.bind_eq_ok_iff.mp found
  cases Outcome.pure_eq_ok_iff.mp found
  exact ⟨rfl, rfl, imported, started, entered, declared⟩

/-- How a module comes about, and the interface that its entry points share. -/
theorem Library.exists_emission_with_interface {lib : Library} {entry : TypeId} {binary : Binary}
    (emitted : lib.emitType entry = .ok binary) :
    ∃ past w interface, ∃ s : lib.Sections w.closure interface, Collecting lib [.type entry] ⟨past, w, []⟩ ∧
      lib.interface w.closure.globals = .ok interface ∧
      (numbering w.closure interface s.drafts).bound < UInt32.size ∧
      binary.words = emitWords (numbering w.closure interface s.drafts) s.drafts ∧
      lib.reflect w.closure (.ofNat (numbering w.closure interface s.drafts).bound) = .ok binary.reflection := by
  obtain ⟨c, collected, emitted⟩ := Outcome.bind_eq_ok_iff.mp emitted
  obtain ⟨interface, interfaced, emitted⟩ := Outcome.bind_eq_ok_iff.mp emitted
  obtain ⟨drafts, drafted, emitted⟩ := Outcome.bind_eq_ok_iff.mp emitted
  obtain ⟨numbering, checked, emitted⟩ := Outcome.bind_eq_ok_iff.mp emitted
  obtain ⟨reflection, reflected, made⟩ := Outcome.bind_eq_ok_iff.mp emitted
  obtain ⟨past, w, collecting, rfl⟩ := Collecting.of_dependencies (Outcome.lift_eq_ok_iff.mp collected)
  obtain ⟨s, rfl⟩ := exists_sections drafted
  obtain ⟨fits, rfl⟩ := Numbering.checked_eq_ok_iff.mp (Outcome.lift_eq_ok_iff.mp checked)
  cases Outcome.pure_eq_ok_iff.mp made
  exact ⟨past, w, interface, s, collecting, Outcome.lift_eq_ok_iff.mp interfaced, fits, rfl,
    Outcome.lift_eq_ok_iff.mp reflected⟩

/-- How a module comes about. -/
theorem Library.exists_emission {lib : Library} {entry : TypeId} {binary : Binary}
    (emitted : lib.emitType entry = .ok binary) :
    ∃ past w interface, ∃ s : lib.Sections w.closure interface, Collecting lib [.type entry] ⟨past, w, []⟩ ∧
      (numbering w.closure interface s.drafts).bound < UInt32.size ∧
      binary.words = emitWords (numbering w.closure interface s.drafts) s.drafts ∧
      lib.reflect w.closure (.ofNat (numbering w.closure interface s.drafts).bound) = .ok binary.reflection := by
  obtain ⟨past, w, interface, s, collecting, _, rest⟩ := exists_emission_with_interface emitted
  exact ⟨past, w, interface, s, collecting, rest⟩

end ShaderGraph
