import ShaderGraph.Proofs.Construction.Requests
import ShaderGraph.Proofs.Decoding.Reflection

namespace ShaderGraph

open Spirv

/-! Reading a declaration of a type. -/

/-- The shape of the type that an instruction declares, from its opcode and the words after its id. -/
def TypeShape.ofWords? (nodeAt : UInt32 → Option NodeRef) (opcode : Opcode) (words : List UInt32) : Option TypeShape :=
  let typeAt (word : UInt32) : Option TypeId :=
    match nodeAt word with
    | some (.type id) => some id
    | _ => none
  match opcode, words with
  | .opTypeVoid, [] => some { kind := .void }
  | .opTypeBool, [] => some { kind := .bool }
  | .opTypeInt, [width, signed] => some { kind := .int width (signed = 1) }
  | .opTypeFloat, [width] => some { kind := .float width }
  | .opTypeVector, [component, count] => do
    return { kind := .vector count, component := some (← typeAt component) }
  | .opTypeMatrix, [column, columns] => do
    return { kind := .matrix columns, component := some (← typeAt column) }
  | .opTypeArray, [element, length] => do
    return { kind := .array, component := some (← typeAt element), parameters := [← nodeAt length] }
  | .opTypeRuntimeArray, [element] => do
    return { kind := .runtimeArray, component := some (← typeAt element) }
  | .opTypeStruct, members => do
    return { kind := .struct, parameters := ← members.mapM nodeAt }
  | .opTypePointer, [storageClass, base] => do
    return { kind := .pointer (← Enumerant.ofCode? _ storageClass), dereference := some (← typeAt base) }
  | .opTypeFunction, result :: params => do
    return { kind := .function, component := some (← typeAt result), parameters := ← params.mapM nodeAt }
  | .opTypeImage, [sampledType, dim, depth, arrayed, multisampled, sampled, _] => do
    return {
      kind := .image (← Enumerant.ofCode? _ dim) depth (arrayed = 1) (multisampled = 1) sampled
      component := some (← typeAt sampledType) }
  | .opTypeSampledImage, [image] => do
    return { kind := .sampledImage, component := some (← typeAt image) }
  | .opTypeSampler, [] => some { kind := .sampler }
  | _, _ => none

namespace Library

variable {lib : Library} {idOf : NodeRef → UInt32} {nodeAt : UInt32 → Option NodeRef}

theorem piecesOf_types (lib : Library) (ids : List TypeId) :
    lib.piecesOf (ids.map .type) = .ok (ids.map (.node <| .type ·)) := by
  refine Outcome.mapM_eq_ok_iff.mpr ?_
  rw [List.forall₂_map_left_iff, List.forall₂_map_right_iff, List.forall₂_same]
  exact fun id _ => rfl

theorem mapM_nodeAt_types {ids : List TypeId} (back : ∀ id ∈ ids, nodeAt (idOf (.type id)) = some (.type id)) :
    ((ids.map (Piece.node <| .type ·)).flatMap (Piece.words idOf)).mapM nodeAt = some (ids.map .type) := by
  induction ids with
  | nil => rfl
  | cons id rest ih =>
    rw [List.forall_mem_cons] at back
    simp only [List.map_cons, List.flatMap_cons, Piece.words, List.singleton_append, List.mapM_cons, back.1, ih back.2,
      Option.bind_eq_bind, Option.bind_some, Option.pure_def]

/-- What a regular type is made of can be read from its declaration. -/
theorem ofWords?_typeOperands {decl : TypeDecl} {opcode : Opcode} {pieces : List Piece} (regular : decl.shape.Regular)
    (found : lib.typeOperands decl = .ok (opcode, pieces))
    (back : ∀ node ∈ pieces.filterMap Piece.mention?, nodeAt (idOf node) = some node) :
    TypeShape.ofWords? nodeAt opcode (pieces.flatMap (Piece.words idOf)) = some decl.shape := by
  obtain ⟨name, shape, pointer, functions⟩ := decl
  cases regular with
  | void | bool | float | sampler =>
    cases found
    rfl
  | int width signed =>
    cases found
    cases signed <;> rfl
  | vector component | matrix component | runtimeArray component | sampledImage component =>
    cases found
    have known : nodeAt (idOf (.type component)) = some (.type component) := back _ (by simp)
    simp [TypeShape.ofWords?.eq_def, Piece.words, known]
  | array element length =>
    cases found
    have known : nodeAt (idOf (.type element)) = some (.type element) := back _ (by simp)
    have last : nodeAt (idOf (.op length)) = some (.op length) := back _ (by simp)
    simp [TypeShape.ofWords?.eq_def, Piece.words, known, last]
  | pointer storageClass base =>
    cases found
    have known : nodeAt (idOf (.type base)) = some (.type base) := back _ (by simp)
    simp [TypeShape.ofWords?.eq_def, Piece.words, known, Enumerant.ofCode?_code]
  | image sampledType dim depth arrayed multisampled sampled =>
    cases found
    have known : nodeAt (idOf (.type sampledType)) = some (.type sampledType) := back _ (by simp)
    cases arrayed <;> cases multisampled <;>
      simp [TypeShape.ofWords?.eq_def, Piece.words, flagPiece, known, Enumerant.ofCode?_code]
  | struct members =>
    simp only [typeOperands, piecesOf_types] at found
    cases found
    have known := mapM_nodeAt_types fun id inside => back (.type id) (by simpa [Piece.mention?] using inside)
    simp [TypeShape.ofWords?.eq_def, known]
  | function result params =>
    simp only [typeOperands, piecesOf_types] at found
    cases found
    have known : nodeAt (idOf (.type result)) = some (.type result) := back _ (by simp)
    have others := mapM_nodeAt_types fun id inside =>
      back (.type id) (List.mem_cons_of_mem _ (by simpa [Piece.mention?] using inside))
    simp [TypeShape.ofWords?.eq_def, Piece.words, known, others]

end Library

/-- The node of an id. -/
def Numbering.node? (n : Numbering) (id : UInt32) : Option NodeRef := n.nodes[id.toNat - 1]?

theorem Numbering.node?_id {n : Numbering} (fits : n.bound < UInt32.size) {node : NodeRef} (inside : node ∈ n.nodes) :
    n.node? (.ofNat (n.id node)) = some node := by
  have place := List.idxOf_lt_length_iff.mpr inside
  rw [node?, toNat_ofNat_id fits inside, Nat.add_sub_cancel, List.getElem?_eq_getElem place, List.getElem_idxOf]

namespace Spirv

/-- Whether an instruction declares a type that may be declared only once. -/
def Opcode.declaresOnce (opcode : Opcode) : Bool := opcode.isType && opcode != .opTypeStruct

theorem Opcode.isType_of_isConstant {opcode : Opcode} (constant : opcode.isConstant = true) :
    opcode.isType = false := by
  cases opcode <;> first | rfl | cases constant

/-- The types other than structs that instructions declare: opcodes and what stands after the ids. -/
def typeForms (frames : List Frame) : List (Nat × List UInt32) :=
  (frames.filter fun f => (Opcode.ofCode? f.code).any Opcode.declaresOnce).map fun f => (f.code, f.operands.tail)

end Spirv

namespace Library

variable {lib : Library} {c : Closure} {interface : List OpId} {root : NodeRef} {idOf : NodeRef → UInt32}

theorem typeForms_append (frames others : List Frame) :
    typeForms (frames ++ others) = typeForms frames ++ typeForms others := by
  rw [typeForms, List.filter_append, List.map_append, ← typeForms, ← typeForms]

theorem typeForms_frames (drafts : List Draft) : typeForms (drafts.map (Draft.frame idOf)) =
    (drafts.filter (·.opcode.declaresOnce)).map fun draft =>
      ((draft.frame idOf).code, (draft.frame idOf).operands.tail) := by
  rw [typeForms, List.filter_map, List.map_map]
  congr 2
  funext draft
  simp [Draft.frame, Opcode.ofCode?_code]

theorem filter_declaresOnce_of_allOf {opcode : Opcode} {drafts : List Draft} (all : AllOf opcode drafts)
    (other : opcode.declaresOnce = false) : drafts.filter (·.opcode.declaresOnce) = [] := by
  refine List.filter_eq_nil_iff.mpr fun draft inside => ?_
  rw [(all draft inside).2, other]
  decide

namespace Sections

variable (s : lib.Sections c interface)

/-- Types are declared in one section. -/
theorem typeForms_moduleScope :
    typeForms (s.moduleScope.map (Draft.frame idOf)) = typeForms (s.declarations.flatten.map (Draft.frame idOf)) := by
  have memoryModel : [(⟨.opMemoryModel, [.word 0, .word 1]⟩ : Draft)].filter (·.opcode.declaresOnce) = [] := rfl
  simp only [typeForms_frames, moduleScope, List.filter_append, memoryModel,
    filter_declaresOnce_of_allOf s.allOf_capabilities rfl, filter_declaresOnce_of_allOf s.allOf_imports rfl,
    filter_declaresOnce_of_allOf s.allOf_entryPoints rfl, filter_declaresOnce_of_allOf s.allOf_modes rfl,
    filter_declaresOnce_of_allOf s.allOf_names rfl, filter_declaresOnce_of_allOf s.allOf_decorations rfl,
    List.nil_append]

theorem typeForms_functions (reaches : c.IsReachablePart lib [root])
    (plain : lib.NoneInFunctions root (·.declaresOnce = true)) :
    typeForms (s.functions.flatten.map (Draft.frame idOf)) = [] := by
  rw [typeForms_frames, List.map_eq_nil_iff, List.filter_eq_nil_iff]
  exact s.not_mem_functions reaches (by decide) plain

end Sections

/-- Two types are declared in one form only if they have the same shape. -/
theorem shape_eq_of_form_eq {nodeAt : UInt32 → Option NodeRef} {id other : TypeId} {decl otherDecl : TypeDecl}
    {draft otherDraft : Draft} (atId : lib.typeAt id = .ok decl) (atOther : lib.typeAt other = .ok otherDecl)
    (regular : decl.shape.Regular) (otherRegular : otherDecl.shape.Regular)
    (made : lib.typeDraft id = .ok draft) (otherMade : lib.typeDraft other = .ok otherDraft)
    (back : ∀ node ∈ draft.mentions ++ otherDraft.mentions, nodeAt (idOf node) = some node)
    (code : (draft.frame idOf).code = (otherDraft.frame idOf).code)
    (operands : (draft.frame idOf).operands.tail = (otherDraft.frame idOf).operands.tail) :
    decl.shape = otherDecl.shape := by
  have read {id : TypeId} {decl : TypeDecl} {draft : Draft} (atId : lib.typeAt id = .ok decl)
      (regular : decl.shape.Regular) (made : lib.typeDraft id = .ok draft)
      (back : ∀ node ∈ draft.mentions, nodeAt (idOf node) = some node) :
      TypeShape.ofWords? nodeAt draft.opcode (draft.frame idOf).operands.tail = some decl.shape := by
    obtain ⟨_, decl', opcode, rest, at', declared, rfl⟩ := typeDraft_eq_ok made
    cases at'.symm.trans atId
    have written := typeOperands_eq_ok_iff.mpr declared
    exact ofWords?_typeOperands regular written fun node mentioned => back node (List.mem_cons_of_mem _ mentioned)
  have first := read atId regular made fun node mentioned => back node (List.mem_append_left _ mentioned)
  have second := read atOther otherRegular otherMade fun node mentioned => back node (List.mem_append_right _ mentioned)
  rw [Opcode.code_inj.mp code, operands, second] at first
  exact (Option.some.inj first).symm

theorem opcode_typeDraft_of_struct {id : TypeId} {decl : TypeDecl} {draft : Draft} (atId : lib.typeAt id = .ok decl)
    (isStruct : decl.shape.kind = .struct) (made : lib.typeDraft id = .ok draft) : draft.opcode = .opTypeStruct := by
  obtain ⟨_, decl', opcode, rest, at', declared, rfl⟩ := typeDraft_eq_ok made
  cases at'.symm.trans atId
  cases declared with
  | struct => rfl
  | _ kind => cases kind.symm.trans isStruct

/-- A declaration in a form that may stand only once is that of a type which is not a struct. -/
theorem exists_type_of_declaresOnce {node : NodeRef} {drafts : List Draft} {draft : Draft}
    (ops : ∀ id, node = .op id → ∀ op, lib.opAt id = .ok op → op.opcode.isType = false)
    (made : lib.declarationDrafts node = .ok drafts) (inside : draft ∈ drafts)
    (once : draft.opcode.declaresOnce = true) : ∃ id decl, node = .type id ∧ lib.typeDraft id = .ok draft ∧
      lib.typeAt id = .ok decl ∧ decl.shape.kind ≠ .struct := by
  cases node with
  | type id =>
    obtain ⟨own, written, made⟩ := Outcome.bind_eq_ok_iff.mp made
    cases Outcome.pure_eq_ok_iff.mp made
    cases List.mem_singleton.mp inside
    obtain ⟨_, decl, _, _, atId, _⟩ := typeDraft_eq_ok written
    refine ⟨id, decl, rfl, written, atId, fun isStruct => ?_⟩
    rw [opcode_typeDraft_of_struct atId isStruct written] at once
    cases once
  | op id =>
    obtain ⟨own, written, made⟩ := Outcome.bind_eq_ok_iff.mp made
    cases Outcome.pure_eq_ok_iff.mp made
    cases List.mem_singleton.mp inside
    obtain ⟨op, atId, same⟩ := (reads_of_opDraft written).opcode
    simp [same, Opcode.declaresOnce, ops id rfl op atId] at once
  | _ =>
    cases made
    cases inside

/-- Declarations of different types of a built library have different forms. -/
theorem nodup_typeForms_declarations {b : Builder} (interned : b.Interned) (regular : b.library.Regular)
    {nodeAt : UInt32 → Option NodeRef} {order : List NodeRef} {declarations : List (List Draft)} (once : order.Nodup)
    (ops : ∀ id, .op id ∈ order → ∀ op, b.library.opAt id = .ok op → op.opcode.isType = false)
    (found : order.mapM b.library.declarationDrafts = .ok declarations)
    (back : ∀ node ∈ declarations.flatten.flatMap Draft.mentions, nodeAt (idOf node) = some node) :
    (typeForms (declarations.flatten.map (Draft.frame idOf))).Nodup := by
  have pairs := Outcome.mapM_eq_ok_iff.mp found
  clear found
  induction pairs with
  | nil => exact List.nodup_nil
  | @cons node drafts rest others made later ih =>
    obtain ⟨fresh, once⟩ := List.nodup_cons.mp once
    simp only [List.flatten_cons, List.flatMap_append, List.mem_append] at back
    have tail := ih once (fun id inside => ops id (List.mem_cons_of_mem _ inside)) fun node mentioned =>
      back node (.inr mentioned)
    rw [List.flatten_cons, List.map_append, typeForms_append]
    refine List.nodup_append.mpr ⟨?_, tail, ?_⟩
    · -- a node has one declaration at most
      have single : drafts.length ≤ 1 := by
        cases node with
        | type | op =>
          obtain ⟨_, _, made⟩ := Outcome.bind_eq_ok_iff.mp made
          cases Outcome.pure_eq_ok_iff.mp made
          exact le_rfl
        | _ =>
          cases made
          exact Nat.zero_le 1
      match drafts, single with
      | [], _ => exact List.nodup_nil
      | [draft], _ =>
        rw [List.map_singleton, typeForms]
        exact ((List.nodup_singleton _).filter _).map_on (by simp +contextual)
    · rw [typeForms_frames, typeForms_frames]
      intro form here otherForm there same
      obtain ⟨draft, listed, rfl⟩ := List.mem_map.mp here
      obtain ⟨otherDraft, otherListed, rfl⟩ := List.mem_map.mp there
      obtain ⟨inside, isType⟩ := List.mem_filter.mp listed
      obtain ⟨otherInside, otherIsType⟩ := List.mem_filter.mp otherListed
      obtain ⟨otherDrafts, otherPlace, within⟩ := List.mem_flatten.mp otherInside
      obtain ⟨other, otherMember, otherMade⟩ := Outcome.exists_of_mapM (Outcome.mapM_eq_ok_iff.mpr later) otherPlace
      obtain ⟨id, decl, rfl, written, atId, noStruct⟩ :=
        exists_type_of_declaresOnce (fun id at' => ops id (at' ▸ List.mem_cons_self ..)) made inside isType
      obtain ⟨otherId, otherDecl, rfl, otherWritten, atOther, _⟩ :=
        exists_type_of_declaresOnce (fun id at' => ops id (at' ▸ List.mem_cons_of_mem _ otherMember)) otherMade within
          otherIsType
      obtain ⟨code, operands⟩ := Prod.mk.inj same
      have known : ∀ node ∈ draft.mentions ++ otherDraft.mentions, nodeAt (idOf node) = some node := by
        intro node mentioned
        rcases List.mem_append.mp mentioned with first | second
        · exact back node (.inl (List.mem_flatMap.mpr ⟨draft, inside, first⟩))
        · exact back node (.inr (List.mem_flatMap.mpr ⟨otherDraft, otherInside, second⟩))
      have shape := shape_eq_of_form_eq atId atOther (regular id _ ⟨decl, atId, rfl⟩)
        (regular otherId _ ⟨otherDecl, atOther, rfl⟩) written otherWritten known code operands
      cases interned.types.unique ⟨noStruct, decl, atId, rfl⟩ ⟨noStruct, otherDecl, atOther, shape.symm⟩
      exact fresh otherMember

/-- In a module of a built library no type other than a struct is declared twice: before the first function,
and nowhere at all if no function lists such a declaration. -/
theorem emitType_typeForms_nodup {calls : List Call} {returned : List (Option NodeRef)} {b : Builder} {entry : TypeId}
    {binary : Binary} (built : calls.mapM Call.run {} = .ok (returned, b))
    (emitted : b.library.emitType entry = .ok binary) :
    ∃ header frames, readStream? binary.words = some (header, frames) ∧ (typeForms (moduleScope frames)).Nodup ∧
      (b.library.NoneInFunctions (.type entry) (·.declaresOnce = true) → (typeForms frames).Nodup) := by
  obtain ⟨past, w, interface, s, collecting, fits, words, _⟩ := exists_emission emitted
  have reaches := collecting.isReachablePart
  let n := numbering w.closure interface s.drafts
  have back : ∀ node ∈ s.declarations.flatten.flatMap Draft.mentions, n.node? (n.word node) = some node := by
    intro node mentioned
    obtain ⟨draft, inside, within⟩ := List.mem_flatMap.mp mentioned
    have listed := List.mem_flatMap.mpr ⟨draft, s.mem_drafts_of_declared inside, within⟩
    exact Numbering.node?_id fits (s.mem_numbering (List.mem_append_right _ listed))
  have ops : ∀ id, .op id ∈ w.closure.order → ∀ op, b.library.opAt id = .ok op → op.opcode.isType = false := by
    intro id ordered op atId
    obtain ⟨_, content, atId', declaration⟩ := (op_mem_order_iff reaches).mp ordered
    cases atId'.symm.trans atId
    rcases declaration with isConstant | ⟨isVariable, _⟩
    · exact Opcode.isType_of_isConstant isConstant
    · rw [isVariable]
      rfl
  have distinct := nodup_typeForms_declarations (.of_calls built) (.of_calls built) collecting.order_nodup ops
    s.declared back
  have atScope : (typeForms (s.moduleScope.map (Draft.frame n.word))).Nodup := by rwa [s.typeForms_moduleScope]
  refine ⟨_, _, words ▸ s.readStream?_emitWords reaches n, ?_, fun plain => ?_⟩
  · rwa [s.moduleScope_frames reaches]
  · rwa [Sections.drafts, List.map_append, typeForms_append, s.typeForms_functions reaches plain, List.append_nil]

/-- Requests for the types of a stage, some of them twice and some in a builder that was opened again. -/
def stageCalls : List Call := [
  .structType "Stage" [], .floatType 32, .vectorType ⟨1⟩ 4, .pointerType ⟨2⟩ StorageClass.priv,
  .globalVariable "color" ⟨3⟩ none, .reopen, .floatType 32, .vectorType ⟨1⟩ 4, .pointerType ⟨2⟩ StorageClass.priv,
  .globalVariable "shade" ⟨3⟩ none, .voidType, .functionType ⟨4⟩ [], .function (some ⟨0⟩) "main" ⟨5⟩, .appendBlock ⟨0⟩,
  .pushOp ⟨1⟩ .opLoad (some ⟨2⟩) [.op ⟨0⟩], .pushOp ⟨1⟩ .opStore none [.op ⟨1⟩, .op ⟨2⟩], .pushOp ⟨1⟩ .opReturn none []]

/-- What the module of an entry type declares once requests were carried out. -/
def typeFormsAfter (calls : List Call) (entry : TypeId) : Except Abort (Option (List (Nat × List UInt32))) := do
  let made ← calls.mapM Call.run {}
  match made.2.library.emitType entry with
  | .ok binary => return (readStream? binary.words).map fun read => typeForms read.2
  | .error _ => return none

theorem typeFormsAfter_eq_ok {calls : List Call} {entry : TypeId} {forms : List (Nat × List UInt32)}
    (found : typeFormsAfter calls entry = .ok (some forms)) : ∃ returned b binary header frames,
      calls.mapM Call.run {} = .ok (returned, b) ∧ b.library.emitType entry = .ok binary ∧
      readStream? binary.words = some (header, frames) ∧ typeForms frames = forms := by
  obtain ⟨⟨returned, b⟩, built, found⟩ := Outcome.bind_eq_ok_iff.mp found
  cases emitted : b.library.emitType entry with
  | error => simp [emitted, Outcome.pure_eq_ok_iff] at found
  | ok binary =>
    simp only [emitted, Outcome.pure_eq_ok_iff] at found
    obtain ⟨⟨header, frames⟩, read, same⟩ := Option.map_eq_some_iff.mp found
    exact ⟨returned, b, binary, header, frames, built, emitted, read, same⟩

theorem stageCalls_typeForms_nodup : ∃ returned b binary header frames,
    stageCalls.mapM Call.run {} = .ok (returned, b) ∧ b.library.emitType ⟨0⟩ = .ok binary ∧
      readStream? binary.words = some (header, frames) ∧
      typeForms frames = [(19, []), (33, [5]), (22, [32]), (23, [7, 4]), (32, [6, 8])] ∧
      (typeForms (moduleScope frames)).Nodup := by
  have run : typeFormsAfter stageCalls ⟨0⟩ =
      .ok (some [(19, []), (33, [5]), (22, [32]), (23, [7, 4]), (32, [6, 8])]) := by decide +kernel
  obtain ⟨returned, b, binary, header, frames, built, emitted, read, forms⟩ := typeFormsAfter_eq_ok run
  obtain ⟨header', frames', read', distinct, _⟩ := emitType_typeForms_nodup built emitted
  cases read.symm.trans read'
  exact ⟨returned, b, binary, header, frames, built, emitted, read, forms, distinct⟩

/-- Requests after which a function lists a declaration of the type that its next instruction has. -/
def listedTypeCalls : List Call := [
  .structType "S" [], .voidType, .functionType ⟨1⟩ [], .floatType 32, .function (some ⟨0⟩) "read" ⟨2⟩, .appendBlock ⟨0⟩,
  .op .opNop none [], .literal (.int 32), .pushOp ⟨1⟩ .opTypeFloat none [.op ⟨0⟩, .literal ⟨0⟩],
  .pushOp ⟨1⟩ .opFNegate (some ⟨3⟩) [.op ⟨0⟩]]

/-- The type stands in the module twice, as a type and as an instruction of the function. -/
theorem listedTypeCalls_declared_twice : ∃ returned b binary header frames,
    listedTypeCalls.mapM Call.run {} = .ok (returned, b) ∧ b.library.emitType ⟨0⟩ = .ok binary ∧
      readStream? binary.words = some (header, frames) ∧
      typeForms frames = [(19, []), (33, [3]), (22, [32]), (22, [32])] ∧ ¬(typeForms frames).Nodup := by
  have run : typeFormsAfter listedTypeCalls ⟨0⟩ = .ok (some [(19, []), (33, [3]), (22, [32]), (22, [32])]) := by
    decide +kernel
  obtain ⟨returned, b, binary, header, frames, built, emitted, read, forms⟩ := typeFormsAfter_eq_ok run
  refine ⟨returned, b, binary, header, frames, built, emitted, read, forms, ?_⟩
  rw [forms]
  decide

end Library

end ShaderGraph
