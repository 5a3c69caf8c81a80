import Mathlib.Data.Set.Card
import ShaderGraph.Proofs.Emission.Agreement

namespace ShaderGraph

open Spirv

/-- What the component of a type is to it, for the kinds that cannot do without one. -/
def TypeKind.componentRole? : TypeKind → Option String
  | .vector _ => some "component type"
  | .matrix _ => some "column type"
  | .array | .runtimeArray => some "element type"
  | .function => some "return type"
  | .image .. => some "sampled type"
  | .sampledImage => some "image type"
  | .void | .bool | .int .. | .float _ | .struct | .pointer _ | .sampler => none

/-- A type is without an operand that its kind needs. -/
inductive TypeShape.Lacks (shape : TypeShape) : String → Prop
  | component {role} : shape.kind.componentRole? = some role → shape.component = none → Lacks shape role
  | length : shape.kind = .array → shape.parameters = [] → Lacks shape "length"
  | pointee {storageClass} : shape.kind = .pointer storageClass → shape.dereference = none →
      Lacks shape "pointee type"

/-- The words that a piece of an instruction takes. A text is ended by a zero, and four of its bytes go into
a word. -/
def Piece.size : Piece → Nat
  | .node _ | .word _ => 1
  | .text value => value.utf8ByteSize / 4 + 1

/-- The words that an instruction takes, with the one for its opcode. -/
def Draft.size (d : Draft) : Nat := 1 + (d.pieces.map Piece.size).sum

theorem Draft.wordCount_eq_size (d : Draft) : d.wordCount = d.size := by
  have counted (pieces : List Piece) (start : Nat) :
      pieces.foldl (fun count piece => count + piece.wordCount) start = start + (pieces.map Piece.size).sum := by
    induction pieces generalizing start with
    | nil => rfl
    | cons piece rest ih =>
      have same : piece.wordCount = piece.size := by cases piece <;> rfl
      rw [List.foldl_cons, ih, List.map_cons, List.sum_cons, same, Nat.add_assoc]
  exact counted d.pieces 1

theorem Draft.mem_mentions_iff {d : Draft} {node : NodeRef} : node ∈ d.mentions ↔ .node node ∈ d.pieces := by
  simp only [mentions, List.mem_filterMap]
  constructor
  · rintro ⟨piece, member, mention⟩
    cases piece with
    | node target =>
      cases mention
      exact member
    | word => cases mention
    | text => cases mention
  · exact fun member => ⟨_, member, rfl⟩

namespace Library

/-- Nothing is missing of what a root leads to, and none of the literals that are named there. -/
structure PresentFrom (lib : Library) (root : NodeRef) : Prop where
  reached : ∀ node, lib.Reachable [root] node → lib.Holds node
  literals : ∀ node id, lib.Reachable [root] node → lib.HasOperand node (.literal id) → lib.Holds (.literal id)

/-- A type lacks an operand that its kind needs, or the result type while a function has it for its
signature. -/
inductive LacksOperand (lib : Library) (root : NodeRef) (id : TypeId) : String → Prop
  | own {decl operand} : lib.typeAt id = .ok decl → decl.shape.Lacks operand → LacksOperand lib root id operand
  | result {owner function decl} : lib.Reachable [root] (.function owner) → lib.functionAt owner = .ok function →
      function.functionType = id → lib.typeAt id = .ok decl → decl.shape.component = none →
      LacksOperand lib root id "return type"

/-- The instructions that a module consists of, whether or not they can be encoded. -/
def HasInstruction (lib : Library) (c : Closure) (draft : Draft) : Prop :=
  ∃ part ∈ lib.outline c, lib.Instructs (lib.interfaceOf c) part draft

/-- The nodes that need an id. -/
def Mentions (lib : Library) (c : Closure) (node : NodeRef) : Prop :=
  node ∈ c.imports.map .extImport ++ (lib.interfaceOf c).map .op ∨
    ∃ draft, lib.HasInstruction c draft ∧ .node node ∈ draft.pieces

/-- What is reachable from a root can be written down. -/
structure Encodable (lib : Library) (root : NodeRef) (c : Closure) : Prop where
  complete : ∀ id operand, lib.Reachable [root] (.type id) → ¬lib.LacksOperand root id operand
  short : ∀ draft, lib.HasInstruction c draft → draft.size ≤ 65535

/-- What an error says is so. -/
inductive Explains (lib : Library) (root : NodeRef) (c : Closure) : EmitError → Prop
  | missingOperand {id decl operand} : lib.Reachable [root] (.type id) → lib.typeAt id = .ok decl →
      lib.LacksOperand root id operand → Explains lib root c (.missingOperand decl.name operand)
  | instructionTooLong {draft} : lib.HasInstruction c draft → 65535 < draft.size →
      Explains lib root c (.instructionTooLong draft.opcode draft.size)

variable {lib : Library} {c : Closure} {interface : List OpId}

theorem need_eq_error_iff {decl : TypeDecl} {operand : Option TypeId} {what : String} {stop : Stop EmitError} :
    decl.need operand what = .error stop ↔ operand = none ∧ stop = .error (.missingOperand decl.name what) := by
  cases operand <;> simp [TypeDecl.need, Attempt.fail, eq_comm]

theorem exists_pieceOf {node : NodeRef} (held : ∀ id, node = .literal id → lib.Holds (.literal id)) :
    ∃ piece, lib.pieceOf node = .ok piece := by
  cases node with
  | literal id =>
    obtain ⟨value, atId⟩ : ∃ value, lib.literalAt id = .ok value := exists_follow_iff.mpr (held id rfl)
    simp only [pieceOf, atId]
    cases value with
    | int => exact ⟨_, rfl⟩
    | float => exact ⟨_, rfl⟩
    | text => exact ⟨_, rfl⟩
  | _ => exact ⟨_, rfl⟩

theorem exists_piecesOf {args : List NodeRef} (held : ∀ id, .literal id ∈ args → lib.Holds (.literal id)) :
    ∃ pieces, lib.piecesOf args = .ok pieces := by
  refine Outcome.exists_mapM_iff.mpr fun arg member => exists_pieceOf ?_
  rintro id rfl
  exact held id member

/-- The declaration of a type fails only for an operand that the type lacks. -/
theorem lacks_of_typeOperands {decl : TypeDecl} {stop : Stop EmitError}
    (held : ∀ id, .literal id ∈ decl.shape.parameters → lib.Holds (.literal id))
    (failed : lib.typeOperands decl = .error stop) :
    ∃ operand, stop = .error (.missingOperand decl.name operand) ∧ decl.shape.Lacks operand := by
  -- The literals are there, so that of the operands only types can be missing.
  obtain ⟨pieces, made⟩ := exists_piecesOf held
  unfold typeOperands at failed
  cases kind : decl.shape.kind with
  | void | bool | int | float | sampler =>
    simp only [kind] at failed
    cases failed
  | vector | matrix | runtimeArray | image | sampledImage =>
    simp only [kind] at failed
    obtain missing | ⟨_, _, ⟨⟩⟩ := Outcome.bind_eq_error_iff.mp failed
    obtain ⟨absent, rfl⟩ := need_eq_error_iff.mp missing
    exact ⟨_, rfl, .component (by rw [kind]; rfl) absent⟩
  | pointer =>
    simp only [kind] at failed
    obtain missing | ⟨_, _, ⟨⟩⟩ := Outcome.bind_eq_error_iff.mp failed
    obtain ⟨absent, rfl⟩ := need_eq_error_iff.mp missing
    exact ⟨_, rfl, .pointee kind absent⟩
  | struct =>
    simp only [kind, Outcome.lift_bind_of_ok made] at failed
    cases failed
  | function =>
    simp only [kind, Outcome.lift_bind_of_ok made] at failed
    obtain missing | ⟨_, _, ⟨⟩⟩ := Outcome.bind_eq_error_iff.mp failed
    obtain ⟨absent, rfl⟩ := need_eq_error_iff.mp missing
    exact ⟨_, rfl, .component (by rw [kind]; rfl) absent⟩
  | array =>
    simp only [kind] at failed
    obtain missing | ⟨_, _, failed⟩ := Outcome.bind_eq_error_iff.mp failed
    · obtain ⟨absent, rfl⟩ := need_eq_error_iff.mp missing
      exact ⟨_, rfl, .component (by rw [kind]; rfl) absent⟩
    · cases parameters : decl.shape.parameters with
      | nil =>
        simp only [parameters] at failed
        cases failed
        exact ⟨_, rfl, .length kind parameters⟩
      | cons length others =>
        obtain ⟨piece, known⟩ : ∃ piece, lib.pieceOf length = .ok piece := by
          refine exists_pieceOf ?_
          rintro id rfl
          exact held id (by simp [parameters])
        simp only [parameters, Outcome.lift_bind_of_ok known] at failed
        cases failed

theorem DeclaredAs.not_lacks {shape : TypeShape} {opcode : Opcode} {pieces : List Piece} {operand : String}
    (declared : lib.DeclaredAs shape opcode pieces) : ¬shape.Lacks operand := by
  rintro (⟨role, absent⟩ | ⟨kind, absent⟩ | ⟨kind, absent⟩)
  · cases declared <;> simp_all [TypeKind.componentRole?]
  · cases declared <;> simp_all
  · cases declared <;> simp_all

variable {root : NodeRef}

/-! What can go wrong with a part of a module. -/

theorem Explains.not_encodable {e : EmitError} (explains : lib.Explains root c e) : ¬lib.Encodable root c := by
  intro encodable
  cases explains with
  | missingOperand reachable _ lacks => exact encodable.complete _ _ reachable lacks
  | instructionTooLong inside long => exact absurd (encodable.short _ inside) (by omega)

theorem declaration_mem_outline (reaches : c.IsReachablePart lib [root]) {id : TypeId}
    (reachable : lib.Reachable [root] (.type id)) : .declaration (.type id) ∈ lib.outline c := by
  have ordered : .type id ∈ c.order := (reaches.order _).mpr (.inl ⟨id, (reaches.types id).mpr reachable, rfl⟩)
  simp [outline, ordered]

theorem functionHead_mem_outline (reaches : c.IsReachablePart lib [root]) {id : FunctionId}
    (reachable : lib.Reachable [root] (.function id)) : .functionHead id ∈ lib.outline c := by
  have listed := (reaches.functions id).mpr reachable
  simp only [outline, List.mem_append, List.mem_flatMap]
  exact .inr ⟨id, listed, by simp [functionParts]⟩

section Present

variable (found : lib.dependencies root = .ok c) (present : lib.PresentFrom root)

include present

theorem exists_reads {id : OpId} (reachable : lib.Reachable [root] (.op id)) : ∃ draft, lib.Reads id draft := by
  obtain ⟨op, atId⟩ : ∃ op, lib.opAt id = .ok op := exists_follow_iff.mpr (present.reached _ reachable)
  have held (literal : LiteralId) (member : .literal literal ∈ op.args) : lib.Holds (.literal literal) :=
    present.literals _ literal reachable (.argument atId member)
  obtain ⟨pieces, made⟩ := exists_piecesOf held
  cases typed : op.resultType with
  | none => exact ⟨_, .plain atId typed (piecesOf_eq_ok_iff.mp made)⟩
  | some type => exact ⟨_, .result atId typed (piecesOf_eq_ok_iff.mp made)⟩

theorem typeDraft_cases {id : TypeId} (reachable : lib.Reachable [root] (.type id)) :
    (∃ draft, lib.Instructs interface (.declaration (.type id)) draft) ∨
      ∃ e, lib.write interface (.declaration (.type id)) = .error (.error e) ∧ lib.Explains root c e := by
  obtain ⟨decl, atId⟩ : ∃ decl, lib.typeAt id = .ok decl := exists_follow_iff.mpr (present.reached _ reachable)
  have held (literal : LiteralId) (member : .literal literal ∈ decl.shape.parameters) : lib.Holds (.literal literal) :=
    present.literals _ literal reachable (.parameter atId member)
  cases operands : lib.typeOperands decl with
  | ok answer => exact .inl ⟨_, .type atId (declaredAs_of_typeOperands operands)⟩
  | error stop =>
    obtain ⟨operand, rfl, lacks⟩ := lacks_of_typeOperands held operands
    refine .inr ⟨_, ?_, .missingOperand reachable atId (.own atId lacks)⟩
    rw [write, typeDraft, Outcome.lift_bind_of_ok atId, operands]
    rfl

theorem functionHead_cases {owner : FunctionId} (reachable : lib.Reachable [root] (.function owner)) :
    (∃ draft, lib.Instructs interface (.functionHead owner) draft) ∨
      ∃ e, lib.write interface (.functionHead owner) = .error (.error e) ∧ lib.Explains root c e := by
  obtain ⟨function, atOwner⟩ : ∃ function, lib.functionAt owner = .ok function :=
    exists_follow_iff.mpr (present.reached _ reachable)
  have signature : lib.Reachable [root] (.type function.functionType) := reachable.link (.signature atOwner)
  obtain ⟨decl, atId⟩ : ∃ decl, lib.typeAt function.functionType = .ok decl :=
    exists_follow_iff.mpr (present.reached _ signature)
  cases component : decl.shape.component with
  | some result => exact .inl ⟨_, .functionHead atOwner atId component⟩
  | none =>
    refine .inr ⟨_, ?_, .missingOperand signature atId (.result reachable atOwner rfl atId component)⟩
    rw [write, Outcome.lift_bind_of_ok atOwner, Outcome.lift_bind_of_ok atId, component]
    rfl

include found

/-- There is an instruction for each part of a module, unless it needs an operand that a type lacks. -/
theorem part_cases {part : ModulePart} (member : part ∈ lib.outline c) :
    (∃ draft, lib.Instructs interface part draft) ∨
      ∃ e, lib.write interface part = .error (.error e) ∧ lib.Explains root c e := by
  have reaches := isReachablePart_of_dependencies found
  have belongs := belongsTo_of_mem_outline member
  cases part with
  | capability | memoryModel | entryPoint | executionMode | name | decoration | label | functionEnd =>
    exact .inl ⟨_, by constructor⟩
  | extImport id =>
    obtain ⟨item, atId⟩ : ∃ item, lib.importAt id = .ok item :=
      exists_follow_iff.mpr (present.reached _ ((reaches.imports id).mp belongs))
    exact .inl ⟨_, .extImport atId⟩
  | declaration node =>
    have reachable := reachable_of_mem_order reaches belongs
    rcases (order_cases found belongs).2 with ⟨id, rfl⟩ | ⟨id, rfl⟩
    · exact typeDraft_cases present reachable
    · obtain ⟨draft, reads⟩ := exists_reads present reachable
      exact .inl ⟨draft, .op reads⟩
  | functionHead id => exact functionHead_cases present ((reaches.functions id).mp belongs)
  | line id =>
    obtain ⟨function, listed, inside⟩ := List.mem_flatMap.mp belongs
    obtain ⟨draft, reads⟩ := exists_reads present (((reaches.functions function).mp listed).of_functionOps inside)
    exact .inl ⟨draft, .line reads⟩

/-- What stops the writing of a part is an error that is so. -/
theorem explains_of_write {part : ModulePart} {stop : Stop EmitError} (member : part ∈ lib.outline c)
    (failed : lib.write (lib.interfaceOf c) part = .error stop) : ∃ e, stop = .error e ∧ lib.Explains root c e := by
  rcases part_cases found present member with ⟨draft, instructs⟩ | ⟨e, written, explains⟩
  · rw [write_eq_checked instructs, checked_eq_error_iff, Draft.wordCount_eq_size] at failed
    obtain ⟨rfl, long⟩ := failed
    exact ⟨_, rfl, .instructionTooLong ⟨part, member, instructs⟩ long⟩
  · cases written.symm.trans failed
    exact ⟨e, rfl, explains⟩

/-- A module can be written part by part exactly if it can be encoded. -/
theorem exists_written_iff : (∃ drafts, (lib.outline c).mapM (lib.write (lib.interfaceOf c)) = .ok drafts) ↔
    lib.Encodable root c := by
  have reaches := isReachablePart_of_dependencies found
  rw [Outcome.exists_mapM_iff]
  constructor
  · intro each
    refine ⟨fun id operand reachable lacks => ?_, fun draft ⟨part, member, made⟩ => ?_⟩
    · -- The part that would have named the operand was written.
      cases lacks with
      | own atId lacks =>
        obtain ⟨draft, written⟩ := each _ (declaration_mem_outline reaches reachable)
        cases instructs_of_write written with
        | type at' declared =>
          cases atId.symm.trans at'
          exact declared.not_lacks lacks
      | result owned atOwner same atId absent =>
        subst same
        obtain ⟨draft, written⟩ := each _ (functionHead_mem_outline reaches owned)
        cases instructs_of_write written with
        | functionHead atOwner' atId' known =>
          cases atOwner.symm.trans atOwner'
          cases atId.symm.trans atId'
          cases absent.symm.trans known
    · obtain ⟨other, written⟩ := each part member
      rw [write_eq_checked made, checked_eq_ok_iff, Draft.wordCount_eq_size] at written
      exact written.2
  · intro encodable part member
    cases written : lib.write (lib.interfaceOf c) part with
    | ok draft => exact ⟨draft, rfl⟩
    | error stop =>
      obtain ⟨e, _, explains⟩ := explains_of_write found present member written
      exact absurd encodable explains.not_encodable

omit present in
theorem exists_pointeeName {pointer : TypeId} (reachable : lib.Reachable [root] (.type pointer)) :
    ∃ name, lib.pointeeName pointer = .ok name := by
  obtain ⟨decl, atPointer⟩ : ∃ decl, lib.typeAt pointer = .ok decl :=
    exists_follow_iff.mpr (holds_of_dependencies found reachable rfl)
  cases target : decl.shape.dereference with
  | none => exact ⟨"", Outcome.bind_eq_ok_iff.mpr ⟨decl, atPointer, by rw [target]; rfl⟩⟩
  | some pointee =>
    have next := reachable.link (.needs (.dereference atPointer target))
    obtain ⟨inner, atTarget⟩ : ∃ inner, lib.typeAt pointee = .ok inner :=
      exists_follow_iff.mpr (holds_of_dependencies found next rfl)
    refine ⟨inner.name, Outcome.bind_eq_ok_iff.mpr ⟨decl, atPointer, ?_⟩⟩
    rw [target]
    exact Outcome.bind_eq_ok_iff.mpr ⟨inner, atTarget, rfl⟩

omit present in
theorem exists_reflectGlobal {id : OpId} (listed : id ∈ c.globals) : ∃ answer, lib.reflectGlobal id = .ok answer := by
  have reaches := isReachablePart_of_dependencies found
  have reachable := ((reaches.globals id).mp listed).1
  obtain ⟨op, storageClass, atId, stored⟩ := exists_storageClass reaches listed
  have named : lib.displayName (.op id) = .ok (op.debugName.getD (op.opcode.name ++ "#" ++ toString id.index)) := by
    rw [displayName, atId]
    rfl
  cases result : op.resultType with
  | none => simp [reflectGlobal, atId, stored, named, result, bind, Except.bind, pure, Except.pure]
  | some pointer =>
    obtain ⟨name, known⟩ := exists_pointeeName found (reachable.link (.needs (.resultType atId result)))
    simp [reflectGlobal, atId, stored, named, result, known, bind, Except.bind, pure, Except.pure]

theorem exists_reflect (bound : UInt32) : ∃ reflection, lib.reflect c bound = .ok reflection := by
  have reaches := isReachablePart_of_dependencies found
  have functionAt {id : FunctionId} (reachable : lib.Reachable [root] (.function id)) :
      ∃ function, lib.functionAt id = .ok function := exists_follow_iff.mpr (present.reached _ reachable)
  obtain ⟨imports, imported⟩ : ∃ names, (c.imports.mapM fun id => return (← lib.importAt id).name) = .ok names := by
    refine Outcome.exists_mapM_iff.mpr fun id listed => ?_
    obtain ⟨item, atId⟩ : ∃ item, lib.importAt id = .ok item :=
      exists_follow_iff.mpr (present.reached _ ((reaches.imports id).mp listed))
    exact ⟨item.name, Outcome.bind_eq_ok_iff.mpr ⟨item, atId, rfl⟩⟩
  obtain ⟨initializers, started⟩ :
      ∃ names, (c.initializers.mapM fun id => return (← lib.functionAt id).name) = .ok names := by
    refine Outcome.exists_mapM_iff.mpr fun id listed => ?_
    obtain ⟨op, content, reachable, atOp, declares, recorded⟩ := (reaches.initializers id).mp listed
    obtain ⟨function, atId⟩ := functionAt (reachable.link (.initializer atOp declares recorded))
    exact ⟨function.name, Outcome.bind_eq_ok_iff.mpr ⟨function, atId, rfl⟩⟩
  obtain ⟨entryPoints, entered⟩ : ∃ points, c.functions.filterMapM lib.reflectEntryPoint = .ok points := by
    rw [Outcome.filterMapM_eq_flatten]
    obtain ⟨parts, made⟩ :
        ∃ parts, (c.functions.mapM fun id => Option.toList <$> lib.reflectEntryPoint id) = .ok parts := by
      refine Outcome.exists_mapM_iff.mpr fun id listed => ?_
      obtain ⟨function, atId⟩ := functionAt ((reaches.functions id).mp listed)
      have known : lib.reflectEntryPoint id = .ok _ := Outcome.bind_eq_ok_iff.mpr ⟨function, atId, rfl⟩
      exact ⟨_, Outcome.map_eq_ok_iff.mpr ⟨_, known, rfl⟩⟩
    exact ⟨_, Outcome.map_eq_ok_iff.mpr ⟨parts, made, rfl⟩⟩
  obtain ⟨globals, described⟩ : ∃ globals, c.globals.mapM lib.reflectGlobal = .ok globals :=
    Outcome.exists_mapM_iff.mpr fun id listed => exists_reflectGlobal found listed
  exact ⟨_, Outcome.bind_eq_ok_iff.mpr ⟨imports, imported, Outcome.bind_eq_ok_iff.mpr ⟨initializers, started,
    Outcome.bind_eq_ok_iff.mpr ⟨entryPoints, entered, Outcome.bind_eq_ok_iff.mpr ⟨globals, described, rfl⟩⟩⟩⟩⟩

end Present

theorem mem_numbering_iff {drafts : List Draft}
    (written : (lib.outline c).mapM (lib.write (lib.interfaceOf c)) = .ok drafts) {node : NodeRef} :
    node ∈ (numbering c (lib.interfaceOf c) drafts).nodes ↔ lib.Mentions c node := by
  have listed (draft : Draft) : draft ∈ drafts ↔ lib.HasInstruction c draft := by
    constructor
    · intro member
      obtain ⟨part, inside, made⟩ := Outcome.exists_of_mapM written member
      exact ⟨part, inside, (write_eq_ok_iff.mp made).1⟩
    · rintro ⟨part, inside, made⟩
      obtain ⟨other, member, again⟩ := Outcome.exists_result_of_mapM written inside
      rw [write_eq_checked made, checked_eq_ok_iff] at again
      exact again.1 ▸ member
  simp only [Mentions, numbering, Numbering.mem_ofMentions, List.mem_append, List.mem_flatMap, listed,
    Draft.mem_mentions_iff]

/-- There is one id for each node that is mentioned. -/
theorem bound_numbering {drafts : List Draft}
    (written : (lib.outline c).mapM (lib.write (lib.interfaceOf c)) = .ok drafts) :
    (numbering c (lib.interfaceOf c) drafts).bound = {node | lib.Mentions c node}.ncard + 1 := by
  have same : {node | lib.Mentions c node} =
      ((numbering c (lib.interfaceOf c) drafts).nodes.toFinset : Set NodeRef) := by
    ext node
    simp only [Set.mem_ofPred_eq, List.coe_toFinset, mem_numbering_iff written]
  have once : (numbering c (lib.interfaceOf c) drafts).nodes.Nodup := Numbering.nodup_ofMentions _
  rw [same, Set.ncard_coe_finset, List.toFinset_card_of_nodup once, Numbering.bound]

theorem PresentFrom.exists_dependencies (present : lib.PresentFrom root) : ∃ c, lib.dependencies root = .ok c := by
  refine Library.exists_dependencies (present.reached root (.root (List.mem_singleton_self root))) ?_
  intro node missing reachable dangles
  cases dangles with
  | node _ absent => exact absent (present.reached node reachable)
  | storageClass atId _ args absent =>
    exact absent (present.literals _ _ reachable (.argument atId (by simp [args])))

/-- Where nothing is missing, a module is emitted exactly if every type has the operands that are needed
of it, no instruction is too long, and there are enough ids. Otherwise there is an error that tells a type
and an operand that it lacks, or an instruction of the module that is too long, or the ids are used up. -/
theorem emitType_fails_exactly {entry : TypeId} (present : lib.PresentFrom (.type entry)) :
    ∃ c, lib.dependencies (.type entry) = .ok c ∧
      ((∃ binary, lib.emitType entry = .ok binary) ↔
        lib.Encodable (.type entry) c ∧ {node | lib.Mentions c node}.ncard + 1 < 2 ^ 32) ∧
      ((∃ e, lib.emitType entry = .error (.error e)) ↔ ¬lib.Encodable (.type entry) c) ∧
      (∀ e, lib.emitType entry = .error (.error e) → lib.Explains (.type entry) c e) ∧
      ∀ cause, lib.emitType entry = .error (.abort cause) →
        cause = .idsExhausted ∧ 2 ^ 32 ≤ {node | lib.Mentions c node}.ncard + 1 := by
  obtain ⟨c, found⟩ := present.exists_dependencies
  refine ⟨c, found, ?_⟩
  have equation := emitType_eq_write found
  cases written : (lib.outline c).mapM (lib.write (lib.interfaceOf c)) with
  | error stop =>
    obtain ⟨part, member, failed⟩ := Outcome.exists_of_mapM_eq_error written
    obtain ⟨e, rfl, explains⟩ := explains_of_write found present member failed
    have outcome : lib.emitType entry = .error (.error e) := by
      rw [equation, written]
      rfl
    simp [outcome, explains.not_encodable, explains]
  | ok drafts =>
    have encodable := (exists_written_iff found present).mp ⟨drafts, written⟩
    obtain ⟨reflection, reflected⟩ :=
      exists_reflect found present (.ofNat (numbering c (lib.interfaceOf c) drafts).bound)
    have size := bound_numbering written
    by_cases fits : {node | lib.Mentions c node}.ncard + 1 < 2 ^ 32
    · have checked := Numbering.checked_eq_ok_iff.mpr ⟨size ▸ fits, rfl⟩
      have outcome : lib.emitType entry =
          .ok ⟨emitWords (numbering c (lib.interfaceOf c) drafts) drafts, reflection⟩ := by
        rw [equation, written]
        exact (Outcome.lift_bind_of_ok checked _).trans (Outcome.lift_bind_of_ok reflected _)
      simpa [outcome, encodable] using fits
    · have exhausted : (numbering c (lib.interfaceOf c) drafts).checked = .error .idsExhausted :=
        if_neg (by rwa [size])
      have outcome : lib.emitType entry = .error (.abort .idsExhausted) := by
        rw [equation, written]
        exact Outcome.lift_bind_of_error exhausted _
      simpa [outcome, encodable] using Nat.le_of_not_lt fits

theorem Whole.presentFrom (whole : lib.Whole) (held : lib.Holds root) : lib.PresentFrom root where
  reached _ reachable := whole.holds_of_reachable held reachable
  literals _ _ _ operand := whole.holds_of_hasOperand operand

/-- A struct with an array of which the length is not given. -/
def endless : Library where
  types := #[
    { name := "S", shape := { kind := .struct, parameters := [.type ⟨1⟩] } },
    { name := "cells", shape := { kind := .array, component := some ⟨2⟩ } },
    { name := "f32", shape := { kind := .float 32 } }]

theorem endless_whole : endless.Whole where
  types := by decide
  functions := by decide
  blocks := by decide
  ops := by decide
  initializers _ _ known := by cases known

/-- A struct of which the name is all that there is to it. -/
def named (name : String) : Library where
  types := #[{ name, shape := { kind := .struct } }]

def namedClosure : Closure := { types := [⟨0⟩], order := [.type ⟨0⟩] }

theorem named_dependencies (name : String) : (named name).dependencies (.type ⟨0⟩) = .ok namedClosure := by
  with_unfolding_all rfl

theorem named_outline (name : String) : (named name).outline namedClosure =
    [.capability .shader, .memoryModel, .name (.type ⟨0⟩) name, .declaration (.type ⟨0⟩)] := rfl

theorem named_typeAt {name : String} {id : TypeId} {decl : TypeDecl} (atId : (named name).typeAt id = .ok decl) :
    decl = { name, shape := { kind := .struct } } := by
  obtain ⟨index⟩ := id
  match index, atId with
  | 0, atId => cases atId; rfl
  | _ + 1, atId => cases atId

theorem named_presentFrom (name : String) : (named name).PresentFrom (.type ⟨0⟩) := by
  have whole : (named name).Whole := by
    refine ⟨?_, ?_, ?_, ?_, fun _ _ known => by cases known⟩ <;> simp [named, TypeDecl.refs, TypeShape.refs]
  exact whole.presentFrom (by simp [Holds, named])

/-- The longest of the instructions for a struct is the one that names it, and all of them name nothing else. -/
theorem named_hasInstruction {name : String} {draft : Draft} (inside : (named name).HasInstruction namedClosure draft) :
    (draft = ⟨.opName, [.node (.type ⟨0⟩), .text name]⟩ ∨ draft.size ≤ 3) ∧
      ∀ node, .node node ∈ draft.pieces → node = .type ⟨0⟩ := by
  obtain ⟨part, member, instructs⟩ := inside
  rw [named_outline] at member
  simp only [List.mem_cons, List.not_mem_nil, or_false] at member
  rcases member with rfl | rfl | rfl | rfl
  · cases instructs
    exact ⟨.inr (by decide), by simp⟩
  · cases instructs
    exact ⟨.inr (by decide), by simp⟩
  · cases instructs
    exact ⟨.inl rfl, by simp⟩
  · cases instructs with
    | type atId declared =>
      cases named_typeAt atId
      cases declared with
      | struct _ made =>
        cases made
        exact ⟨.inr (by decide), by simp⟩
      | _ kind => cases kind

theorem named_complete (name : String) (id : TypeId) (operand : String) :
    ¬(named name).LacksOperand (.type ⟨0⟩) id operand := by
  intro lacks
  cases lacks with
  | own atId lacks =>
    cases named_typeAt atId
    cases lacks with
    | component role => cases role
    | length kind => cases kind
    | pointee kind => cases kind
  | result _ atOwner => cases atOwner

theorem named_size (name : String) :
    Draft.size ⟨.opName, [.node (.type ⟨0⟩), .text name]⟩ = name.utf8ByteSize / 4 + 3 := by
  simp only [Draft.size, Piece.size, List.map_cons, List.map_nil, List.sum_cons, List.sum_nil]
  omega

theorem named_encodable_iff {name : String} :
    (named name).Encodable (.type ⟨0⟩) namedClosure ↔ name.utf8ByteSize < 262132 := by
  constructor
  · intro encodable
    have fits := encodable.short ⟨.opName, [.node (.type ⟨0⟩), .text name]⟩
      ⟨.name (.type ⟨0⟩) name, by simp [named_outline], .name⟩
    rw [named_size] at fits
    omega
  · refine fun short => ⟨fun id operand _ => named_complete name id operand, fun draft inside => ?_⟩
    rcases (named_hasInstruction inside).1 with rfl | small
    · rw [named_size]
      omega
    · omega

theorem named_explained {name : String} {e : EmitError} (explains : (named name).Explains (.type ⟨0⟩) namedClosure e) :
    e = .instructionTooLong .opName (name.utf8ByteSize / 4 + 3) := by
  cases explains with
  | missingOperand _ _ lacks => exact absurd lacks (named_complete name _ _)
  | instructionTooLong inside long =>
    rcases (named_hasInstruction inside).1 with rfl | small
    · rw [named_size]
    · omega

theorem named_ncard (name : String) : {node | (named name).Mentions namedClosure node}.ncard ≤ 1 := by
  have few : {node | (named name).Mentions namedClosure node} ⊆ {.type ⟨0⟩} := by
    rintro node (early | ⟨draft, inside, mention⟩)
    · simp [interfaceOf, namedClosure] at early
    · exact (named_hasInstruction inside).2 node mention
  rw [← Set.ncard_singleton (NodeRef.type ⟨0⟩)]
  exact Set.ncard_le_ncard few (Set.finite_singleton _)

theorem exists_name (size : Nat) : ∃ name : String, name.utf8ByteSize = size := by
  induction size with
  | zero => exact ⟨"", rfl⟩
  | succ size ih =>
    obtain ⟨name, rfl⟩ := ih
    exact ⟨name.push 'x', String.utf8ByteSize_push⟩

/-- Between what can be encoded and what cannot there may be one byte: with it, the instruction that names a struct
takes one word more than it can hold. -/
theorem encodable_up_to_limit :
    (ring.PresentFrom (.type ⟨0⟩) ∧ ∃ c, ring.dependencies (.type ⟨0⟩) = .ok c ∧ ring.Encodable (.type ⟨0⟩) c) ∧
      (endless.PresentFrom (.type ⟨0⟩) ∧ ∃ c, endless.dependencies (.type ⟨0⟩) = .ok c ∧
        ¬endless.Encodable (.type ⟨0⟩) c ∧ endless.Explains (.type ⟨0⟩) c (.missingOperand "cells" "length")) ∧
      (∃ name binary, name.utf8ByteSize = 262131 ∧ (named name).PresentFrom (.type ⟨0⟩) ∧
        (named name).emitType ⟨0⟩ = .ok binary) ∧
      ∃ name, name.utf8ByteSize = 262132 ∧ (named name).PresentFrom (.type ⟨0⟩) ∧
        (named name).emitType ⟨0⟩ = .error (.error (.instructionTooLong .opName 65536)) := by
  have ringPresent : ring.PresentFrom (.type ⟨0⟩) := ring_whole.presentFrom (by decide)
  have endlessPresent : endless.PresentFrom (.type ⟨0⟩) := endless_whole.presentFrom (by decide)
  refine ⟨⟨ringPresent, ?_⟩, ⟨endlessPresent, ?_⟩, ?_, ?_⟩
  · have bound : (fun binary => binary.reflection.idBound) <$> ring.emitType ⟨0⟩ = .ok 9 := by decide +kernel
    obtain ⟨binary, emitted, _⟩ := Outcome.map_eq_ok_iff.mp bound
    obtain ⟨c, found, accepted, _⟩ := emitType_fails_exactly ringPresent
    exact ⟨c, found, (accepted.mp ⟨binary, emitted⟩).1⟩
  · have failed : endless.emitType ⟨0⟩ = .error (.error (.missingOperand "cells" "length")) := by decide +kernel
    obtain ⟨c, found, _, refused, explained, _⟩ := emitType_fails_exactly endlessPresent
    exact ⟨c, found, refused.mp ⟨_, failed⟩, explained _ failed⟩
  · obtain ⟨name, bytes⟩ := exists_name 262131
    obtain ⟨c, found, accepted, _⟩ := emitType_fails_exactly (named_presentFrom name)
    cases found.symm.trans (named_dependencies name)
    have few := named_ncard name
    obtain ⟨binary, emitted⟩ := accepted.mpr ⟨named_encodable_iff.mpr (by omega), by omega⟩
    exact ⟨name, binary, bytes, named_presentFrom name, emitted⟩
  · obtain ⟨name, bytes⟩ := exists_name 262132
    obtain ⟨c, found, _, refused, explained, _⟩ := emitType_fails_exactly (named_presentFrom name)
    cases found.symm.trans (named_dependencies name)
    have long : ¬(named name).Encodable (.type ⟨0⟩) namedClosure := by
      rw [named_encodable_iff]
      omega
    obtain ⟨e, failed⟩ := refused.mpr long
    refine ⟨name, bytes, named_presentFrom name, failed.trans ?_⟩
    rw [named_explained (explained e failed), bytes]

end Library

end ShaderGraph
