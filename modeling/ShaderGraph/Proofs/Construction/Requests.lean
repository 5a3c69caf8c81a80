import ShaderGraph.Library.Call
import ShaderGraph.Proofs.Construction.Change
import ShaderGraph.Proofs.Construction.Interning
import ShaderGraph.Proofs.PairedOutcome

namespace ShaderGraph

open Spirv

/-- The nodes a request is about. -/
def Call.uses : Call → List NodeRef
  | .voidType | .boolType | .samplerType | .intType .. | .floatType .. | .literal .. | .extensionImport ..
  | .reopen => []
  | .vectorType type _ | .matrixType type _ | .runtimeArrayType type | .imageType type _
  | .sampledImageType type | .pointerType type _ | .constant type _ | .specConstant type _ => [.type type]
  | .arrayType element length => [.type element, .op length]
  | .structType _ members => members.map .type
  | .functionType result params => .type result :: params.map .type
  | .op _ resultType args => resultType.toList.map .type ++ args
  | .constantComposite type parts => .type type :: parts.map .op
  | .globalVariable _ type initializer => .type type :: initializer.toList.map .function
  | .decorate target .. | .setDebugName target _ => [.op target]
  | .function owner _ type => owner.toList.map .type ++ [.type type]
  | .setExecutionModel target _ | .appendBlock target => [.function target]
  | .functionParameter target type => [.function target, .type type]
  | .pushOp block _ resultType args => .block block :: (resultType.toList.map .type ++ args)
  | .localVariable block type => [.block block, .type type]

theorem Build.bind_eq_ok_iff {α β : Type} {x : Build α} {f : α → Build β} {b b' : Builder} {result : β} :
    (x >>= f) b = .ok (result, b') ↔
      ∃ value between, x b = .ok (value, between) ∧ f value between = .ok (result, b') := by
  refine Outcome.bind_eq_ok_iff.trans ?_
  simp [Prod.exists]

theorem Build.bind_apply {α β : Type} (x : Build α) (f : α → Build β) (b : Builder) :
    (x >>= f) b = (x b >>= fun s => f s.1 s.2) := rfl

namespace Builder

/-- What two builders of one library come to in a step: the same answer, and again one library, which came about
by changes and has what the step is to give. -/
structure Reaches {α : Type} (uses : List NodeRef) (lib : Library) (Gives : α → Library → Prop)
    (s s' : α × Builder) : Prop where
  answer : s.1 = s'.1
  twin : s.2.Twin s'.2
  changes : lib.Changes uses s.2.library
  gives : Gives s.1 s.2.library

/-- What a step does, in two builders of one library. It is given up in both of them or in none, so that neither
the answer nor the library depends on how the tables came about. -/
def Does {α : Type} (uses : List NodeRef) (x : Build α) (b b' : Builder) (Gives : α → Library → Prop) : Prop :=
  Outcome.Agree (Reaches uses b.library Gives) (fun _ => False) (fun _ => False) (x b) (x b')

variable {α β : Type} {uses : List NodeRef} {b b' : Builder}

section Rules

variable {P : α → Library → Prop} {Q : β → Library → Prop}

theorem Does.bind {x : Build α} {f : α → Build β} (first : Does uses x b b' P)
    (second : ∀ value c c', c.Twin c' → P value c.library → Does uses (f value) c c' Q) :
    Does uses (x >>= f) b b' Q := by
  refine Outcome.Agree.bind first ?_
  rintro ⟨value, c⟩ ⟨value', c'⟩ _ _ ⟨same, twin, changes, gives⟩
  cases same
  refine (second value c c' twin gives).mono (fun s s' _ _ later => ?_) (fun _ => id) (fun _ => id)
  exact ⟨later.answer, later.twin, changes.trans later.changes, later.gives⟩

theorem Does.pure (twin : b.Twin b') {value : α} (gives : P value b.library) : Does uses (pure value) b b' P :=
  .ends ⟨rfl, twin, .refl, gives⟩

theorem Does.giving {x : Build α} {value : β} (does : Does uses x b b' fun _ => Q value) :
    Does uses (do let _ ← x; return value) b b' Q :=
  does.bind fun _ _ _ twin gives => .pure twin gives

theorem Does.mapM {f : α → Build β} (twin : b.Twin b')
    (each : ∀ x c c', c.Twin c' → Does uses (f x) c c' fun _ _ => True) (xs : List α) :
    Does uses (xs.mapM f) b b' fun _ _ => True := by
  induction xs generalizing b b' with
  | nil =>
    rw [List.mapM_nil]
    exact .pure twin trivial
  | cons x rest ih =>
    rw [List.mapM_cons]
    exact (each x b b' twin).bind fun _ _ _ twin _ => (ih twin).bind fun _ _ _ twin _ => .pure twin trivial

/-- The node that a request is answered with is there. -/
theorem Does.returns {x : Build α} {node : α → NodeRef}
    (does : Does uses x b b' fun id lib => lib.Holds (node id)) :
    Does uses ((some <| node ·) <$> x) b b' fun returned lib => ∀ node ∈ returned, lib.Holds node := by
  rw [map_eq_pure_bind]
  exact does.bind fun id _ _ twin held => .pure twin (by simpa using held)

theorem Does.silent {x : Build α} (does : Does uses x b b' P) :
    Does uses ((fun _ => none) <$> x) b b' fun returned lib => ∀ node ∈ returned, lib.Holds node := by
  rw [map_eq_pure_bind]
  exact does.bind fun _ _ _ twin _ => .pure twin (by simp)

/-- Looking up a node of the library. -/
theorem Does.read {f : Library → Except Abort α} {rest : α → Build β} (twin : b.Twin b')
    (later : ∀ value, Does uses (rest value) b b' Q) : Does uses (do rest (← f (← get).library)) b b' Q := by
  have form (b : Builder) : (do rest (← f (← get).library) : Build β) b = (f b.library >>= (rest · b)) := by
    have opened : (do rest (← f (← get).library) : Build β) b = ((liftM (f b.library) : Build α) >>= rest) b := rfl
    rw [opened]
    cases f b.library <;> rfl
  rw [Does, form b, form b', ← twin.library]
  refine (Outcome.Agree.refl _).bind fun value _ _ _ same => ?_
  cases same
  exact later value

theorem Twin.update (twin : b.Twin b') (f : Library → Library) (same : b.library.SharesWith (f b.library)) :
    Twin { b with library := f b.library } { b' with library := f b'.library } where
  first := twin.first.of_sharesWith same
  second := twin.second.of_sharesWith (twin.library ▸ same)
  library := congrArg f twin.library

/-- Steps that always succeed, and change nothing that is shared. -/
theorem Does.update {x : Build α} (twin : b.Twin b') (f : Library → α × Library)
    (form : ∀ b : Builder, x b = .ok ((f b.library).1, { b with library := (f b.library).2 }))
    (same : b.library.SharesWith (f b.library).2) (change : b.library.Change uses (f b.library).2)
    (gives : P (f b.library).1 (f b.library).2) : Does uses x b b' P := by
  rw [Does, form b, form b']
  exact .ends ⟨by rw [twin.library], twin.update (fun lib => (f lib).2) same, .single change, gives⟩

theorem edit_eq (f : Library → Except Abort Library) (b : Builder) :
    edit f b = (fun lib => ((), { b with library := lib })) <$> f b.library := by
  have opened : edit f b = ((liftM (f b.library) : Build Library) >>= fun lib => set { b with library := lib }) b :=
    rfl
  rw [opened]
  cases f b.library <;> rfl

/-- Steps that change a node in place, but nothing that is shared. -/
theorem Does.revise {P : Library → Prop} (twin : b.Twin b') (nodes : Library → Array α)
    (update : Library → Array α → Library) {index : Nat} {node : NodeRef} {f : α → α}
    (same : b.library.SharesWith (update b.library ((nodes b.library).modify index f)))
    (change : b.library.Change uses (update b.library ((nodes b.library).modify index f)))
    (gives : P (update b.library ((nodes b.library).modify index f))) :
    Does uses (edit fun lib => do return update lib (← Library.revise (nodes lib) index node f)) b b' fun _ => P := by
  rw [Does, edit_eq, edit_eq, ← twin.library, Library.revise]
  split
  · refine .ends ⟨rfl, ?_, .single change, gives⟩
    have updated := twin.update (fun lib => update lib ((nodes lib).modify index f)) same
    rwa [← twin.library] at updated
  · exact .fails _

end Rules

/-! What is shared. -/

theorem Twin.withType (twin : b.Twin b') {shape : TypeShape} (noStruct : shape.kind ≠ .struct)
    (missing : b.internedTypes.find? shape = none) (name : String) :
    (b.withType name shape).Twin (b'.withType name shape) where
  first := twin.first.withType noStruct missing name
  second := twin.second.withType noStruct (twin.find?_type shape ▸ missing) name
  library := by simp only [Builder.withType, twin.library]

theorem Twin.withImport (twin : b.Twin b') {name : String} (missing : b.importsByName.find? name = none) :
    (b.withImport name).Twin (b'.withImport name) where
  first := twin.first.withImport missing
  second := twin.second.withImport (twin.find?_import name ▸ missing)
  library := by simp only [Builder.withImport, twin.library]

theorem typeName_eq (b : Builder) (id : TypeId) :
    typeName id b = (fun decl => (decl.name, b)) <$> b.library.typeAt id := by
  have opened : typeName id b =
      (do return (← (liftM (b.library.typeAt id) : Build TypeDecl)).name : Build String) b := rfl
  rw [opened]
  cases b.library.typeAt id <;> rfl

theorem does_typeName (twin : b.Twin b') (id : TypeId) : Does uses (typeName id) b b' fun _ _ => True :=
  .read (f := (·.typeAt id)) twin fun _ => .pure twin trivial

theorem does_internType (twin : b.Twin b') (name : String) {shape : TypeShape} (noStruct : shape.kind ≠ .struct)
    (regular : shape.Regular) (noPointer : shape.target? = none) (refs : ∀ ref ∈ shape.refs, ref ∈ uses) :
    Does uses (internType name shape) b b' fun id lib => lib.Holds (.type id) := by
  rw [Does, internType_eq, internType_eq, ← twin.find?_type shape]
  cases found : b.internedTypes.find? shape with
  | some id => exact .ends ⟨rfl, twin, .refl, ((twin.first.types shape id).mp found).2.holds⟩
  | none =>
    refine .ends ⟨by rw [twin.library], twin.withType noStruct found name, ?_, ?_⟩
    · exact .single (.type name regular noPointer refs)
    · simp [Library.Holds, Builder.withType]

/-- Asking for a pointer needs the name of its target. The pointer is found or made, and noted. -/
theorem pointerType_eq (b : Builder) (target : TypeId) (storageClass : StorageClass) :
    pointerType target storageClass b = do
      let decl ← b.library.typeAt target
      match b.internedTypes.find? { kind := .pointer storageClass, dereference := some target } with
      | some id => return (id, { b with library := b.library.notePointer target id })
      | none =>
        let made := b.withType ("ptr<" ++ storageClass.name ++ ", " ++ decl.name ++ ">")
          { kind := .pointer storageClass, dereference := some target }
        return (⟨b.library.types.size⟩,
          { made with library := made.library.notePointer target ⟨b.library.types.size⟩ }) := by
  have noted {c : Builder} (held : target.index < c.library.types.size) (id : TypeId) :
      (do edit (·.modifyType target fun decl => { decl with pointer := decl.pointer <|> some id }); return id) c =
        .ok (id, { c with library := c.library.notePointer target id }) := by
    rw [Build.bind_apply, edit_eq, Library.modifyType, Library.revise, if_pos held]
    rfl
  rw [pointerType, Build.bind_apply, typeName_eq]
  cases atTarget : b.library.typeAt target with
  | error cause => rfl
  | ok decl =>
    have held : target.index < b.library.types.size := Library.exists_follow_iff.mp ⟨decl, atTarget⟩
    let name := "ptr<" ++ storageClass.name ++ ", " ++ decl.name ++ ">"
    have opened : (internType name { kind := .pointer storageClass, dereference := some target } >>= fun id => do
        edit (·.modifyType target fun decl => { decl with pointer := decl.pointer <|> some id })
        return id) b = _ := Build.bind_apply ..
    refine Eq.trans opened ?_
    rw [internType_eq]
    cases b.internedTypes.find? { kind := .pointer storageClass, dereference := some target } with
    | some id => exact noted held id
    | none => exact noted (by simp [Builder.withType, Nat.lt_succ_of_lt held]) _

theorem does_pointerType (twin : b.Twin b') {target : TypeId} (storageClass : StorageClass)
    (used : .type target ∈ uses) :
    Does uses (pointerType target storageClass) b b' fun id lib => lib.Holds (.type id) := by
  have kept (lib : Library) (id : TypeId) : lib.SharesWith (lib.notePointer target id) := .modify_type _ fun _ => rfl
  rw [Does, pointerType_eq, pointerType_eq, ← twin.library, ← twin.find?_type]
  cases atTarget : b.library.typeAt target with
  | error cause => exact .fails cause
  | ok decl =>
    cases found : b.internedTypes.find? { kind := .pointer storageClass, dereference := some target } with
    | some id =>
      have has := ((twin.first.types _ id).mp found).2
      have noted := twin.update (·.notePointer target id) (kept _ id)
      rw [← twin.library] at noted
      refine .ends ⟨rfl, noted, .single (.pointerAgain has), ?_⟩
      simpa [Library.Holds, Library.notePointer] using has.holds
    | none =>
      have made := twin.withType (by simp) found ("ptr<" ++ storageClass.name ++ ", " ++ decl.name ++ ">")
      -- The name of the target was looked up before the pointer was added, so the pointer is not its own target.
      have held : b.library.Holds (.type target) := Library.exists_follow_iff.mp ⟨decl, atTarget⟩
      refine .ends ⟨rfl, made.update (·.notePointer target ⟨b.library.types.size⟩) (kept _ _), ?_, ?_⟩
      · exact .single (.pointer _ storageClass used held)
      · simp [Library.Holds, Library.notePointer, Builder.withType]

theorem does_extensionImport (twin : b.Twin b') (name : String) :
    Does uses (extensionImport name) b b' fun id lib => lib.Holds (.extImport id) := by
  rw [Does, extensionImport_eq, extensionImport_eq, ← twin.find?_import name]
  cases found : b.importsByName.find? name with
  | some id =>
    have there := (twin.first.imports name id).mp found
    exact .ends ⟨rfl, twin, .refl, Library.exists_follow_iff.mp ⟨_, there⟩⟩
  | none =>
    refine .ends ⟨by rw [twin.library], twin.withImport found, .single (.extImport ⟨name⟩), ?_⟩
    simp [Library.Holds, Builder.withImport]

/-! Everything else. -/

theorem does_structType (twin : b.Twin b') (name : String) {members : List TypeId}
    (used : ∀ member ∈ members, .type member ∈ uses) :
    Does uses (structType name members) b b' fun id lib => lib.Holds (.type id) := by
  have made : Does uses (addType { name, shape := { kind := .struct, parameters := members.map .type } }) b b'
      fun id lib => lib.Holds (.type id) := by
    refine .update twin (fun lib => (⟨lib.types.size⟩, { lib with
      types := lib.types.push { name, shape := { kind := .struct, parameters := members.map .type } } }))
      (fun _ => rfl) ⟨fun id shape noStruct => ?_, fun _ => rfl⟩ ?_ (by simp [Library.Holds])
    · refine Library.hasShape_push.trans (or_iff_left ?_)
      rintro ⟨_, rfl⟩
      exact noStruct rfl
    · exact .type name (.struct members) rfl (by simpa [TypeShape.refs] using used)
  refine made.bind fun id _ _ twin held => .giving ?_
  exact .update twin (fun lib => ((), { lib with typeNames := lib.typeNames.insert name id })) (fun _ => rfl)
    (.of_same rfl rfl) (.typeName name id) held

theorem does_literal (twin : b.Twin b') (value : Literal) :
    Does uses (literal value) b b' fun id lib => lib.Holds (.literal id) :=
  .update twin (fun lib => (⟨lib.literals.size⟩, { lib with literals := lib.literals.push value })) (fun _ => rfl)
    (.of_same rfl rfl) (.literal value) (by simp [Library.Holds])

theorem does_addOp (twin : b.Twin b') {op : Op}
    (refs : ∀ ref ∈ op.refs, ref ∈ uses ∨ ∃ literal, ref = .literal literal ∧ b.library.Holds ref) :
    Does uses (addOp op) b b' fun id lib => lib.Holds (.op id) :=
  .update twin (fun lib => (⟨lib.ops.size⟩, { lib with ops := lib.ops.push op })) (fun _ => rfl)
    (.of_same rfl rfl) (.op refs) (by simp [Library.Holds])

theorem does_addBlock (twin : b.Twin b') : Does uses (addBlock ⟨[], []⟩) b b' fun id lib => lib.Holds (.block id) :=
  .update twin (fun lib => (⟨lib.blocks.size⟩, { lib with blocks := lib.blocks.push ⟨[], []⟩ })) (fun _ => rfl)
    (.of_same rfl rfl) .block (by simp [Library.Holds])

theorem does_addFunction (twin : b.Twin b') {function : Function}
    (refs : ∀ ref ∈ function.refs, ref ∈ uses ∨ b.library.Holds ref) :
    Does uses (addFunction function) b b' fun id lib => lib.Holds (.function id) :=
  .update twin (fun lib => (⟨lib.functions.size⟩, { lib with functions := lib.functions.push function }))
    (fun _ => rfl) (.of_same rfl rfl) (.function refs) (by simp [Library.Holds])

theorem does_modifyOp (twin : b.Twin b') (id : OpId) {f : Op → Op} (kept : ∀ op, (f op).refs = op.refs) :
    Does uses (edit (·.modifyOp id f)) b b' fun _ _ => True :=
  .revise twin (·.ops) (fun lib ops => { lib with ops }) (.of_same rfl rfl) (.modifyOp id kept) trivial

/-- An instruction that was made goes to one of the lists of a block. -/
theorem does_modifyBlock (twin : b.Twin b') (block : BlockId) {f : Block → Block} {id : OpId}
    (held : b.library.Holds (.op id)) (refs : ∀ old, ∀ ref ∈ (f old).refs, ref ∈ old.refs ∨ ref = .op id) :
    Does uses (do edit (·.modifyBlock block f); return id) b b' fun id lib => lib.Holds (.op id) := by
  refine .giving ?_
  refine .revise twin (·.blocks) (fun lib blocks => { lib with blocks }) (.of_same rfl rfl) ?_ held
  refine .modifyBlock block fun old ref member => (refs old ref member).imp_right fun same => ?_
  rw [same]
  exact held

/-- What each request does: it makes something of the nodes that it is about, and is answered with a node that is
there. -/
theorem does_call (twin : b.Twin b') (call : Call) :
    Does call.uses call.run b b' fun returned lib => ∀ node ∈ returned, lib.Holds node := by
  cases call with
  | reopen =>
    have same : Builder.ofLibrary b.library = Builder.ofLibrary b'.library := congrArg _ twin.library
    exact .ends ⟨rfl, ⟨twin.first.ofLibrary, twin.second.ofLibrary, congrArg library same⟩, .refl, by simp⟩
  | voidType | boolType | samplerType | intType | floatType =>
    exact .returns (does_internType twin _ (by simp) (by constructor) rfl (by simp [TypeShape.refs]))
  | vectorType | matrixType | arrayType | runtimeArrayType | imageType | sampledImageType =>
    refine .returns ((does_typeName twin _).bind fun _ _ _ twin _ => ?_)
    exact does_internType twin _ (by simp) (by constructor) rfl (by simp [TypeShape.refs, Call.uses])
  | functionType result params =>
    refine .returns ((Does.mapM twin (fun id _ _ twin => does_typeName twin id) params).bind fun _ _ _ twin _ => ?_)
    refine (does_typeName twin _).bind fun _ _ _ twin _ => ?_
    exact does_internType twin _ (by simp) (.function result params) rfl (by simp [TypeShape.refs, Call.uses])
  | structType name members => exact .returns (does_structType twin name (by simp [Call.uses]))
  | pointerType target storageClass => exact .returns (does_pointerType twin storageClass (by simp [Call.uses]))
  | literal value => exact .returns (does_literal twin value)
  | extensionImport name => exact .returns (does_extensionImport twin name)
  | op | constantComposite => exact .returns (does_addOp twin fun ref member => .inl member)
  | constant | specConstant =>
    refine .returns ((does_literal twin _).bind fun literal _ _ twin held => ?_)
    exact does_addOp twin (by simp [Op.refs, Call.uses, held])
  | globalVariable name type initializer =>
    refine .returns (.read (f := (·.typeAt type)) twin fun decl => ?_)
    refine (does_literal twin _).bind fun storage _ _ twin held => ?_
    refine (does_addOp twin (by simp [Op.refs, Call.uses, held])).bind fun id _ _ twin held => .giving ?_
    exact .update twin (fun lib => ((), { lib with globals := lib.globals.insert id ⟨initializer⟩ })) (fun _ => rfl)
      (.of_same rfl rfl) (.global id fun function known => by simp [Call.uses, known]) held
  | decorate target | setDebugName target => exact .silent (does_modifyOp twin target fun _ => rfl)
  | function owner name type =>
    refine .returns ((does_addBlock twin).bind fun block _ _ twin held => ?_)
    refine (does_addFunction twin (by simp [Function.refs, Call.uses, held])).bind fun id _ _ twin held => ?_
    cases owner with
    | none => exact .pure twin held
    | some owner =>
      refine .giving (.revise twin (·.types) (fun lib types => { lib with types }) ?_ (.own owner held) held)
      exact .modify_type owner fun _ => rfl
  | setExecutionModel target model =>
    refine .silent (P := fun _ _ => True) ?_
    exact .revise twin (·.functions) (fun lib functions => { lib with functions }) (.of_same rfl rfl)
      (.modifyFunction target fun _ _ => .inl) trivial
  | functionParameter target type =>
    refine .returns ((does_addOp twin (by simp [Op.refs, Call.uses])).bind fun id _ _ twin held => ?_)
    refine .read (f := (·.functionAt target)) twin fun owner => ?_
    exact does_modifyBlock twin owner.parameterBlock held (by simp +contextual [Block.refs, or_imp])
  | appendBlock target =>
    refine .returns ((does_addBlock twin).bind fun id _ _ twin held => .giving ?_)
    refine .revise twin (·.functions) (fun lib functions => { lib with functions }) (.of_same rfl rfl) ?_ held
    refine .modifyFunction target fun old ref member => ?_
    by_cases same : ref = .block id
    · exact .inr (same ▸ held)
    · exact .inl (by simpa [Function.refs, same] using member)
  | pushOp block opcode resultType args =>
    refine .returns (Does.bind (does_addOp twin ?_) fun id _ _ twin held => ?_)
    · exact fun ref member => .inl (List.mem_cons_of_mem _ member)
    · exact does_modifyBlock twin block held (by simp +contextual [Block.refs, or_imp])
  | localVariable block type =>
    refine .returns ((does_literal twin _).bind fun storage _ _ twin held => ?_)
    refine (does_addOp twin (by simp [Op.refs, Call.uses, held])).bind fun id _ _ twin held => ?_
    exact does_modifyBlock twin block held (by simp +contextual [Block.refs, or_imp])

end Builder

namespace Call

variable {b b' : Builder}

/-- What a request comes to that is carried out. -/
theorem run_changes (call : Call) {returned : Option NodeRef} (interned : b.Interned)
    (ran : call.run b = .ok (returned, b')) :
    b'.Interned ∧ b.library.Changes call.uses b'.library ∧ ∀ node ∈ returned, b'.library.Holds node := by
  have does := Builder.does_call ⟨interned, interned, rfl⟩ call
  rw [Builder.Does, ran] at does
  obtain ⟨_, twin, changes, held⟩ := does.of_ok
  exact ⟨twin.first, changes, held⟩

/-- What every change keeps is kept by all requests. -/
theorem kept_of_runs {Kept : Library → Prop}
    (each : ∀ uses lib lib', Library.Change uses lib lib' → Kept lib → Kept lib') {calls : List Call}
    {returned : List (Option NodeRef)} (interned : b.Interned) (start : Kept b.library)
    (ran : calls.mapM Call.run b = .ok (returned, b')) : b'.Interned ∧ Kept b'.library := by
  induction calls generalizing b returned with
  | nil =>
    rw [List.mapM_nil] at ran
    cases ran
    exact ⟨interned, start⟩
  | cons call rest ih =>
    rw [List.mapM_cons] at ran
    obtain ⟨value, between, first, ran⟩ := Build.bind_eq_ok_iff.mp ran
    obtain ⟨values, _, later, ran⟩ := Build.bind_eq_ok_iff.mp ran
    cases ran
    obtain ⟨interned, changes, _⟩ := call.run_changes interned first
    exact ih interned (changes.kept (each call.uses) start) later

end Call

section Built

variable {calls : List Call} {returned : List (Option NodeRef)} {b : Builder}

theorem Builder.Interned.of_calls (built : calls.mapM Call.run {} = .ok (returned, b)) : b.Interned :=
  (Call.kept_of_runs (fun _ _ _ change => change.regular) .start .empty built).1

theorem Library.Regular.of_calls (built : calls.mapM Call.run {} = .ok (returned, b)) : b.library.Regular :=
  (Call.kept_of_runs (fun _ _ _ change => change.regular) .start .empty built).2

end Built

end ShaderGraph
