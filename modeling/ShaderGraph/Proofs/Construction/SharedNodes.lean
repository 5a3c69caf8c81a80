import ShaderGraph.Proofs.Construction.Requests

namespace ShaderGraph

open Spirv

namespace Call

def isReopen : Call → Bool
  | .reopen => true
  | _ => false

/-- Carries out requests and gives the answers to all but those to reopen. -/
def answers (calls : List Call) : Build (List (Option NodeRef)) :=
  calls.filterMapM fun call => (if call.isReopen then none else some ·) <$> call.run

/-- What is seen of a construction from the start: the answers and the library. -/
def outcome (calls : List Call) : Except Abort (List (Option NodeRef) × Library) :=
  (fun s => (s.1, s.2.library)) <$> answers calls {}

theorem answers_reopen (rest : List Call) (b : Builder) :
    answers (.reopen :: rest) b = answers rest (.ofLibrary b.library) := by
  rw [answers, List.filterMapM_cons]
  rfl

theorem answers_cons {call : Call} (other : call.isReopen = false) (rest : List Call) :
    answers (call :: rest) = do return (← call.run) :: (← answers rest) := by
  rw [answers, List.filterMapM_cons, bind_map_left]
  simp only [other]
  rfl

/-- A builder that is reopened on the way does as one that is not. -/
theorem agree_answers {b b' : Builder} (twin : b.Twin b') (calls : List Call) :
    Outcome.Agree (fun s s' => s.1 = s'.1 ∧ s.2.Twin s'.2) (fun _ => False) (fun _ => False)
      (answers calls b) (answers (calls.filter (!·.isReopen)) b') := by
  induction calls generalizing b b' with
  | nil => exact .ends ⟨rfl, twin⟩
  | cons call rest ih =>
    cases reopens : call.isReopen with
    | true =>
      cases call <;> cases reopens
      -- Only one of the builders is opened anew, but what it finds is what the other one has.
      rw [answers_reopen, List.filter_cons_of_neg (by simp [isReopen])]
      exact ih ⟨twin.first.ofLibrary, twin.second, twin.library⟩
    | false =>
      rw [List.filter_cons_of_pos (by simp [reopens]), answers_cons reopens, answers_cons reopens]
      refine Outcome.Agree.bind (Builder.does_call twin call) ?_
      rintro ⟨returned, c⟩ ⟨_, c'⟩ _ _ ⟨rfl, twin, _, _⟩
      refine (ih twin).bind ?_
      rintro ⟨others, _⟩ ⟨_, _⟩ _ _ ⟨rfl, twin⟩
      exact .ends ⟨rfl, twin⟩

theorem outcome_filter (calls : List Call) : outcome calls = outcome (calls.filter (!·.isReopen)) :=
  (agree_answers ⟨.start, .start, rfl⟩ calls).map_eq fun _ _ same => Prod.ext same.1 same.2.library

end Call

/-- The shape that a request asks for, where the type is to be shared. -/
def Call.shape? : Call → Option TypeShape
  | .voidType => some { kind := .void }
  | .boolType => some { kind := .bool }
  | .samplerType => some { kind := .sampler }
  | .intType width signed => some { kind := .int width signed }
  | .floatType width => some { kind := .float width }
  | .vectorType component count => some { kind := .vector count, component }
  | .matrixType column columns => some { kind := .matrix columns, component := column }
  | .arrayType element length => some { kind := .array, component := element, parameters := [.op length] }
  | .runtimeArrayType element => some { kind := .runtimeArray, component := element }
  | .pointerType base storageClass => some { kind := .pointer storageClass, dereference := base }
  | .functionType result params => some { kind := .function, component := result, parameters := params.map .type }
  | .imageType sampled dim => some { kind := .image dim 0 false false 1, component := sampled }
  | .sampledImageType image => some { kind := .sampledImage, component := image }
  | _ => none

/-- A type of the shape is found or else added. Nothing but types is touched, and these keep their shapes. -/
structure Library.Obtains (lib : Library) (shape : TypeShape) (id : TypeId) (lib' : Library) : Prop where
  asked : lib'.HasShape id shape
  once : lib.HasShape id shape ∧ lib'.types.size = lib.types.size ∨
    (∀ other, ¬lib.HasShape other shape) ∧ id = ⟨lib.types.size⟩ ∧ lib'.types.size = lib.types.size + 1
  kept : ∀ other old, lib.HasShape other old → lib'.HasShape other old
  rest : lib' = { lib with types := lib'.types }

/-- What is noted of a type apart from its shape changes nothing of what was obtained. -/
theorem Library.Obtains.modify {lib lib' : Library} {shape : TypeShape} {id : TypeId}
    (obtains : lib.Obtains shape id lib') (place : TypeId) {f : TypeDecl → TypeDecl}
    (kept : ∀ decl, (f decl).shape = decl.shape) :
    lib.Obtains shape id { lib' with types := lib'.types.modify place.index f } where
  asked := (hasShape_modify kept).mpr obtains.asked
  once := by
    rw [Array.size_modify]
    exact obtains.once
  kept other old there := (hasShape_modify kept).mpr (obtains.kept other old there)
  rest := by rw [obtains.rest]

theorem Library.Obtains.found {lib : Library} {shape : TypeShape} {id : TypeId} (there : lib.HasShape id shape) :
    lib.Obtains shape id lib :=
  ⟨there, .inl ⟨there, rfl⟩, fun _ _ old => old, rfl⟩

theorem Library.Obtains.made {lib : Library} {shape : TypeShape} (absent : ∀ other, ¬lib.HasShape other shape)
    (name : String) :
    lib.Obtains shape ⟨lib.types.size⟩ { lib with types := lib.types.push { name, shape } } where
  asked := hasShape_push.mpr (.inr ⟨rfl, rfl⟩)
  once := .inr ⟨absent, rfl, Array.size_push ..⟩
  kept _ _ old := hasShape_push.mpr (.inl old)
  rest := rfl

theorem Build.bind_of_error {α β : Type} {x : Build α} {f : α → Build β} {b : Builder} {cause : Abort}
    (failed : x b = .error cause) : (x >>= f) b = .error cause := by
  rw [bind_apply, failed]
  rfl

theorem Build.bind_of_ok {α β : Type} {x : Build α} {f : α → Build β} {b b' : Builder} {value : α}
    (ran : x b = .ok (value, b')) : (x >>= f) b = f value b' := by
  rw [bind_apply, ran]
  rfl

theorem Build.map_of_ok {α β : Type} {x : Build α} {f : α → β} {b b' : Builder} {value : α}
    (ran : x b = .ok (value, b')) : (f <$> x) b = .ok (f value, b') := by
  rw [map_eq_pure_bind, bind_of_ok ran]
  rfl

/-- An import of the name is found or else added, and nothing else is touched. -/
structure Library.ObtainsImport (lib : Library) (name : String) (id : ImportId) (lib' : Library) : Prop where
  asked : lib'.importAt id = .ok ⟨name⟩
  once : lib' = lib ∨ (∀ other, lib.importAt other ≠ .ok ⟨name⟩) ∧ id = ⟨lib.imports.size⟩ ∧
    lib' = { lib with imports := lib.imports.push ⟨name⟩ }

namespace Builder

def Holds (b : Builder) (ids : List TypeId) : Prop := ∀ id ∈ ids, b.library.Holds (.type id)

/-- A step of a builder that shares what there is: it succeeds exactly if these types are there, and then does
as it should. -/
def NeedsTypes {α : Type} (x : Build α) (ids : List TypeId) (Effect : Builder → α → Builder → Prop) : Prop :=
  ∀ b, b.Interned → b.Holds ids ∧ (∃ value b', x b = .ok (value, b') ∧ Effect b value b') ∨
    ¬b.Holds ids ∧ ∃ cause, x b = .error cause

/-- A step that looks up types and changes nothing. -/
def LooksUp {α : Type} (x : Build α) (ids : List TypeId) : Prop := NeedsTypes x ids fun b _ b' => b' = b

/-- A step that obtains a type of a shape. -/
def Obtaining (x : Build TypeId) (ids : List TypeId) (shape : TypeShape) : Prop :=
  NeedsTypes x ids fun b id b' => b.library.Obtains shape id b'.library

section Steps

variable {α β : Type} {ids more : List TypeId} {shape : TypeShape}

theorem LooksUp.bind {x : Build α} {f : α → Build β} {Effect : Builder → β → Builder → Prop}
    (first : LooksUp x ids) (second : ∀ value, NeedsTypes (f value) more Effect) :
    NeedsTypes (x >>= f) (ids ++ more) Effect := by
  intro b interned
  have parts : b.Holds (ids ++ more) ↔ b.Holds ids ∧ b.Holds more := List.forall_mem_append
  rw [parts]
  rcases first b interned with ⟨held, value, _, ran, rfl⟩ | ⟨missing, cause, failed⟩
  · rw [Build.bind_of_ok ran]
    rcases second value _ interned with ⟨others, ran⟩ | ⟨missing, failed⟩
    · exact .inl ⟨⟨held, others⟩, ran⟩
    · exact .inr ⟨fun both => missing both.2, failed⟩
  · exact .inr ⟨fun both => missing both.1, cause, Build.bind_of_error failed⟩

theorem holds_singleton_iff {b : Builder} {id : TypeId} :
    b.Holds [id] ↔ ∃ decl, b.library.typeAt id = .ok decl :=
  List.forall_mem_singleton.trans Library.exists_follow_iff.symm

theorem looksUp_typeName (id : TypeId) : LooksUp (typeName id) [id] := by
  intro b _
  rw [typeName_eq, holds_singleton_iff]
  cases found : b.library.typeAt id with
  | ok decl => exact .inl ⟨⟨decl, rfl⟩, decl.name, b, rfl, rfl⟩
  | error cause => exact .inr ⟨by simp, cause, rfl⟩

theorem looksUp_typeNames (ids : List TypeId) : LooksUp (ids.mapM typeName) ids := by
  have finished {α : Type} (value : α) : LooksUp (pure value : Build α) [] :=
    fun b _ => .inl ⟨List.forall_mem_nil _, value, b, rfl, rfl⟩
  induction ids with
  | nil =>
    rw [List.mapM_nil]
    exact finished []
  | cons id rest ih =>
    have named := (looksUp_typeName id).bind fun name => ih.bind fun names => finished (name :: names)
    rw [List.append_nil] at named
    rw [List.mapM_cons]
    exact named

/-- A shared type is found where there is one of its shape, and else added at the end. -/
theorem obtaining_internType (name : String) (noStruct : shape.kind ≠ .struct) :
    Obtaining (internType name shape) [] shape := by
  intro b interned
  refine .inl ⟨List.forall_mem_nil _, ?_⟩
  rw [internType_eq]
  cases found : b.internedTypes.find? shape with
  | some id => exact ⟨id, b, rfl, .found ((interned.types shape id).mp found).2⟩
  | none => exact ⟨_, _, rfl, .made (interned.not_hasShape noStruct found) name⟩

/-- The pointer is noted at the type that it points to. -/
theorem obtaining_pointerType (target : TypeId) (storageClass : StorageClass) :
    Obtaining (pointerType target storageClass) [target]
      { kind := .pointer storageClass, dereference := some target } := by
  intro b interned
  rw [pointerType_eq, holds_singleton_iff]
  cases atTarget : b.library.typeAt target with
  | error cause => exact .inr ⟨by simp, cause, rfl⟩
  | ok decl =>
    refine .inl ⟨⟨decl, rfl⟩, ?_⟩
    cases found : b.internedTypes.find? { kind := .pointer storageClass, dereference := some target } with
    | some id =>
      have there := ((interned.types _ id).mp found).2
      exact ⟨id, _, rfl, (Library.Obtains.found there).modify target fun _ => rfl⟩
    | none =>
      have absent := interned.not_hasShape (by simp) found
      exact ⟨_, _, rfl, (Library.Obtains.made absent _).modify target fun _ => rfl⟩

end Steps

end Builder

/-- The types that a shape is made of are there. -/
def Library.HasParts (lib : Library) (shape : TypeShape) : Prop :=
  ∀ id, .type id ∈ shape.refs → lib.Holds (.type id)

/-- Each request for a shared type obtains it, if the types that it is made of are there. -/
theorem Call.exists_obtaining {call : Call} {shape : TypeShape} (asked : call.shape? = some shape) :
    ∃ x ids, call.run = (some <| .type ·) <$> x ∧ (∀ id, .type id ∈ shape.refs ↔ id ∈ ids) ∧
      Builder.Obtaining x ids shape := by
  cases call with
  | voidType | boolType | samplerType | intType | floatType =>
    cases asked
    exact ⟨_, [], rfl, by simp [TypeShape.refs], Builder.obtaining_internType _ (by simp)⟩
  | vectorType type | matrixType type | arrayType type | runtimeArrayType type | imageType type
  | sampledImageType type =>
    cases asked
    exact ⟨_, [type] ++ [], rfl, by simp [TypeShape.refs], (Builder.looksUp_typeName type).bind fun _ =>
      Builder.obtaining_internType _ (by simp)⟩
  | functionType result params =>
    cases asked
    refine ⟨_, params ++ ([result] ++ []), rfl, ?_, ?_⟩
    · simp [TypeShape.refs, or_comm]
    · exact (Builder.looksUp_typeNames params).bind fun _ => (Builder.looksUp_typeName result).bind fun _ =>
        Builder.obtaining_internType _ (by simp)
  | pointerType base storageClass =>
    cases asked
    exact ⟨_, [base], rfl, by simp [TypeShape.refs], Builder.obtaining_pointerType base storageClass⟩
  | _ => cases asked

theorem Call.run_shared {call : Call} {shape : TypeShape} {b : Builder} (asked : call.shape? = some shape)
    (interned : b.Interned) :
    b.library.HasParts shape ∧
        (∃ id b', call.run b = .ok (some (.type id), b') ∧ b.library.Obtains shape id b'.library) ∨
      ¬b.library.HasParts shape ∧ ∃ cause, call.run b = .error cause := by
  obtain ⟨x, ids, run, refs, obtaining⟩ := Call.exists_obtaining asked
  have parts : b.library.HasParts shape ↔ b.Holds ids := forall_congr' fun id => imp_congr_left (refs id)
  rw [parts, run]
  rcases obtaining b interned with ⟨held, id, b', made, obtains⟩ | ⟨missing, cause, failed⟩
  · exact .inl ⟨held, id, b', Build.map_of_ok made, obtains⟩
  · refine .inr ⟨missing, cause, ?_⟩
    rw [map_eq_pure_bind]
    exact Build.bind_of_error failed

theorem Call.run_extensionImport {b : Builder} (interned : b.Interned) (name : String) :
    ∃ id b', (Call.extensionImport name).run b = .ok (some (.extImport id), b') ∧
      b.library.ObtainsImport name id b'.library := by
  cases found : b.importsByName.find? name with
  | some id =>
    have made : Builder.extensionImport name b = .ok (id, b) := by rw [Builder.extensionImport_eq, found]
    have there := (interned.imports name id).mp found
    exact ⟨id, b, Build.map_of_ok made, there, .inl rfl⟩
  | none =>
    have made : Builder.extensionImport name b = .ok (⟨b.library.imports.size⟩, b.withImport name) := by
      rw [Builder.extensionImport_eq, found]
    refine ⟨_, _, Build.map_of_ok made, ?_, .inr ⟨interned.imports.absent found, rfl, rfl⟩⟩
    exact Library.importAt_push.mpr (.inr ⟨rfl, rfl⟩)

/-- However a library is built, no two types that are not structs have one shape and no two imports one name,
the builder's tables hold exactly these, and a request for such a node finds the one that there is or, where
there is none, adds it. A struct is new each time. So it makes no difference to the answers, to the library or
to what is given up whether and where the builder is reopened on the way. -/
theorem Call.shared_through_reopening (calls : List Call) :
    (∀ returned b, calls.mapM Call.run {} = .ok (returned, b) →
      (∀ id other shape, shape.kind ≠ .struct → b.library.HasShape id shape → b.library.HasShape other shape →
        id = other) ∧
      (∀ id other name, b.library.importAt id = .ok ⟨name⟩ → b.library.importAt other = .ok ⟨name⟩ → id = other) ∧
      (∀ shape id, b.internedTypes.find? shape = some id ↔ shape.kind ≠ .struct ∧ b.library.HasShape id shape) ∧
      (∀ name id, b.importsByName.find? name = some id ↔ b.library.importAt id = .ok ⟨name⟩) ∧
      (∀ (call : Call) shape, call.shape? = some shape →
        b.library.HasParts shape ∧
            (∃ id b', call.run b = .ok (some (.type id), b') ∧ b.library.Obtains shape id b'.library) ∨
          ¬b.library.HasParts shape ∧ ∃ cause, call.run b = .error cause) ∧
      (∀ name, ∃ id b', (Call.extensionImport name).run b = .ok (some (.extImport id), b') ∧
        b.library.ObtainsImport name id b'.library) ∧
      ∀ name members, ∃ b', (Call.structType name members).run b =
          .ok (some (.type ⟨b.library.types.size⟩), b') ∧
        b'.library = { b.library with
          types := b.library.types.push { name, shape := { kind := .struct, parameters := members.map .type } }
          typeNames := b.library.typeNames.insert name ⟨b.library.types.size⟩ }) ∧
    ∀ others, others.filter (!·.isReopen) = calls.filter (!·.isReopen) →
      Call.outcome others = Call.outcome calls := by
  constructor
  · intro returned b built
    have interned := Builder.Interned.of_calls built
    exact ⟨fun _ _ _ noStruct here there => interned.types.unique ⟨noStruct, here⟩ ⟨noStruct, there⟩,
      fun _ _ _ => interned.imports.unique, interned.types, interned.imports,
      fun _ _ asked => Call.run_shared asked interned, Call.run_extensionImport interned,
      fun name members => ⟨_, rfl, rfl⟩⟩
  · intro others same
    rw [Call.outcome_filter others, same, ← Call.outcome_filter calls]

/-- A vector type is asked for again after the builder was reopened twice. -/
def Call.interrupted : List Call :=
  [.floatType 32, .vectorType ⟨0⟩ 4, .reopen, .extensionImport "GLSL.std.450", .pointerType ⟨1⟩ .output, .reopen,
    .vectorType ⟨0⟩ 4]

theorem Call.interrupted_shared :
    ∃ b, Call.interrupted.mapM Call.run {} =
        .ok ([some (.type ⟨0⟩), some (.type ⟨1⟩), none, some (.extImport ⟨0⟩), some (.type ⟨2⟩), none,
          some (.type ⟨1⟩)], b) ∧
      b.internedTypes.find? ⟨.vector 4, none, some ⟨0⟩, []⟩ = some ⟨1⟩ ∧
      Call.outcome (Call.interrupted.filter (!·.isReopen)) = Call.outcome Call.interrupted := by
  obtain ⟨reached, unseen⟩ := Call.shared_through_reopening Call.interrupted
  refine ⟨_, rfl, ?_, unseen _ (by rw [List.filter_filter]; simp)⟩
  exact ((reached _ _ rfl).2.2.1 _ _).mpr ⟨by simp, _, rfl, rfl⟩

/-- A struct is added though there is one of the same name, with the same members. -/
theorem Call.struct_added_twice :
    ∃ returned b b' decl, [Call.structType "S" []].mapM Call.run {} = .ok (returned, b) ∧
      b.library.typeAt ⟨0⟩ = .ok decl ∧
      (Call.structType "S" []).run b = .ok (some (.type ⟨1⟩), b') ∧
      b'.library.typeAt ⟨0⟩ = .ok decl ∧ b'.library.typeAt ⟨1⟩ = .ok decl :=
  ⟨_, _, _, _, rfl, rfl, rfl, rfl, rfl⟩

end ShaderGraph
