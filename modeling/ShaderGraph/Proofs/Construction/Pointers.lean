import ShaderGraph.Proofs.Construction.Requests

namespace ShaderGraph

open Spirv

/-- The first of the types with these targets that points to `id`. -/
def firstPointer? (targets : List (Option TypeId)) (id : TypeId) : Option TypeId :=
  (targets.findIdx? (· == some id)).map TypeId.mk

section First

variable {targets : List (Option TypeId)} {id : TypeId}

theorem firstPointer?_eq_some_iff {pointer : TypeId} : firstPointer? targets id = some pointer ↔
    targets[pointer.index]? = some (some id) ∧
      ∀ index : Nat, targets[index]? = some (some id) → pointer.index ≤ index := by
  obtain ⟨place⟩ := pointer
  simp only [firstPointer?, Option.map_eq_some_iff, TypeId.mk.injEq, exists_eq_right,
    List.findIdx?_eq_some_iff_getElem, beq_iff_eq, List.getElem?_eq_some_iff]
  constructor
  · rintro ⟨inside, points, first⟩
    refine ⟨⟨inside, points⟩, fun index ⟨_, other⟩ => Nat.le_of_not_lt fun before => ?_⟩
    exact first index before other
  · rintro ⟨⟨inside, points⟩, first⟩
    exact ⟨inside, points, fun index before other => absurd (first index ⟨_, other⟩) (Nat.not_le_of_lt before)⟩

theorem firstPointer?_eq_none_iff :
    firstPointer? targets id = none ↔ ∀ index : Nat, targets[index]? ≠ some (some id) := by
  simp only [firstPointer?, Option.map_eq_none_iff, List.findIdx?_eq_none_iff, beq_eq_false_iff_ne]
  constructor
  · exact fun none index found => none _ (List.mem_of_getElem? found) rfl
  · intro none target member same
    obtain ⟨index, found⟩ := List.getElem?_of_mem member
    exact none index (same ▸ found)

theorem firstPointer?_append (target : Option TypeId) : firstPointer? (targets ++ [target]) id =
    (firstPointer? targets id <|> if target = some id then some ⟨targets.length⟩ else none) := by
  rw [firstPointer?, firstPointer?, List.findIdx?_append]
  cases targets.findIdx? (· == some id) with
  | some index => rfl
  | none => by_cases same : target = some id <;> simp [List.findIdx?_singleton, same]

theorem firstPointer?_of_isPrefix {more : List (Option TypeId)} {pointer : TypeId} (grown : targets <+: more)
    (first : firstPointer? targets id = some pointer) : firstPointer? more id = some pointer := by
  obtain ⟨index, found, same⟩ := Option.map_eq_some_iff.mp first
  exact Option.map_eq_some_iff.mpr ⟨index, grown.findIdx?_eq_some found, same⟩

end First

/-- Notes a pointer at its target, if that has none yet. -/
def note (pointers : List (Option TypeId)) (target pointer : TypeId) : List (Option TypeId) :=
  pointers.modify target.index (· <|> some pointer)

theorem getElem?_note {pointers : List (Option TypeId)} {target pointer : TypeId} {index : Nat} {found : Option TypeId}
    (place : (note pointers target pointer)[index]? = some found) :
    ∃ old, pointers[index]? = some old ∧ (if target = ⟨index⟩ then old <|> some pointer else old) = found := by
  obtain ⟨target⟩ := target
  rw [note, List.getElem?_modify] at place
  simpa using place

/-- At each type its first pointer is noted, and pointers point to types before them. -/
structure Noted (targets pointers : List (Option TypeId)) : Prop where
  length : pointers.length = targets.length
  first : ∀ (index : Nat) pointer, pointers[index]? = some pointer → pointer = firstPointer? targets ⟨index⟩
  back : ∀ (index : Nat) (id : TypeId), targets[index]? = some (some id) → id.index < index

namespace Noted

variable {targets pointers : List (Option TypeId)} {base : TypeId}

/-- Nothing points to a type that is only now added. -/
theorem first_append (noted : Noted targets pointers) {index : Nat} {pointer : Option TypeId}
    (found : (pointers ++ [none])[index]? = some pointer) : pointer = firstPointer? targets ⟨index⟩ := by
  by_cases old : index < pointers.length
  · rw [List.getElem?_append_left old] at found
    exact noted.first index pointer found
  · obtain ⟨rfl, rfl⟩ : index = pointers.length ∧ pointer = none := by
      simp only [List.getElem?_append, old, if_false, List.getElem?_singleton] at found
      grind
    refine (firstPointer?_eq_none_iff.mpr fun other points => ?_).symm
    -- A pointer to it would stand after it, where there is nothing yet.
    have before : pointers.length < other := noted.back other _ points
    have inside := (List.getElem?_eq_some_iff.mp points).1
    have length := noted.length
    omega

theorem back_append (noted : Noted targets pointers) {target : Option TypeId}
    (there : ∀ id, target = some id → id.index < targets.length) (index : Nat) (id : TypeId)
    (points : (targets ++ [target])[index]? = some (some id)) : id.index < index := by
  by_cases old : index < targets.length
  · rw [List.getElem?_append_left old] at points
    exact noted.back index id points
  · have inside : target = some id := by
      simp only [List.getElem?_append, old, if_false, List.getElem?_singleton] at points
      grind
    have before := there id inside
    omega

/-- A further type that is no pointer. -/
theorem add (noted : Noted targets pointers) : Noted (targets ++ [none]) (pointers ++ [none]) where
  length := by simp [noted.length]
  first index pointer found := by
    rw [firstPointer?_append, noted.first_append found]
    simp
  back := noted.back_append (by simp)

/-- A further pointer, which may be the first to its target. -/
theorem point (noted : Noted targets pointers) (there : base.index < targets.length) :
    Noted (targets ++ [some base]) (note (pointers ++ [none]) base ⟨targets.length⟩) where
  length := by simp [note, noted.length]
  first index pointer found := by
    obtain ⟨old, before, rfl⟩ := getElem?_note found
    rw [firstPointer?_append, ← noted.first_append before]
    by_cases here : base = ⟨index⟩ <;> simp [here]
  back := noted.back_append (by simpa using there)

/-- Where a pointer was there before, its target has one that is noted already. -/
theorem again (noted : Noted targets pointers) {id : TypeId} (points : targets[id.index]? = some (some base)) :
    Noted targets (note pointers base id) where
  length := by simp [note, noted.length]
  first index pointer found := by
    obtain ⟨old, before, rfl⟩ := getElem?_note found
    obtain rfl := noted.first index old before
    by_cases here : base = ⟨index⟩
    · have known : firstPointer? targets ⟨index⟩ ≠ none :=
        fun none => firstPointer?_eq_none_iff.mp none id.index (here ▸ points)
      obtain ⟨first, same⟩ := Option.ne_none_iff_exists'.mp known
      simp [same]
    · rw [if_neg here]
  back := noted.back

end Noted

namespace Library

/-- The types that the pointers of a library point to. -/
def targets (lib : Library) : List (Option TypeId) := lib.types.toList.map (·.shape.target?)

/-- The pointers that are noted at the types of a library. -/
def pointers (lib : Library) : List (Option TypeId) := lib.types.toList.map TypeDecl.pointer

variable {lib lib' : Library}

theorem pointers_push (decl : TypeDecl) :
    pointers { lib with types := lib.types.push decl } = lib.pointers ++ [decl.pointer] := by
  simp [pointers]

theorem targets_push (decl : TypeDecl) :
    targets { lib with types := lib.types.push decl } = lib.targets ++ [decl.shape.target?] := by
  simp [targets]

theorem targets_modify (place : Nat) {f : TypeDecl → TypeDecl} (kept : ∀ decl, (f decl).shape = decl.shape) :
    targets { lib with types := lib.types.modify place f } = lib.targets := by
  refine List.ext_getElem? fun index => ?_
  simp only [targets, Array.toList_modify, List.getElem?_map, List.getElem?_modify, Option.map_eq_map, Option.map_map]
  congr 1
  funext decl
  simp only [Function.comp_apply, apply_ite TypeDecl.shape, kept, ite_self]

theorem pointers_modify (place : Nat) {f : TypeDecl → TypeDecl} {g : Option TypeId → Option TypeId}
    (changed : ∀ decl, (f decl).pointer = g decl.pointer) :
    pointers { lib with types := lib.types.modify place f } = lib.pointers.modify place g := by
  refine List.ext_getElem? fun index => ?_
  simp only [pointers, Array.toList_modify, List.getElem?_map, List.getElem?_modify, Option.map_eq_map, Option.map_map]
  congr 1
  funext decl
  simp only [Function.comp_apply, apply_ite TypeDecl.pointer, changed]

theorem pointers_modify_of_kept (place : Nat) {f : TypeDecl → TypeDecl}
    (kept : ∀ decl, (f decl).pointer = decl.pointer) :
    pointers { lib with types := lib.types.modify place f } = lib.pointers :=
  (pointers_modify (g := id) place kept).trans (List.modify_id ..)

theorem targets_notePointer (target pointer : TypeId) : (lib.notePointer target pointer).targets = lib.targets :=
  targets_modify _ fun _ => rfl

theorem pointers_notePointer (target pointer : TypeId) :
    (lib.notePointer target pointer).pointers = note lib.pointers target pointer :=
  pointers_modify _ fun _ => rfl

/-- A change keeps pointers noted, and their places. -/
theorem Change.noted {uses : List NodeRef} (change : lib.Change uses lib') (noted : Noted lib.targets lib.pointers) :
    Noted lib'.targets lib'.pointers ∧ lib.targets <+: lib'.targets := by
  cases change with
  | type name regular noPointer =>
    rw [targets_push, pointers_push, noPointer]
    exact ⟨noted.add, List.prefix_append ..⟩
  | pointer name storageClass used held =>
    rw [targets_notePointer, pointers_notePointer, targets_push, pointers_push]
    have last : lib.types.size = lib.targets.length := by simp [targets]
    rw [last]
    exact ⟨noted.point (last ▸ held), List.prefix_append ..⟩
  | @pointerAgain target pointer storageClass has =>
    rw [targets_notePointer, pointers_notePointer]
    refine ⟨noted.again ?_, List.prefix_rfl⟩
    obtain ⟨decl, atPointer, shape⟩ := has
    have place : lib.types[pointer.index]? = some decl := follow_eq_ok_iff.mp atPointer
    simp [targets, place, shape, TypeShape.target?]
  | own owner =>
    rw [targets_modify, pointers_modify_of_kept]
    · exact ⟨noted, List.prefix_rfl⟩
    all_goals exact fun _ => rfl
  | typeName | extImport | literal | op | global | block | function | modifyOp | modifyFunction | modifyBlock =>
    exact ⟨noted, List.prefix_rfl⟩

end Library

/-- All requests keep pointers noted, and their places. -/
theorem Call.noted_of_runs {calls : List Call} {returned : List (Option NodeRef)} {b b' : Builder}
    (interned : b.Interned) (noted : Noted b.library.targets b.library.pointers)
    (ran : calls.mapM Call.run b = .ok (returned, b')) :
    Noted b'.library.targets b'.library.pointers ∧ b.library.targets <+: b'.library.targets := by
  have each (uses : List NodeRef) (lib lib' : Library) (change : lib.Change uses lib')
      (before : Noted lib.targets lib.pointers ∧ b.library.targets <+: lib.targets) :
      Noted lib'.targets lib'.pointers ∧ b.library.targets <+: lib'.targets := by
    obtain ⟨still, grown⟩ := change.noted before.1
    exact ⟨still, before.2.trans grown⟩
  exact (Call.kept_of_runs each interned ⟨noted, List.prefix_rfl⟩ ran).2

namespace Library

variable {lib : Library}

/-- A type of the library is the pointer to a type in a storage class. -/
def PointsTo (lib : Library) (pointer : TypeId) (storageClass : StorageClass) (base : TypeId) : Prop :=
  ∃ decl, lib.typeAt pointer = .ok decl ∧ decl.shape.kind = .pointer storageClass ∧ decl.shape.dereference = some base

/-- What there is to know of pointers: at each type the first pointer to it is noted, pointers point to types that
are there before them, and there is one for each type and storage class at most. -/
structure KnowsPointers (lib : Library) : Prop where
  first : ∀ id decl, lib.typeAt id = .ok decl → ∀ pointer, decl.pointer = some pointer ↔
    (∃ storageClass, lib.PointsTo pointer storageClass id) ∧
      ∀ other storageClass, lib.PointsTo other storageClass id → pointer.index ≤ other.index
  none : ∀ id decl, lib.typeAt id = .ok decl →
    (decl.pointer = none ↔ ∀ pointer storageClass, ¬lib.PointsTo pointer storageClass id)
  back : ∀ id decl storageClass, lib.typeAt id = .ok decl → decl.shape.kind = .pointer storageClass →
    ∃ base target, decl.shape.dereference = some base ∧ base.index < id.index ∧ lib.typeAt base = .ok target
  once : ∀ pointer other storageClass base, lib.PointsTo pointer storageClass base →
    lib.PointsTo other storageClass base → pointer = other

theorem getElem?_targets {index : Nat} {base : TypeId} :
    lib.targets[index]? = some (some base) ↔ ∃ storageClass, lib.PointsTo ⟨index⟩ storageClass base := by
  simp only [targets, List.getElem?_map, Option.map_eq_some_iff, Array.getElem?_toList, PointsTo, typeAt,
    follow_eq_ok_iff]
  constructor
  · rintro ⟨decl, found, target⟩
    unfold TypeShape.target? at target
    split at target
    · next storageClass kind => exact ⟨storageClass, decl, found, kind, target⟩
    · cases target
  · rintro ⟨storageClass, decl, found, kind, target⟩
    exact ⟨decl, found, by simp [TypeShape.target?, kind, target]⟩

theorem pointer_eq_of_noted (noted : Noted lib.targets lib.pointers) {id : TypeId} {decl : TypeDecl}
    (atId : lib.typeAt id = .ok decl) : decl.pointer = firstPointer? lib.targets id := by
  have found : lib.types[id.index]? = some decl := follow_eq_ok_iff.mp atId
  exact noted.first id.index _ (by simp [pointers, found])

end Library

theorem TypeShape.Regular.eq_pointer {shape : TypeShape} (regular : shape.Regular) {storageClass : StorageClass}
    (kind : shape.kind = .pointer storageClass) :
    ∃ base, shape = { kind := .pointer storageClass, dereference := some base } := by
  cases regular <;> cases kind
  exact ⟨_, rfl⟩

theorem Library.knowsPointers {b : Builder} (interned : b.Interned) (regular : b.library.Regular)
    (noted : Noted b.library.targets b.library.pointers) : b.library.KnowsPointers where
  first id decl atId pointer := by
    rw [pointer_eq_of_noted noted atId, firstPointer?_eq_some_iff, getElem?_targets]
    refine and_congr_right fun _ => ⟨fun least other storageClass points => ?_, fun least index points => ?_⟩
    · exact least other.index (getElem?_targets.mpr ⟨storageClass, points⟩)
    · obtain ⟨storageClass, points⟩ := getElem?_targets.mp points
      exact least ⟨index⟩ storageClass points
  none id decl atId := by
    rw [pointer_eq_of_noted noted atId, firstPointer?_eq_none_iff]
    refine ⟨fun none pointer storageClass points => ?_, fun none index points => ?_⟩
    · exact none pointer.index (getElem?_targets.mpr ⟨storageClass, points⟩)
    · obtain ⟨storageClass, points⟩ := getElem?_targets.mp points
      exact none ⟨index⟩ storageClass points
  back id decl storageClass atId kind := by
    obtain ⟨base, shape⟩ := (regular id decl.shape ⟨decl, atId, rfl⟩).eq_pointer kind
    have target : decl.shape.dereference = some base := by rw [shape]
    have before := noted.back id.index base (getElem?_targets.mpr ⟨storageClass, decl, atId, kind, target⟩)
    have inside : id.index < b.library.types.size := exists_follow_iff.mp ⟨decl, atId⟩
    obtain ⟨found, atBase⟩ := exists_follow_iff.mpr (Nat.lt_trans before inside)
    exact ⟨base, found, target, before, atBase⟩
  once pointer other storageClass base := by
    rintro ⟨decl, atPointer, kind, target⟩ ⟨decl', atOther, kind', target'⟩
    obtain ⟨first, shape⟩ := (regular pointer _ ⟨decl, atPointer, rfl⟩).eq_pointer kind
    obtain ⟨second, shape'⟩ := (regular other _ ⟨decl', atOther, rfl⟩).eq_pointer kind'
    obtain rfl : base = first := by simpa [shape] using target.symm
    obtain rfl : base = second := by simpa [shape'] using target'.symm
    exact interned.types.unique ⟨by simp, decl, atPointer, shape⟩ ⟨by simp, decl', atOther, shape'⟩

/-- However a library is built, the first pointer to each type is noted at the type, and this does not change
however construction goes on. -/
theorem Call.first_pointer_noted {calls : List Call} {returned : List (Option NodeRef)} {b : Builder}
    (built : calls.mapM Call.run {} = .ok (returned, b)) :
    b.library.KnowsPointers ∧ ∀ (more : List Call) returned' b', more.mapM Call.run b = .ok (returned', b') →
      ∀ id decl pointer, b.library.typeAt id = .ok decl → decl.pointer = some pointer →
        ∃ decl', b'.library.typeAt id = .ok decl' ∧ decl'.pointer = some pointer := by
  have start : Noted (Library.targets {}) (Library.pointers {}) := ⟨rfl, nofun, nofun⟩
  have noted := (Call.noted_of_runs .start start built).1
  have interned := Builder.Interned.of_calls built
  refine ⟨Library.knowsPointers interned (.of_calls built) noted, ?_⟩
  intro more returned' b' ran id decl pointer atId known
  obtain ⟨still, grown⟩ := Call.noted_of_runs interned noted ran
  have inside : id.index < b.library.types.size := Library.exists_follow_iff.mp ⟨decl, atId⟩
  obtain ⟨decl', atId'⟩ : ∃ decl', b'.library.typeAt id = .ok decl' := by
    refine Library.exists_follow_iff.mpr (Nat.lt_of_lt_of_le inside ?_)
    simpa [Library.targets] using grown.length_le
  rw [Library.pointer_eq_of_noted noted atId] at known
  refine ⟨decl', atId', ?_⟩
  rw [Library.pointer_eq_of_noted still atId']
  exact firstPointer?_of_isPrefix grown known

/-- Pointers to a pointer and to its base, with a request for one that was there when the builder was reopened. -/
def Call.pointing : List Call :=
  [.floatType 32, .pointerType ⟨0⟩ .output, .pointerType ⟨1⟩ .priv, .reopen, .pointerType ⟨0⟩ .input,
    .pointerType ⟨0⟩ .output, .pointerType ⟨1⟩ .priv]

theorem Call.pointing_noted : ∃ b, Call.pointing.mapM Call.run {} =
      .ok ([some (.type ⟨0⟩), some (.type ⟨1⟩), some (.type ⟨2⟩), none, some (.type ⟨3⟩), some (.type ⟨1⟩),
        some (.type ⟨2⟩)], b) ∧
    b.library.pointers = [some ⟨1⟩, some ⟨2⟩, none, none] ∧ b.library.KnowsPointers := by
  have run : (fun s => (s.1, s.2.library.pointers)) <$> Call.pointing.mapM Call.run {} =
      .ok ([some (.type ⟨0⟩), some (.type ⟨1⟩), some (.type ⟨2⟩), none, some (.type ⟨3⟩), some (.type ⟨1⟩),
        some (.type ⟨2⟩)], [some ⟨1⟩, some ⟨2⟩, none, none]) := by decide +kernel
  obtain ⟨⟨returned, b⟩, built, same⟩ := Outcome.map_eq_ok_iff.mp run
  obtain ⟨rfl, pointers⟩ := Prod.mk.inj same
  exact ⟨b, built, pointers, (Call.first_pointer_noted built).1⟩

end ShaderGraph
