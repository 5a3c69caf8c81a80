import ShaderGraph.Proofs.Construction.Soundness

namespace ShaderGraph

open Spirv

theorem Table.mem_of_find?_ofList {κ α : Type} [BEq κ] [LawfulBEq κ] {pairs : List (κ × α)} {key : κ}
    {value : α} (found : (Table.ofList pairs).find? key = some value) : (key, value) ∈ pairs := by
  have general (t : Table κ α) (kept : (pairs.foldl (fun t pair => t.insert pair.1 pair.2) t).find? key =
      some value) : (key, value) ∈ pairs ∨ t.find? key = some value := by
    clear found
    induction pairs generalizing t with
    | nil => exact .inr kept
    | cons pair rest ih =>
      rcases ih (t.insert pair.1 pair.2) kept with later | now
      · exact .inl (List.mem_cons_of_mem _ later)
      · by_cases same : key = pair.1
        · subst same
          rw [Table.find?_insert_self] at now
          cases now
          exact .inl (List.mem_cons_self ..)
        · rw [Table.find?_insert_of_ne _ _ same] at now
          exact .inr now
  exact (general .empty found).resolve_right (by simp)

theorem Table.find?_ofList_of_unique {κ α : Type} [BEq κ] [LawfulBEq κ] {pairs : List (κ × α)} {key : κ} {value : α}
    (member : (key, value) ∈ pairs) (unique : ∀ other, (key, other) ∈ pairs → other = value) :
    (Table.ofList pairs).find? key = some value := by
  have general (t : Table κ α) (present : (key, value) ∈ pairs ∨ t.find? key = some value) :
      (pairs.foldl (fun t pair => t.insert pair.1 pair.2) t).find? key = some value := by
    clear member
    induction pairs generalizing t with
    | nil => exact present.resolve_left List.not_mem_nil
    | cons pair rest ih =>
      refine ih (fun other later => unique other (List.mem_cons_of_mem _ later)) _ ?_
      by_cases same : key = pair.1
      · subst same
        rw [Table.find?_insert_self, unique pair.2 (List.mem_cons_self ..)]
        exact .inr rfl
      · rw [Table.find?_insert_of_ne _ _ same]
        refine present.imp_left fun inside => (List.mem_cons.mp inside).resolve_left fun first => ?_
        exact same (congrArg Prod.fst first)
  exact general .empty (.inl member)

/-- A table holds a value under a key where the two belong together, and nothing else. -/
def Table.Reflects {κ α : Type} [BEq κ] (t : Table κ α) (Has : κ → α → Prop) : Prop :=
  ∀ key value, t.find? key = some value ↔ Has key value

namespace Table.Reflects

variable {κ α : Type} [BEq κ] {t t' : Table κ α} {Has Has' : κ → α → Prop} {key : κ}

theorem unique (reflects : t.Reflects Has) {value other : α} (here : Has key value) (there : Has key other) :
    value = other := by
  have found := (reflects key value).mpr here
  rw [(reflects key other).mpr there] at found
  exact (Option.some.inj found).symm

theorem absent (reflects : t.Reflects Has) (missing : t.find? key = none) (value : α) : ¬Has key value := by
  intro there
  rw [(reflects key value).mpr there] at missing
  cases missing

theorem find?_eq (first : t.Reflects Has) (second : t'.Reflects Has) (key : κ) : t.find? key = t'.find? key :=
  Option.ext fun value => (first key value).trans (second key value).symm

theorem insert [LawfulBEq κ] (reflects : t.Reflects Has) {new : α} (missing : t.find? key = none)
    (more : ∀ other value, Has' other value ↔ Has other value ∨ value = new ∧ other = key) :
    (t.insert key new).Reflects Has' := by
  intro other value
  rw [more]
  by_cases same : other = key
  · subst same
    rw [find?_insert_self]
    simp [reflects.absent missing, eq_comm]
  · rw [find?_insert_of_ne _ _ same, reflects other value]
    simp [same]

/-- A table made of pairs that have each key once. -/
theorem ofList [LawfulBEq κ] {pairs : List (κ × α)} (listed : ∀ key value, (key, value) ∈ pairs ↔ Has key value)
    (once : ∀ key value other, Has key value → Has key other → value = other) :
    (Table.ofList pairs).Reflects Has := by
  intro key value
  rw [← listed]
  refine ⟨mem_of_find?_ofList, fun member => find?_ofList_of_unique member fun other there => ?_⟩
  exact once key other value ((listed key other).mp there) ((listed key value).mp member)

end Table.Reflects

theorem Library.importAt_push {lib : Library} {item found : ExtImport} {id : ImportId} :
    importAt { lib with imports := lib.imports.push item } id = .ok found ↔
      lib.importAt id = .ok found ∨ id = ⟨lib.imports.size⟩ ∧ found = item := by
  refine follow_push.trans (or_congr_right (and_congr_left fun _ => ?_))
  exact ⟨congrArg ImportId.mk, congrArg ImportId.index⟩

/-- The same shared types and the same imports stand at the same places. -/
structure Library.SharesWith (lib lib' : Library) : Prop where
  types : ∀ id shape, shape.kind ≠ .struct → (lib'.HasShape id shape ↔ lib.HasShape id shape)
  imports : ∀ id, lib'.importAt id = lib.importAt id

theorem Library.SharesWith.of_same {lib lib' : Library} (types : lib'.types = lib.types)
    (imports : lib'.imports = lib.imports) : lib.SharesWith lib' where
  types id shape _ := by simp only [HasShape, typeAt, types]
  imports id := by simp only [importAt, imports]

theorem Library.SharesWith.modify_type {lib : Library} (place : TypeId) {f : TypeDecl → TypeDecl}
    (kept : ∀ decl, (f decl).shape = decl.shape) :
    lib.SharesWith { lib with types := lib.types.modify place.index f } :=
  ⟨fun _ _ _ => hasShape_modify kept, fun _ => rfl⟩

namespace Builder

/-- The tables of a builder hold the types other than structs by shape and the imports by name, and nothing
else. -/
structure Interned (b : Builder) : Prop where
  types : b.internedTypes.Reflects fun shape id => shape.kind ≠ .struct ∧ b.library.HasShape id shape
  imports : b.importsByName.Reflects fun name id => b.library.importAt id = .ok ⟨name⟩

/-- Two builders of one library, each with tables that hold what there is to share. -/
structure Twin (b b' : Builder) : Prop where
  first : b.Interned
  second : b'.Interned
  library : b.library = b'.library

variable {b b' : Builder}

theorem Interned.start : Interned {} := by
  constructor
  · intro shape id
    refine iff_of_false (by simp) ?_
    rintro ⟨_, _, found, _⟩
    cases found
  · intro name id
    refine iff_of_false (by simp) ?_
    intro found
    cases found

theorem Interned.of_sharesWith {lib : Library} (interned : b.Interned) (same : b.library.SharesWith lib) :
    Interned { b with library := lib } where
  types shape id := by
    rw [interned.types shape id]
    exact and_congr_right fun noStruct => (same.types id shape noStruct).symm
  imports name id := by
    rw [interned.imports name id]
    exact Eq.congr_left (same.imports id).symm

theorem Interned.not_hasShape (interned : b.Interned) {shape : TypeShape} (noStruct : shape.kind ≠ .struct)
    (missing : b.internedTypes.find? shape = none) (id : TypeId) : ¬b.library.HasShape id shape :=
  fun there => interned.types.absent missing id ⟨noStruct, there⟩

theorem Twin.find?_type (twin : b.Twin b') (shape : TypeShape) :
    b.internedTypes.find? shape = b'.internedTypes.find? shape :=
  twin.first.types.find?_eq (twin.library ▸ twin.second.types) shape

theorem Twin.find?_import (twin : b.Twin b') (name : String) :
    b.importsByName.find? name = b'.importsByName.find? name :=
  twin.first.imports.find?_eq (twin.library ▸ twin.second.imports) name

/-- The builder with one more type, known by its shape. -/
def withType (b : Builder) (name : String) (shape : TypeShape) : Builder :=
  { b with
    library.types := b.library.types.push { name, shape }
    internedTypes := b.internedTypes.insert shape ⟨b.library.types.size⟩ }

def withImport (b : Builder) (name : String) : Builder :=
  { b with
    library.imports := b.library.imports.push ⟨name⟩
    importsByName := b.importsByName.insert name ⟨b.library.imports.size⟩ }

theorem internType_eq (b : Builder) (name : String) (shape : TypeShape) :
    internType name shape b = match b.internedTypes.find? shape with
      | some id => .ok (id, b)
      | none => .ok (⟨b.library.types.size⟩, b.withType name shape) := by
  have opened : internType name shape b = (match b.internedTypes.find? shape with
      | some id => (pure id : Build TypeId)
      | none => do
        let id ← addType { name, shape }
        modify fun b : Builder => { b with internedTypes := b.internedTypes.insert shape id }
        return id) b := rfl
  rw [opened]
  cases b.internedTypes.find? shape <;> rfl

theorem extensionImport_eq (b : Builder) (name : String) :
    extensionImport name b = match b.importsByName.find? name with
      | some id => .ok (id, b)
      | none => .ok (⟨b.library.imports.size⟩, b.withImport name) := by
  have opened : extensionImport name b = (match b.importsByName.find? name with
      | some id => (pure id : Build ImportId)
      | none => do
        let id ← addImport ⟨name⟩
        modify fun b : Builder => { b with importsByName := b.importsByName.insert name id }
        return id) b := rfl
  rw [opened]
  cases b.importsByName.find? name <;> rfl

theorem Interned.withType (interned : b.Interned) {shape : TypeShape} (noStruct : shape.kind ≠ .struct)
    (missing : b.internedTypes.find? shape = none) (name : String) : (b.withType name shape).Interned where
  types := by
    refine interned.types.insert missing fun other id => ?_
    have pushed : (b.withType name shape).library.HasShape id other ↔
        b.library.HasShape id other ∨ id = ⟨b.library.types.size⟩ ∧ shape = other := Library.hasShape_push
    rw [pushed, and_or_left]
    refine or_congr_right ⟨fun ⟨_, last, same⟩ => ⟨last, same.symm⟩, ?_⟩
    rintro ⟨last, rfl⟩
    exact ⟨noStruct, last, rfl⟩
  imports := interned.imports

theorem Interned.withImport (interned : b.Interned) {name : String} (missing : b.importsByName.find? name = none) :
    (b.withImport name).Interned where
  types := interned.types
  imports := by
    refine interned.imports.insert missing fun other id => ?_
    refine Library.importAt_push.trans (or_congr_right (and_congr_right fun _ => ?_))
    exact ExtImport.mk.injEq .. ▸ .rfl

/-- Going on with a finished library, a builder finds all that there was to share. -/
theorem Interned.ofLibrary (interned : b.Interned) : (Builder.ofLibrary b.library).Interned where
  types := by
    refine .ofList (fun shape id => ?_) fun _ _ _ => interned.types.unique
    simp only [List.mem_filterMap, Prod.exists, List.mem_zipIdx_iff_getElem?, Array.getElem?_toList]
    constructor
    · rintro ⟨decl, index, found, made⟩
      split at made
      · cases made
      · next noStruct =>
        cases made
        exact ⟨noStruct, decl, Library.follow_eq_ok_iff.mpr found, rfl⟩
    · rintro ⟨noStruct, decl, found, rfl⟩
      exact ⟨decl, id.index, Library.follow_eq_ok_iff.mp found, if_neg noStruct⟩
  imports := by
    refine .ofList (fun name id => ?_) fun _ _ _ => interned.imports.unique
    simp only [List.mem_map, Prod.exists, List.mem_zipIdx_iff_getElem?, Array.getElem?_toList]
    constructor
    · rintro ⟨item, index, found, made⟩
      cases made
      exact Library.follow_eq_ok_iff.mpr found
    · intro found
      exact ⟨⟨name⟩, id.index, Library.follow_eq_ok_iff.mp found, rfl⟩

end Builder

end ShaderGraph
