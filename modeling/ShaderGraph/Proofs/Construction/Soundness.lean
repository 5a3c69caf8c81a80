import Mathlib.Data.List.Basic
import ShaderGraph.Library.Builder
import ShaderGraph.Proofs.Collection.Link

namespace ShaderGraph

open Spirv

def Function.refs (function : Function) : List NodeRef :=
  .type function.functionType :: .block function.parameterBlock :: function.blocks.map .block

def Block.refs (block : Block) : List NodeRef :=
  (block.lines ++ block.locals).map .op

/-- Among the nodes that were given out, in order, `target` is one and came before `node`. -/
def NodeRef.Older (given : List NodeRef) (target node : NodeRef) : Prop :=
  target ∈ given ∧ given.idxOf target < given.idxOf node

theorem NodeRef.Older.of_fresh {given : List NodeRef} {target node : NodeRef} (member : target ∈ given)
    (fresh : node ∉ given) : target.Older given node := by
  refine ⟨member, ?_⟩
  rw [List.idxOf_eq_length_iff.mpr fresh]
  exact List.idxOf_lt_length_iff.mpr member

theorem NodeRef.Older.append {given more : List NodeRef} {target node : NodeRef}
    (older : target.Older given node) : target.Older (given ++ more) node := by
  obtain ⟨member, less⟩ := older
  refine ⟨List.mem_append_left _ member, ?_⟩
  rw [List.idxOf_append_of_mem member]
  by_cases known : node ∈ given
  · rwa [List.idxOf_append_of_mem known]
  · have last := List.idxOf_lt_length_iff.mpr member
    rw [List.idxOf_append_of_notMem known]
    omega

namespace Library

/-- Whether a reference leads to a node. -/
def Holds (lib : Library) : NodeRef → Prop
  | .type id => id.index < lib.types.size
  | .function id => id.index < lib.functions.size
  | .block id => id.index < lib.blocks.size
  | .op id => id.index < lib.ops.size
  | .literal id => id.index < lib.literals.size
  | .extImport id => id.index < lib.imports.size

def HasShape (lib : Library) (id : TypeId) (shape : TypeShape) : Prop :=
  ∃ decl, lib.typeAt id = .ok decl ∧ decl.shape = shape

/-- A type is made of older nodes; its pointer is a pointer to it and nothing else. -/
structure SoundType (lib : Library) (given : List NodeRef) (id : TypeId) (decl : TypeDecl) : Prop where
  refs : ∀ ref ∈ decl.shape.refs, ref.Older given (.type id)
  pointer : ∀ target, decl.pointer = some target →
    ∃ storageClass, lib.HasShape target { kind := .pointer storageClass, dereference := some id }
  functions : ∀ function ∈ decl.functions, lib.Holds (.function function)

/-- An instruction is made of older nodes and of literals, which need not have been given out. -/
def SoundOp (lib : Library) (given : List NodeRef) (id : OpId) (op : Op) : Prop :=
  ∀ ref ∈ op.refs, ref.Older given (.op id) ∨ ∃ literal, ref = .literal literal ∧ lib.Holds ref

/-- All references in a library lead to nodes, those that make up a type or an instruction to older ones. -/
structure Sound (lib : Library) (given : List NodeRef) : Prop where
  held : ∀ node ∈ given, lib.Holds node
  types : ∀ id decl, lib.typeAt id = .ok decl → lib.SoundType given id decl
  ops : ∀ id op, lib.opAt id = .ok op → lib.SoundOp given id op
  functions : ∀ id function, lib.functionAt id = .ok function → ∀ ref ∈ function.refs, lib.Holds ref
  blocks : ∀ id block, lib.blockAt id = .ok block → ∀ ref ∈ block.refs, lib.Holds ref
  initializers : ∀ id function, lib.initializer? id = some function → lib.Holds (.function function)

/-- A library keeps its nodes, and its types their shapes. -/
structure Grows (lib lib' : Library) : Prop where
  holds : ∀ node, lib.Holds node → lib'.Holds node
  shapes : ∀ id shape, lib.HasShape id shape → lib'.HasShape id shape

section Follow

variable {α : Type} {nodes : Array α} {index : Nat} {node : NodeRef} {found : α}

theorem follow_eq_ok_iff : follow nodes index node = .ok found ↔ nodes[index]? = some found := by
  unfold follow
  split <;> simp_all

theorem exists_follow_iff : (∃ found, follow nodes index node = .ok found) ↔ index < nodes.size := by
  simp [follow_eq_ok_iff, Array.getElem?_eq_some_iff]

theorem follow_eq_error_iff {cause : Abort} :
    follow nodes index node = .error cause ↔ ¬index < nodes.size ∧ cause = .missingNode node := by
  unfold follow
  split
  · next found => simp [(Array.getElem?_eq_some_iff.mp found).1]
  · next missing => simp [Array.getElem?_eq_none_iff.mp missing, eq_comm]

theorem follow_push {new : α} : follow (nodes.push new) index node = .ok found ↔
    follow nodes index node = .ok found ∨ index = nodes.size ∧ found = new := by
  simp only [follow_eq_ok_iff, Array.getElem?_push]
  by_cases last : index = nodes.size
  · simp [last, eq_comm]
  · simp [last]

theorem follow_modify {place : Nat} {f : α → α} : follow (nodes.modify place f) index node = .ok found ↔
    ∃ old, follow nodes index node = .ok old ∧ (if place = index then f old else old) = found := by
  simp only [follow_eq_ok_iff, Array.getElem?_modify]
  by_cases same : place = index
  · simp [same]
  · simp [same]

end Follow

variable {lib lib' : Library} {given : List NodeRef}

/-- A name is refused only for a node that is missing. The name of a block does not depend on the block. -/
theorem displayName_eq_error_iff {node : NodeRef} {cause : Abort} :
    lib.displayName node = .error cause ↔ node.isBlock = false ∧ ¬lib.Holds node ∧ cause = .missingNode node := by
  have named {α : Type} {nodes : Array α} {index : Nat} {text : α → String} :
      (do return text (← follow nodes index node)) = Except.error cause ↔
        ¬index < nodes.size ∧ cause = .missingNode node := by
    rw [Outcome.bind_eq_error_iff, follow_eq_error_iff, or_iff_left]
    rintro ⟨_, _, ⟨⟩⟩
  cases node with
  | block id => exact iff_of_false nofun nofun
  | type id => exact named.trans (and_iff_right rfl).symm
  | function id => exact named.trans (and_iff_right rfl).symm
  | op id => exact named.trans (and_iff_right rfl).symm
  | literal id => exact named.trans (and_iff_right rfl).symm
  | extImport id => exact named.trans (and_iff_right rfl).symm

theorem HasShape.holds {id : TypeId} {shape : TypeShape} (has : lib.HasShape id shape) :
    lib.Holds (.type id) := by
  obtain ⟨decl, atId, _⟩ := has
  exact exists_follow_iff.mp ⟨decl, atId⟩

theorem hasShape_push {decl : TypeDecl} {id : TypeId} {shape : TypeShape} :
    HasShape { lib with types := lib.types.push decl } id shape ↔
      lib.HasShape id shape ∨ id = ⟨lib.types.size⟩ ∧ decl.shape = shape := by
  constructor
  · rintro ⟨found, atId, rfl⟩
    rcases follow_push.mp atId with old | ⟨last, rfl⟩
    · exact .inl ⟨found, old, rfl⟩
    · exact .inr ⟨congrArg TypeId.mk last, rfl⟩
  · rintro (⟨found, atId, rfl⟩ | ⟨rfl, rfl⟩)
    · exact ⟨found, follow_push.mpr (.inl atId), rfl⟩
    · exact ⟨decl, follow_push.mpr (.inr ⟨rfl, rfl⟩), rfl⟩

theorem hasShape_modify {place id : TypeId} {f : TypeDecl → TypeDecl} {shape : TypeShape}
    (kept : ∀ decl, (f decl).shape = decl.shape) :
    HasShape { lib with types := lib.types.modify place.index f } id shape ↔ lib.HasShape id shape := by
  have reshaped (old : TypeDecl) (here : Prop) [Decidable here] : (if here then f old else old).shape = old.shape := by
    split
    · exact kept old
    · rfl
  constructor
  · rintro ⟨_, found, rfl⟩
    obtain ⟨old, atOld, rfl⟩ := follow_modify.mp found
    exact ⟨old, atOld, (reshaped old _).symm⟩
  · rintro ⟨old, atOld, rfl⟩
    exact ⟨_, follow_modify.mpr ⟨old, atOld, rfl⟩, reshaped old _⟩

theorem Grows.of_sizes (shapes : ∀ id shape, lib.HasShape id shape → lib'.HasShape id shape)
    (sizes : lib.types.size ≤ lib'.types.size ∧ lib.functions.size ≤ lib'.functions.size ∧
      lib.blocks.size ≤ lib'.blocks.size ∧ lib.ops.size ≤ lib'.ops.size ∧
      lib.literals.size ≤ lib'.literals.size ∧ lib.imports.size ≤ lib'.imports.size) : lib.Grows lib' where
  holds node held := by
    obtain ⟨types, functions, blocks, ops, literals, imports⟩ := sizes
    cases node with
    | type id => exact Nat.lt_of_lt_of_le held types
    | function id => exact Nat.lt_of_lt_of_le held functions
    | block id => exact Nat.lt_of_lt_of_le held blocks
    | op id => exact Nat.lt_of_lt_of_le held ops
    | literal id => exact Nat.lt_of_lt_of_le held literals
    | extImport id => exact Nat.lt_of_lt_of_le held imports
  shapes := shapes

theorem SoundType.mono {id : TypeId} {decl : TypeDecl} (sound : lib.SoundType given id decl)
    (grows : lib.Grows lib') : lib'.SoundType given id decl where
  refs := sound.refs
  pointer target known := by
    obtain ⟨storageClass, has⟩ := sound.pointer target known
    exact ⟨storageClass, grows.shapes _ _ has⟩
  functions function member := grows.holds _ (sound.functions function member)

theorem SoundOp.mono {id : OpId} {op : Op} (sound : lib.SoundOp given id op) (grows : lib.Grows lib') :
    lib'.SoundOp given id op := by
  intro ref member
  refine (sound ref member).imp_right ?_
  intro ⟨literal, same, held⟩
  exact ⟨literal, same, grows.holds _ held⟩

/-- In a library that grows, only what is new or changed has to be looked at. -/
theorem Sound.of_grows (sound : lib.Sound given) (grows : lib.Grows lib')
    (types : ∀ id decl, lib'.typeAt id = .ok decl → lib.typeAt id = .ok decl ∨ lib'.SoundType given id decl)
    (ops : ∀ id op, lib'.opAt id = .ok op → lib.opAt id = .ok op ∨ lib'.SoundOp given id op)
    (functions : ∀ id function, lib'.functionAt id = .ok function →
      lib.functionAt id = .ok function ∨ ∀ ref ∈ function.refs, lib'.Holds ref)
    (blocks : ∀ id block, lib'.blockAt id = .ok block →
      lib.blockAt id = .ok block ∨ ∀ ref ∈ block.refs, lib'.Holds ref)
    (initializers : ∀ id function, lib'.initializer? id = some function →
      lib.initializer? id = some function ∨ lib'.Holds (.function function)) : lib'.Sound given where
  held node member := grows.holds _ (sound.held node member)
  types id decl atId := by
    rcases types id decl atId with old | new
    · exact (sound.types id decl old).mono grows
    · exact new
  ops id op atId := by
    rcases ops id op atId with old | new
    · exact (sound.ops id op old).mono grows
    · exact new
  functions id function atId ref member := by
    rcases functions id function atId with old | new
    · exact grows.holds _ (sound.functions id function old ref member)
    · exact new ref member
  blocks id block atId ref member := by
    rcases blocks id block atId with old | new
    · exact grows.holds _ (sound.blocks id block old ref member)
    · exact new ref member
  initializers id function known := by
    rcases initializers id function known with old | new
    · exact grows.holds _ (sound.initializers id function old)
    · exact new

theorem SoundType.give {id : TypeId} {decl : TypeDecl} {more : List NodeRef}
    (sound : lib.SoundType given id decl) : lib.SoundType (given ++ more) id decl :=
  ⟨fun ref member => (sound.refs ref member).append, sound.pointer, sound.functions⟩

/-- Nodes that are there can be given out. -/
theorem Sound.give (sound : lib.Sound given) {more : List NodeRef} (held : ∀ node ∈ more, lib.Holds node) :
    lib.Sound (given ++ more) where
  held node member := (List.mem_append.mp member).elim (sound.held node) (held node)
  types id decl atId := (sound.types id decl atId).give
  ops id op atId ref member := (sound.ops id op atId ref member).imp_left (·.append)
  functions := sound.functions
  blocks := sound.blocks
  initializers := sound.initializers

/-! New nodes. -/

theorem Grows.push_type (lib : Library) (decl : TypeDecl) :
    lib.Grows { lib with types := lib.types.push decl } :=
  .of_sizes (fun _ _ has => hasShape_push.mpr (.inl has)) (by simp)

/-- A type made of nodes that were given out. -/
theorem Sound.push_type (sound : lib.Sound given) {decl : TypeDecl}
    (refs : ∀ ref ∈ decl.shape.refs, ref ∈ given) (noPointer : decl.pointer = none)
    (noFunctions : decl.functions = []) :
    Sound { lib with types := lib.types.push decl } given := by
  refine sound.of_grows (.push_type lib decl) ?_ (fun _ _ => .inl) (fun _ _ => .inl) (fun _ _ => .inl)
    (fun _ _ => .inl)
  intro id other atId
  refine (follow_push.mp atId).imp_right ?_
  intro ⟨last, same⟩
  subst same
  have fresh : .type id ∉ given := fun member => absurd (sound.held _ member) (by simp [Holds, last])
  exact ⟨fun ref member => .of_fresh (refs ref member) fresh, by simp [noPointer], by simp [noFunctions]⟩

theorem Grows.push_op (lib : Library) (op : Op) : lib.Grows { lib with ops := lib.ops.push op } :=
  .of_sizes (fun _ _ has => has) (by simp)

/-- An instruction made of nodes that were given out and of literals. -/
theorem Sound.push_op (sound : lib.Sound given) {op : Op}
    (refs : ∀ ref ∈ op.refs, ref ∈ given ∨ ∃ literal, ref = .literal literal ∧ lib.Holds ref) :
    Sound { lib with ops := lib.ops.push op } given := by
  refine sound.of_grows (.push_op lib op) (fun _ _ => .inl) ?_ (fun _ _ => .inl) (fun _ _ => .inl)
    (fun _ _ => .inl)
  intro id other atId
  refine (follow_push.mp atId).imp_right ?_
  intro ⟨last, same⟩ ref member
  subst same
  have fresh : .op id ∉ given := fun member => absurd (sound.held _ member) (by simp [Holds, last])
  refine (refs ref member).imp (fun old => .of_fresh old fresh) ?_
  intro ⟨literal, same, held⟩
  exact ⟨literal, same, (Grows.push_op lib _).holds _ held⟩

theorem Grows.push_function (lib : Library) (function : Function) :
    lib.Grows { lib with functions := lib.functions.push function } :=
  .of_sizes (fun _ _ has => has) (by simp)

theorem Sound.push_function (sound : lib.Sound given) {function : Function}
    (refs : ∀ ref ∈ function.refs, lib.Holds ref) :
    Sound { lib with functions := lib.functions.push function } given := by
  refine sound.of_grows (.push_function lib function) (fun _ _ => .inl) (fun _ _ => .inl) ?_
    (fun _ _ => .inl) (fun _ _ => .inl)
  intro id other atId
  refine (follow_push.mp atId).imp_right ?_
  intro ⟨_, same⟩ ref member
  subst same
  exact (Grows.push_function lib _).holds _ (refs ref member)

theorem Grows.push_block (lib : Library) (block : Block) :
    lib.Grows { lib with blocks := lib.blocks.push block } :=
  .of_sizes (fun _ _ has => has) (by simp)

theorem Sound.push_empty_block (sound : lib.Sound given) :
    Sound { lib with blocks := lib.blocks.push ⟨[], []⟩ } given := by
  refine sound.of_grows (.push_block lib _) (fun _ _ => .inl) (fun _ _ => .inl) (fun _ _ => .inl) ?_
    (fun _ _ => .inl)
  intro id other atId
  refine (follow_push.mp atId).imp_right ?_
  intro ⟨_, same⟩ ref member
  subst same
  cases member

theorem Grows.push_literal (lib : Library) (value : Literal) :
    lib.Grows { lib with literals := lib.literals.push value } :=
  .of_sizes (fun _ _ has => has) (by simp)

theorem Grows.push_import (lib : Library) (item : ExtImport) :
    lib.Grows { lib with imports := lib.imports.push item } :=
  .of_sizes (fun _ _ has => has) (by simp)

/-! Changes of nodes. -/

theorem Grows.modify_type {id : TypeId} {f : TypeDecl → TypeDecl} (kept : ∀ decl, (f decl).shape = decl.shape) :
    lib.Grows { lib with types := lib.types.modify id.index f } :=
  .of_sizes (fun _ _ has => (hasShape_modify kept).mpr has) (by simp)

/-- A type keeps its shape and gets a pointer to it, or another function. -/
theorem Sound.modify_type (sound : lib.Sound given) {id : TypeId} {f : TypeDecl → TypeDecl}
    (kept : ∀ decl, (f decl).shape = decl.shape)
    (pointer : ∀ decl target, (f decl).pointer = some target → decl.pointer = some target ∨
      ∃ storageClass, lib.HasShape target { kind := .pointer storageClass, dereference := some id })
    (functions : ∀ decl, ∀ function ∈ (f decl).functions,
      function ∈ decl.functions ∨ lib.Holds (.function function)) :
    Sound { lib with types := lib.types.modify id.index f } given := by
  have grows : lib.Grows { lib with types := lib.types.modify id.index f } := .modify_type kept
  refine sound.of_grows grows ?_ (fun _ _ => .inl) (fun _ _ => .inl) (fun _ _ => .inl) (fun _ _ => .inl)
  intro other decl atOther
  obtain ⟨old, atOld, rfl⟩ := follow_modify.mp atOther
  split
  · next place =>
    obtain rfl : id = other := by cases id; cases other; exact congrArg TypeId.mk place
    have before := sound.types id old atOld
    refine .inr ⟨by rw [kept]; exact before.refs, fun target known => ?_, fun function member => ?_⟩
    · rcases pointer old target known with same | ⟨storageClass, has⟩
      · exact (before.mono grows).pointer target same
      · exact ⟨storageClass, grows.shapes _ _ has⟩
    · rcases functions old function member with same | held
      · exact (before.mono grows).functions function same
      · exact grows.holds _ held
  · exact .inl atOld

theorem Sound.modify_op (sound : lib.Sound given) {id : OpId} {f : Op → Op}
    (kept : ∀ op, (f op).refs = op.refs) :
    Sound { lib with ops := lib.ops.modify id.index f } given := by
  have grows : lib.Grows { lib with ops := lib.ops.modify id.index f } :=
    .of_sizes (fun _ _ has => has) (by simp)
  refine sound.of_grows grows (fun _ _ => .inl) ?_ (fun _ _ => .inl) (fun _ _ => .inl) (fun _ _ => .inl)
  intro other op atOther
  obtain ⟨old, atOld, rfl⟩ := follow_modify.mp atOther
  have before : SoundOp _ given other old := (sound.ops other old atOld).mono grows
  split
  · exact .inr (by rw [SoundOp, kept]; exact before)
  · exact .inl atOld

theorem Sound.modify_function (sound : lib.Sound given) {id : FunctionId} {f : Function → Function}
    (refs : ∀ function, ∀ ref ∈ (f function).refs, ref ∈ function.refs ∨ lib.Holds ref) :
    Sound { lib with functions := lib.functions.modify id.index f } given := by
  have grows : lib.Grows { lib with functions := lib.functions.modify id.index f } :=
    .of_sizes (fun _ _ has => has) (by simp)
  refine sound.of_grows grows (fun _ _ => .inl) (fun _ _ => .inl) ?_ (fun _ _ => .inl) (fun _ _ => .inl)
  intro other function atOther
  obtain ⟨old, atOld, rfl⟩ := follow_modify.mp atOther
  split
  · refine .inr fun ref member => grows.holds _ ?_
    rcases refs old ref member with same | held
    · exact sound.functions other old atOld ref same
    · exact held
  · exact .inl atOld

theorem Sound.modify_block (sound : lib.Sound given) {id : BlockId} {f : Block → Block}
    (refs : ∀ block, ∀ ref ∈ (f block).refs, ref ∈ block.refs ∨ lib.Holds ref) :
    Sound { lib with blocks := lib.blocks.modify id.index f } given := by
  have grows : lib.Grows { lib with blocks := lib.blocks.modify id.index f } :=
    .of_sizes (fun _ _ has => has) (by simp)
  refine sound.of_grows grows (fun _ _ => .inl) (fun _ _ => .inl) (fun _ _ => .inl) ?_ (fun _ _ => .inl)
  intro other block atOther
  obtain ⟨old, atOld, rfl⟩ := follow_modify.mp atOther
  split
  · refine .inr fun ref member => grows.holds _ ?_
    rcases refs old ref member with same | held
    · exact sound.blocks other old atOld ref same
    · exact held
  · exact .inl atOld

end Library

end ShaderGraph
