import ShaderGraph.Proofs.Collection.Termination
import ShaderGraph.Proofs.Construction.Session

namespace ShaderGraph

open Spirv

/-- Whether a node is a place of code, which may refer to itself and to what was made after it. -/
def NodeRef.isCode : NodeRef → Bool
  | .function _ | .block _ => true
  | _ => false

theorem NodeRef.Older.trans {given : List NodeRef} {first second third : NodeRef}
    (older : first.Older given second) (younger : second.Older given third) : first.Older given third :=
  ⟨older.1, Nat.lt_trans older.2 younger.2⟩

theorem NodeRef.Older.irrefl {given : List NodeRef} {node : NodeRef} : ¬node.Older given node :=
  fun older => Nat.lt_irrefl _ older.2

namespace Library

variable {lib : Library} {given : List NodeRef}

/-- A node needs only older nodes and literals. -/
theorem Sound.older_of_needs (sound : lib.Sound given) {node target : NodeRef} (needs : lib.Needs node target) :
    target.Older given node ∨ ∃ literal, target = .literal literal ∧ lib.Holds target := by
  cases node with
  | type id =>
    obtain ⟨decl, atId, member⟩ := needs_type_iff.mp needs
    exact .inl ((sound.types id decl atId).refs target member)
  | op id =>
    obtain ⟨op, atId, member⟩ := needs.mem_op_refs
    exact sound.ops id op atId target member
  | _ => cases needs

theorem Sound.older_of_dependsOn (sound : lib.Sound given) {node target : NodeRef}
    (depends : lib.DependsOn node target) : target.Older given node := by
  obtain ⟨needs, task, declares⟩ := depends
  rcases sound.older_of_needs needs with older | ⟨literal, rfl, _⟩
  · exact older
  · cases declares

theorem Sound.holds_of_link (sound : lib.Sound given) {node target : NodeRef} (link : lib.Link node target) :
    lib.Holds target := by
  cases link with
  | needs needs =>
    rcases sound.older_of_needs needs with older | ⟨_, _, held⟩
    · exact sound.held _ older.1
    · exact held
  | pointer atId known =>
    obtain ⟨storageClass, has⟩ := (sound.types _ _ atId).pointer _ known
    exact has.holds
  | owned atId member => exact (sound.types _ _ atId).functions _ member
  | signature atId => exact sound.functions _ _ atId _ (by simp [Function.refs])
  | parameterBlock atId => exact sound.functions _ _ atId _ (by simp [Function.refs])
  | body atId member => exact sound.functions _ _ atId _ (by simp [Function.refs, member])
  | line atId member => exact sound.blocks _ _ atId _ (by simp [Block.refs, member])
  | localVariable atId member => exact sound.blocks _ _ atId _ (by simp [Block.refs, member])
  | initializer _ _ known => exact sound.initializers _ _ known

/-- A walk over a sound library can go on from every node. -/
theorem Sound.not_dangles (sound : lib.Sound given) {node missing : NodeRef} (held : lib.Holds node) :
    ¬lib.Dangles node missing := by
  intro dangles
  cases dangles with
  | node _ absent => exact absent held
  | @storageClass id op literal rest atId _ args absent =>
    refine absent ?_
    rcases sound.ops id op atId (.literal literal) (by simp [Op.refs, args]) with older | ⟨_, _, held⟩
    · exact sound.held _ older.1
    · exact held

theorem Sound.holds_of_reachable (sound : lib.Sound given) {root node : NodeRef} (held : lib.Holds root)
    (reachable : lib.Reachable [root] node) : lib.Holds node := by
  rcases reachable.eq_or_link with rfl | ⟨_, link⟩
  · exact held
  · exact sound.holds_of_link link

/-- The walk from a type of a sound library ends. -/
theorem Sound.exists_dependencies (sound : lib.Sound given) {entry : TypeId} (held : lib.Holds (.type entry)) :
    ∃ c, lib.dependencies (.type entry) = .ok c :=
  Library.exists_dependencies held fun _ _ reachable => sound.not_dangles (sound.holds_of_reachable held reachable)

/-- The nodes that can be reached from what `node` needs without going through code or through `node`:
older ones, literals, and pointers to such nodes, however far. -/
inductive Under (lib : Library) (given : List NodeRef) (node : NodeRef) : NodeRef → Prop
  | older {target} : target.Older given node → Under lib given node target
  | literal {id} : Under lib given node (.literal id)
  | pointer {id target storageClass} : Under lib given node (.type id) → .type id ≠ node →
      lib.HasShape target { kind := .pointer storageClass, dereference := some id } →
      Under lib given node (.type target)

theorem HasShape.mem_refs {id : TypeId} {shape : TypeShape} {target : NodeRef} (has : lib.HasShape id shape)
    (needs : lib.Needs (.type id) target) : target ∈ shape.refs := by
  obtain ⟨decl, atId, rfl⟩ := has
  obtain ⟨other, atOther, member⟩ := needs_type_iff.mp needs
  cases atId.symm.trans atOther
  exact member

theorem Under.needs (sound : lib.Sound given) {node source target : NodeRef}
    (under : lib.Under given node source) (needs : lib.Needs source target) : lib.Under given node target := by
  cases under with
  | older older =>
    rcases sound.older_of_needs needs with first | ⟨literal, rfl, _⟩
    · exact .older (first.trans older)
    · exact .literal
  | literal => cases needs
  | @pointer id _ _ inner _ has =>
    obtain rfl : target = .type id := by simpa [TypeShape.refs] using has.mem_refs needs
    exact inner

theorem Under.link (sound : lib.Sound given) {node source target : NodeRef}
    (under : lib.Under given node source) (other : source ≠ node) (noCode : source.isCode = false)
    (link : lib.Link source target) :
    lib.Under given node target ∨ target.isCode = true := by
  cases link with
  | needs needs => exact .inl (under.needs sound needs)
  | pointer atId known =>
    obtain ⟨storageClass, has⟩ := (sound.types _ _ atId).pointer _ known
    exact .inl (.pointer under other has)
  | owned => exact .inr rfl
  | initializer => exact .inr rfl
  | signature => cases noCode
  | parameterBlock => cases noCode
  | body => cases noCode
  | line => cases noCode
  | localVariable => cases noCode

/-- Nothing of this kind depends on the node itself. -/
theorem Under.not_dependsOn (sound : lib.Sound given) {node source : NodeRef}
    (under : lib.Under given node source) : ¬lib.DependsOn source node := by
  intro depends
  cases under with
  | older older => exact NodeRef.Older.irrefl (older.trans (sound.older_of_dependsOn depends))
  | literal => cases depends.1
  | @pointer id _ _ _ other has =>
    have same : node = .type id := by simpa [TypeShape.refs] using has.mem_refs depends.1
    exact other same.symm

/-- A way from what a node needs goes through code, or stays among older nodes and their pointers. -/
theorem LeadsFromNeeds.code_or_under (sound : lib.Sound given) {node target : NodeRef}
    (leads : lib.LeadsFromNeeds node target) :
    (∃ code, code.isCode = true ∧ lib.LeadsFromNeeds node code ∧ Relation.ReflTransGen lib.Link code target) ∨
      lib.Under given node target := by
  obtain ⟨first, needs, path⟩ := leads
  induction path with
  | refl =>
    right
    rcases sound.older_of_needs needs with older | ⟨literal, rfl, _⟩
    · exact .older older
    · exact .literal
  | @tail source next path link ih =>
    obtain ⟨other, link⟩ := link
    rcases ih with ⟨code, isCode, before, after⟩ | under
    · exact .inl ⟨code, isCode, before, after.tail link⟩
    · cases noCode : source.isCode with
      | true => exact .inl ⟨source, noCode, ⟨first, needs, path⟩, .single link⟩
      | false =>
        refine (under.link sound other noCode link).symm.imp_left fun isCode => ?_
        exact ⟨next, isCode, ⟨first, needs, path.tail ⟨other, link⟩⟩, .refl⟩

end Library

/-- The walk from a type of a library that was built always ends, and each declaration it lists comes
after a node it depends on, except where it was entered while that node still had to be declared. This
happens only where code is met on the way from what the other node needs, and leads back. -/
theorem Session.order_lt_iff_not_entersWithin {calls : List Call} {s : Session}
    (built : calls.foldlM Session.request {} = some s) (entry : TypeId)
    (inside : entry.index < s.builder.library.types.size) :
    ∃ c, s.builder.library.dependencies (.type entry) = .ok c ∧
      ∀ node ∈ c.order, ∀ target, s.builder.library.DependsOn node target →
        (c.order.idxOf target < c.order.idxOf node ↔
          ¬s.builder.library.EntersWithin [.type entry] target node) ∧
        (s.builder.library.EntersWithin [.type entry] target node →
          ∃ code, code.isCode = true ∧ s.builder.library.LeadsFromNeeds target code ∧
            Relation.ReflTransGen s.builder.library.Link code node) := by
  have sound := (Session.Sound.start.requests built).library
  obtain ⟨c, found⟩ := sound.exists_dependencies inside
  obtain ⟨past, w, finished, rfl⟩ := Collecting.of_dependencies found
  refine ⟨w.closure, found, fun node member target depends => ⟨?_, fun within => ?_⟩⟩
  · refine finished.order_lt_iff member depends fun same => ?_
    exact NodeRef.Older.irrefl (same ▸ sound.older_of_dependsOn depends)
  · refine (within.leads.code_or_under sound).resolve_right fun under => ?_
    exact under.not_dependsOn sound depends

/-- A struct with a function that reads a variable of that struct. -/
def Call.selfReading : List Call :=
  [.structType "S" [], .voidType, .functionType ⟨1⟩ [], .function (some ⟨0⟩) "read" ⟨2⟩,
    .pointerType ⟨0⟩ .priv, .globalVariable "g" ⟨3⟩ none, .appendBlock ⟨0⟩,
    .pushOp ⟨1⟩ .opLoad (some ⟨0⟩) [.op ⟨0⟩]]

def Library.selfReading : Library where
  types := #[
    { name := "S", shape := { kind := .struct }, pointer := some ⟨3⟩, functions := [⟨0⟩] },
    { name := "void", shape := { kind := .void } },
    { name := "fn() -> void", shape := { kind := .function, component := some ⟨1⟩ } },
    { name := "ptr<Private, S>", shape := { kind := .pointer .priv, dereference := some ⟨0⟩ } }]
  functions := #[
    { name := "read", functionType := ⟨2⟩, parameterBlock := ⟨0⟩, blocks := [⟨1⟩], executionModel := none }]
  blocks := #[⟨[], []⟩, ⟨[⟨1⟩], []⟩]
  ops := #[
    { opcode := .opVariable, resultType := some ⟨3⟩, args := [.literal ⟨0⟩], debugName := some "g" },
    { opcode := .opLoad, resultType := some ⟨0⟩, args := [.op ⟨0⟩] }]
  literals := #[.int 6]
  typeNames := .insert .empty "S" ⟨0⟩
  globals := .insert .empty ⟨0⟩ ⟨none⟩

theorem Session.selfReading_built : ∃ s, Call.selfReading.foldlM Session.request {} = some s ∧
    s.builder.library = Library.selfReading :=
  ⟨_, rfl, rfl⟩

theorem Library.selfReading_order : (fun c => c.order) <$> Library.selfReading.dependencies (.type ⟨3⟩) =
    .ok [.type ⟨0⟩, .type ⟨1⟩, .type ⟨2⟩, .op ⟨0⟩, .type ⟨3⟩] := by
  decide +kernel

/-- Starting from the pointer, the walk comes to the variable through the function of the struct, and
declares it before its own type. -/
theorem Session.selfReading_variable_first : ∃ s c, Call.selfReading.foldlM Session.request {} = some s ∧
    s.builder.library.dependencies (.type ⟨3⟩) = .ok c ∧ .op ⟨0⟩ ∈ c.order ∧
    s.builder.library.DependsOn (.op ⟨0⟩) (.type ⟨3⟩) ∧
    ¬c.order.idxOf (.type ⟨3⟩) < c.order.idxOf (.op ⟨0⟩) := by
  obtain ⟨s, built, library⟩ := Session.selfReading_built
  obtain ⟨c, found, order⟩ := Outcome.map_eq_ok_iff.mp Library.selfReading_order
  refine ⟨s, c, built, ?_⟩
  rw [library]
  refine ⟨found, ?_, ⟨.resultType rfl rfl, _, .type⟩, ?_⟩
  · rw [order]
    decide
  · rw [order]
    decide

/-- There the variable was entered while its type still had to be declared, and the function of the
struct leads from one to the other. -/
theorem Session.selfReading_enters_variable : ∃ s, Call.selfReading.foldlM Session.request {} = some s ∧
    3 < s.builder.library.types.size ∧ s.builder.library.EntersWithin [.type ⟨3⟩] (.type ⟨3⟩) (.op ⟨0⟩) ∧
    ∃ code, code.isCode = true ∧ s.builder.library.LeadsFromNeeds (.type ⟨3⟩) code ∧
      Relation.ReflTransGen s.builder.library.Link code (.op ⟨0⟩) := by
  obtain ⟨s, built, library⟩ := Session.selfReading_built
  have inside : 3 < s.builder.library.types.size := by
    rw [library]
    decide
  obtain ⟨c, found, precise⟩ := Session.order_lt_iff_not_entersWithin built ⟨3⟩ inside
  rw [library] at found
  obtain ⟨_, again, order⟩ := Outcome.map_eq_ok_iff.mp Library.selfReading_order
  cases found.symm.trans again
  have depends : s.builder.library.DependsOn (.op ⟨0⟩) (.type ⟨3⟩) := by
    rw [library]
    exact ⟨.resultType rfl rfl, _, .type⟩
  obtain ⟨iff, code⟩ := precise (.op ⟨0⟩) (by rw [order]; decide) (.type ⟨3⟩) depends
  have within := not_not.mp (mt iff.mpr (by rw [order]; decide))
  exact ⟨s, built, inside, within, code within⟩

end ShaderGraph
