import Mathlib.Data.List.Perm.Basic
import ShaderGraph.Proofs.Emission.Section

namespace ShaderGraph

open Spirv

namespace Library

variable {lib : Library} {root : NodeRef} {c : Closure}

section Module

variable (reaches : c.IsReachablePart lib [root]) (placed : lib.WellPlaced root c.functions)

include reaches placed

omit placed in
theorem reachable_of_op? {part : ModulePart} {id : OpId} (member : part ∈ lib.outline c) (own : id ∈ part.op?) :
    lib.Reachable [root] (.op id) := by
  have belongs := belongsTo_of_mem_outline member
  match part, own, belongs with
  | .declaration (.op _), rfl, belongs => exact reachable_of_mem_order reaches belongs
  | .line _, rfl, belongs =>
    obtain ⟨function, listed, inside⟩ := List.mem_flatMap.mp belongs
    exact ((reaches.functions function).mp listed).of_functionOps inside

/-- At the places of results stand, in order, the nodes that a module defines. -/
theorem slots_moduleLines {interface : List OpId} {lines : List Line}
    (found : lib.moduleLines c interface = .ok lines) :
    lines.filterMap (Line.slot? lib) = (lib.definitions c).map Sum.inl := by
  have each : ∀ part ∈ lib.outline c, ∀ line, Line.mk part.op? <$> lib.write interface part = .ok line →
      line.slot? lib = (lib.defined? part).map Sum.inl := by
    intro part member line made
    obtain ⟨draft, written, rfl⟩ := Outcome.map_eq_ok_iff.mp made
    refine Line.slot?_part (instructs_of_write written) (fun id own op atId => ?_) fun id declared => ?_
    · exact placed.opcodes id op (reachable_of_op? reaches member own) atId
    · subst declared
      obtain ⟨reachable, op, atId, declaration⟩ := (op_mem_order_iff reaches).mp (belongsTo_of_mem_outline member)
      rw [hasResult_eq atId, (placed.declarations id op reachable atId declaration).1]
  rw [Outcome.filterMap_of_mapM found each, ← List.map_filterMap, filterMap_defined?_outline]

theorem mem_definitions_of_mention {interface : List OpId} (interfaced : ∀ id ∈ interface, id ∈ c.globals)
    {lines : List Line} (found : lib.moduleLines c interface = .ok lines) {line : Line} (inside : line ∈ lines)
    {node : NodeRef} (mention : node ∈ line.draft.mentions) : node ∈ lib.definitions c := by
  obtain ⟨part, member, made⟩ := Outcome.exists_of_mapM found inside
  obtain ⟨draft, written, rfl⟩ := Outcome.map_eq_ok_iff.mp made
  exact part_mentions reaches placed interfaced member (instructs_of_write written) mention

theorem results_moduleLines {interface : List OpId} {lines : List Line}
    (found : lib.moduleLines c interface = .ok lines) (idOf : NodeRef → UInt32) :
    lines.filterMap (Line.result? lib idOf) = (lib.definitions c).map idOf := by
  have slots := slots_moduleLines reaches placed found
  have each : Line.result? lib idOf = fun line => (line.slot? lib).map (Sum.elim idOf id) :=
    funext (Line.result?_eq idOf)
  rw [each, ← List.map_filterMap, slots, List.map_map]
  rfl

omit reaches placed in
/-- The definitions in functions, sorted: functions, labels, and instructions with a result. -/
theorem functionDefinitions_perm (lib : Library) (functions : List FunctionId) :
    (functions.flatMap lib.functionDefinitions).Perm (functions.map .function ++
      ((functions.flatMap lib.bodyBlocks).map .block ++
        (functions.flatMap lib.functionOps).filterMap lib.resultOf?)) := by
  have blocks (ids : List BlockId) : (ids.flatMap lib.blockDefinitions).Perm
      (ids.map .block ++ (ids.flatMap lib.blockOps).filterMap lib.resultOf?) := by
    rw [List.filterMap_flatMap]
    exact (List.map_append_flatMap_perm ids _ _).symm
  have each (id : FunctionId) : (lib.functionDefinitions id).Perm (.function id ::
      ((lib.bodyBlocks id).map .block ++ (lib.functionOps id).filterMap lib.resultOf?)) := by
    rw [functionDefinitions, List.cons_append, functionOps, List.filterMap_append]
    refine .cons _ (((blocks _).append_left _).trans ?_)
    exact List.perm_append_comm_assoc _ _ _
  refine (List.Perm.flatMap_left functions fun id _ => each id).trans ?_
  refine (List.map_append_flatMap_perm functions _ _).symm.trans (.append_left _ ?_)
  rw [List.filterMap_flatMap, List.map_flatMap]
  exact (List.flatMap_append_perm functions _ _).symm

theorem nodup_results : ((c.functions.flatMap lib.functionOps).filter lib.hasResult).Nodup := by
  rw [List.nodup_iff_count_le_one]
  intro id
  by_cases listed : id ∈ (c.functions.flatMap lib.functionOps).filter lib.hasResult
  · obtain ⟨member, has⟩ := List.mem_filter.mp listed
    obtain ⟨function, inside, place⟩ := List.mem_flatMap.mp member
    have reachable := ((reaches.functions function).mp inside).of_functionOps place
    obtain ⟨op, atId, _⟩ := opAt_of_hasResult has
    have noDeclaration : ¬lib.IsDeclaration op := fun declaration =>
      (placed.declarations id op reachable atId declaration).2 member
    rw [← placed.others id op reachable atId noDeclaration]
    exact List.filter_sublist.count_le id
  · rw [List.count_eq_zero_of_not_mem listed]
    exact Nat.zero_le 1

/-- No node is defined twice. -/
theorem nodup_definitions (order : c.order.Nodup) (functions : c.functions.Nodup) (imports : c.imports.Nodup) :
    (lib.definitions c).Nodup := by
  rw [definitions, ((functionDefinitions_perm lib c.functions).append_left _).nodup_iff, filterMap_resultOf?]
  have single := nodup_results reaches placed
  have apart {node : NodeRef} (ordered : node ∈ c.order) :
      (∃ id, node = .type id) ∨ ∃ id, node = .op id ∧ id ∉ c.functions.flatMap lib.functionOps := by
    cases node with
    | type id => exact .inl ⟨id, rfl⟩
    | op id =>
      obtain ⟨reachable, op, atId, declaration⟩ := (op_mem_order_iff reaches).mp ordered
      exact .inr ⟨id, rfl, (placed.declarations id op reachable atId declaration).2⟩
    | _ => simp [reaches.order] at ordered
  refine List.nodup_append.mpr ⟨List.nodup_append.mpr ⟨?_, order, ?_⟩, List.nodup_append.mpr ⟨?_,
    List.nodup_append.mpr ⟨?_, ?_, ?_⟩, ?_⟩, ?_⟩
  · exact imports.map fun _ _ => NodeRef.extImport.inj
  · intro node listed other ordered same
    obtain ⟨id, _, rfl⟩ := List.mem_map.mp listed
    subst same
    simpa using apart ordered
  · exact functions.map fun _ _ => NodeRef.function.inj
  · exact placed.blocks.map fun _ _ => NodeRef.block.inj
  · exact single.map fun _ _ => NodeRef.op.inj
  · intro node listed other inside same
    obtain ⟨id, _, rfl⟩ := List.mem_map.mp listed
    obtain ⟨op, _, rfl⟩ := List.mem_map.mp inside
    cases same
  · intro node listed other inside same
    obtain ⟨id, _, rfl⟩ := List.mem_map.mp listed
    subst same
    simp at inside
  · intro node listed other inside same
    subst same
    rcases List.mem_append.mp listed with isImport | ordered
    · obtain ⟨id, _, rfl⟩ := List.mem_map.mp isImport
      simp at inside
    · rcases apart ordered with ⟨id, rfl⟩ | ⟨id, rfl, absent⟩
      · simp at inside
      · have result : id ∈ (c.functions.flatMap lib.functionOps).filter lib.hasResult := by simpa using inside
        exact absent (List.mem_filter.mp result).1

end Module

/-- The nodes that get an id are those that the module defines. -/
theorem numbering_perm (reaches : c.IsReachablePart lib [root]) (placed : lib.WellPlaced root c.functions)
    (once : (lib.definitions c).Nodup) {interface : List OpId} {lines : List Line}
    (interfaced : ∀ id ∈ interface, id ∈ c.globals) (found : lib.moduleLines c interface = .ok lines) :
    (lib.definitions c).Perm (numbering c interface (lines.map Line.draft)).nodes := by
  refine (List.perm_ext_iff_of_nodup once (Numbering.nodup_ofMentions _)).mpr fun node => ?_
  rw [Numbering.mem_ofMentions]
  constructor
  · intro defined
    have slot : Sum.inl node ∈ lines.filterMap (Line.slot? lib) := by
      rw [slots_moduleLines reaches placed found]
      exact List.mem_map_of_mem defined
    obtain ⟨line, inside, atPlace⟩ := List.mem_filterMap.mp slot
    refine List.mem_append_right _ (List.mem_flatMap.mpr ⟨line.draft, ?_, Line.mem_mentions_of_slot? atPlace⟩)
    exact List.mem_map_of_mem inside
  · intro mentioned
    simp only [List.mem_append, List.mem_map, List.mem_flatMap] at mentioned
    rcases mentioned with (⟨id, listed, rfl⟩ | ⟨id, listed, rfl⟩) | ⟨draft, ⟨line, inside, rfl⟩, mention⟩
    · exact import_mem_definitions reaches ((reaches.imports id).mp listed)
    · have ordered := (reaches.order (.op id)).mpr (.inr (.inr ⟨id, interfaced id listed, rfl⟩))
      simp [definitions, ordered]
    · exact mem_definitions_of_mention reaches placed interfaced found inside mention

theorem ring_opAt {id : OpId} {op : Op} (atId : ring.opAt id = .ok op) :
    id = ⟨0⟩ ∧ op = { opcode := .opVariable, resultType := some ⟨1⟩, args := [.literal ⟨0⟩] } ∨
      id = ⟨1⟩ ∧ op = { opcode := .opLoad, resultType := some ⟨0⟩, args := [.op ⟨0⟩] } := by
  obtain ⟨index⟩ := id
  match index, atId with
  | 0, atId => cases atId; exact .inl ⟨rfl, rfl⟩
  | 1, atId => cases atId; exact .inr ⟨rfl, rfl⟩
  | _ + 2, atId => cases atId

theorem ring_parameters {id : TypeId} {decl : TypeDecl} (atId : ring.typeAt id = .ok decl) :
    ∀ target ∈ decl.shape.parameters, target = .type ⟨1⟩ := by
  obtain ⟨index⟩ := id
  match index, atId with
  | 0, atId => cases atId; simp [ring]
  | 1, atId => cases atId; simp [ring]
  | 2, atId => cases atId; simp [ring]
  | 3, atId => cases atId; simp [ring]
  | _ + 4, atId => cases atId

theorem ring_wellPlaced : ring.WellPlaced (.type ⟨0⟩) [⟨0⟩] where
  declarations id op _ atId declaration := by
    rcases ring_opAt atId with ⟨rfl, rfl⟩ | ⟨rfl, rfl⟩
    · decide
    · rcases declaration with isConstant | ⟨isVariable, _⟩
      · cases isConstant
      · cases isVariable
  others id op _ atId noDeclaration := by
    rcases ring_opAt atId with ⟨rfl, rfl⟩ | ⟨rfl, rfl⟩
    · exact absurd (.inr ⟨rfl, ⟨0⟩, [], 6, StorageClass.priv, rfl, rfl, by decide, by decide⟩) noDeclaration
    · decide
  blocks := by decide
  results node id _ operand := by
    cases operand with
    | parameter atId member => cases ring_parameters atId _ member
    | argument atId member =>
      rcases ring_opAt atId with ⟨rfl, rfl⟩ | ⟨rfl, rfl⟩
      · cases List.mem_singleton.mp member
      · cases List.mem_singleton.mp member
        decide
  targets node id _ operand := by
    cases operand with
    | parameter atId member => cases ring_parameters atId _ member
    | argument atId member =>
      rcases ring_opAt atId with ⟨rfl, rfl⟩ | ⟨rfl, rfl⟩ <;> cases List.mem_singleton.mp member
  branches id op _ atId branch := by
    rcases ring_opAt atId with ⟨rfl, rfl⟩ | ⟨rfl, rfl⟩ <;> cases branch
  opcodes id op _ atId := by
    rcases ring_opAt atId with ⟨rfl, rfl⟩ | ⟨rfl, rfl⟩ <;> decide

end Library

end ShaderGraph
