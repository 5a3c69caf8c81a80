import ShaderGraph.Proofs.Emission.Section
import ShaderGraph.Proofs.Loading.InPlace
import ShaderGraph.Proofs.Loading.ReadBack
import ShaderGraph.Proofs.Pipeline.Optimizer

namespace ShaderGraph

open Spirv

/-- The instructions of a stream without those that do nothing and, if asked for, without names. -/
def leftFrames (stripNames : Bool) (frames : List Frame) : List Frame :=
  frames.filter fun f => f.code ≠ Opcode.opNop.code ∧ (stripNames = true → f.code ≠ Opcode.opName.code)

namespace Library

/-! What an emitted module has to be like for the optimizer to write it as it was. -/

def opcode? (lib : Library) (id : OpId) : Option Opcode :=
  match lib.opAt id with
  | .ok op => some op.opcode
  | .error _ => none

def blockOpcodes (lib : Library) (id : BlockId) : List Opcode :=
  .opLabel :: (lib.blockOps id).filterMap lib.opcode?

/-- The opcodes of a function as they are written. -/
def functionOpcodes (lib : Library) (id : FunctionId) : List Opcode :=
  .opFunction :: (lib.parameterOps id).filterMap lib.opcode? ++ (lib.bodyBlocks id).flatMap lib.blockOpcodes ++
    [.opFunctionEnd]

/-- No instruction of a function is moved to another place when the module is read. -/
def KeepsPlaces (lib : Library) (root : NodeRef) : Prop :=
  ∀ function, lib.Reachable [root] (.function function) →
    ∀ p ∈ Stand.outside.along id (lib.functionOpcodes function), p.2.sectionAt? p.1 = none ∧ Arrangement.Keeps p.1 p.2

/-- No name has a zero in it. -/
structure CleanNames (lib : Library) (root : NodeRef) : Prop where
  imports : ∀ id item, lib.Reachable [root] (.extImport id) → lib.importAt id = .ok item → '\x00' ∉ item.name.toList
  names : ∀ node name, lib.Reachable [root] node → lib.debugName? node = .ok (some name) → '\x00' ∉ name.toList

/-- Besides, texts among the literals of decorations are filled up with zeros. -/
structure TidyTexts (lib : Library) (root : NodeRef) : Prop extends lib.CleanNames root where
  decorations : ∀ id op, lib.Reachable [root] (.op id) → lib.opAt id = .ok op → ∀ decoration ∈ op.decorations,
    paddedTexts (EnumKind.decoration.parameters decoration.kind.code) decoration.literals = true

variable {lib : Library} {c : Closure} {root : NodeRef} {interface : List OpId} {idOf : NodeRef → UInt32}

/-- The opcode that a part of a function is written with. -/
def partOpcode? (lib : Library) : ModulePart → Option Opcode
  | .functionHead _ => some .opFunction
  | .label _ => some .opLabel
  | .functionEnd => some .opFunctionEnd
  | .line id => lib.opcode? id
  | _ => none

theorem filterMap_partOpcode?_functionParts (lib : Library) (id : FunctionId) :
    (lib.functionParts id).filterMap lib.partOpcode? = lib.functionOpcodes id := by
  have lines (ops : List OpId) : (ops.map ModulePart.line).filterMap lib.partOpcode? = ops.filterMap lib.opcode? := by
    rw [List.filterMap_map]
    rfl
  have block (id : BlockId) : (lib.blockParts id).filterMap lib.partOpcode? = lib.blockOpcodes id := by
    have first : lib.partOpcode? (.label id) = some .opLabel := rfl
    rw [blockParts, blockOpcodes, List.filterMap_cons_some first, lines]
  have head : lib.partOpcode? (.functionHead id) = some .opFunction := rfl
  have last : lib.partOpcode? .functionEnd = some .opFunctionEnd := rfl
  simp only [functionParts, functionOpcodes, List.cons_append, List.filterMap_append, List.filterMap_flatMap, block,
    lines, List.filterMap_cons_some head, List.filterMap_cons_some last, List.filterMap_nil]

theorem opcodes_functions {functions : List FunctionId} {bodies : List (List Draft)}
    (found : functions.mapM lib.functionDrafts = .ok bodies) :
    bodies.flatten.map Draft.opcode = functions.flatMap lib.functionOpcodes := by
  rw [← List.filterMap_eq_map]
  refine Outcome.filterMap_flatten_of_mapM found fun id _ drafts made => ?_
  rw [← filterMap_partOpcode?_functionParts]
  refine Outcome.filterMap_of_mapM (write_functionParts [] made) fun part member draft written => ?_
  have instructs := instructs_of_write written
  rcases functionParts_cases member with rfl | ⟨op, _, rfl⟩ | ⟨block, _, rfl⟩ | rfl
  · cases instructs
    rfl
  · cases instructs with
    | line reads =>
      obtain ⟨content, atOp, same⟩ := reads.opcode
      simp [partOpcode?, opcode?, atOp, same]
  · cases instructs
    rfl
  · cases instructs
    rfl

end Library

namespace Spirv.Opcode

theorem section_of_declaration {opcode : Opcode}
    (declares : opcode.isType = true ∨ opcode.isConstant = true ∨ opcode = .opVariable) :
    opcode.sectionAt? .outside = some .declaration ∧ opcode.isTextFree = true := by
  rcases declares with isType | isConstant | rfl
  · cases opcode <;> first | exact ⟨rfl, rfl⟩ | cases isType
  · cases opcode <;> first | exact ⟨rfl, rfl⟩ | cases isConstant
  · exact ⟨rfl, rfl⟩

theorem isTextFree_of_inside {opcode : Opcode} {stand : Stand} (inside : opcode.sectionAt? stand = none) :
    opcode.isTextFree = true := by
  cases opcode <;> first | rfl | cases inside

end Spirv.Opcode

namespace Library

variable {lib : Library} {c : Closure} {root : NodeRef} {interface : List OpId} (idOf : NodeRef → UInt32)

namespace Sections

variable (s : lib.Sections c interface) (reaches : c.IsReachablePart lib [root])
include reaches

theorem tidy_imports (tidy : lib.TidyTexts root) : ∀ draft ∈ s.imports, (draft.frame idOf).Tidy := by
  intro draft inside
  obtain ⟨id, listed, made⟩ := Outcome.exists_of_mapM s.imported inside
  obtain ⟨_, item, atId, rfl⟩ := importDraft_eq_ok made
  have clean := zero_notMem_textBytes (tidy.imports id item ((reaches.imports id).mp listed) atId)
  simpa [Draft.frame, Piece.words] using Frame.Tidy.imported (idOf (.extImport id)) clean

theorem tidy_entryPoints (tidy : lib.TidyTexts root) : ∀ draft ∈ s.entryPoints, (draft.frame idOf).Tidy := by
  intro draft inside
  obtain ⟨id, listed, made⟩ := Outcome.exists_of_filterMapM s.entered inside
  obtain ⟨function, atId, _, form⟩ := entryPointDraft_eq_ok made
  obtain ⟨model, _, rfl⟩ := Option.map_eq_some_iff.mp form.symm
  have named : lib.debugName? (.function id) = .ok (some function.name) := by
    rw [debugName?, atId]
    rfl
  have clean := zero_notMem_textBytes (tidy.names _ _ ((reaches.functions id).mp listed) named)
  have words := Frame.Tidy.entryPoint model (idOf (.function id)) (interface.flatMap fun op => [idOf (.op op)]) clean
  simpa [Draft.frame, Piece.words, List.flatMap_map] using words

theorem tidy_names (tidy : lib.TidyTexts root) : ∀ draft ∈ s.names, (draft.frame idOf).Tidy := by
  intro draft inside
  obtain ⟨node, listed, made⟩ := Outcome.exists_of_filterMapM s.named inside
  obtain ⟨name, known, _, form⟩ := nameDraft_eq_ok made
  obtain ⟨text, rfl, rfl⟩ := Option.map_eq_some_iff.mp form.symm
  have reachable : lib.Reachable [root] node := by
    rcases List.mem_append.mp listed with ordered | function
    · exact reachable_of_mem_order reaches ordered
    · obtain ⟨id, member, rfl⟩ := List.mem_map.mp function
      exact (reaches.functions id).mp member
  have clean := zero_notMem_textBytes (tidy.names node text reachable known)
  simpa [Draft.frame, Piece.words] using Frame.Tidy.name (idOf node) clean

theorem tidy_decorations (tidy : lib.TidyTexts root) :
    ∀ draft ∈ s.decorations.flatten, (draft.frame idOf).Tidy := by
  intro draft inside
  obtain ⟨drafts, listed, inside⟩ := List.mem_flatten.mp inside
  obtain ⟨node, ordered, made⟩ := Outcome.exists_of_mapM s.decorated listed
  obtain ⟨_, id, op, rfl, atId, decoration, applied, rfl⟩ := decorationDrafts_eq_ok made draft inside
  have padded := tidy.decorations id op (reachable_of_mem_order reaches ordered) atId decoration applied
  have words := Frame.Tidy.decorate (idOf (.op id)) decoration.kind.code padded
  simpa [Draft.frame, Piece.words, List.flatMap_map] using words

theorem functions_inside (places : lib.KeepsPlaces root) :
    ∀ draft ∈ s.functions.flatten, ∃ stand, draft.opcode.sectionAt? stand = none := by
  intro draft inside
  have listed : draft.opcode ∈ s.functions.flatten.map Draft.opcode := List.mem_map_of_mem inside
  rw [opcodes_functions s.bodies] at listed
  obtain ⟨function, member, own⟩ := List.mem_flatMap.mp listed
  rw [← Stand.map_snd_along id .outside (lib.functionOpcodes function)] at own
  obtain ⟨p, placed, same⟩ := List.mem_map.mp own
  rw [← same]
  exact ⟨p.1, (places function ((reaches.functions function).mp member) p placed).1⟩

/-- An emitted module has its texts filled up with zeros. -/
theorem tidy_frames (tidy : lib.TidyTexts root) (places : lib.KeepsPlaces root) :
    ∀ draft ∈ s.drafts, (draft.frame idOf).Tidy := by
  have plain {draft : Draft} (free : draft.opcode.isTextFree = true) : (draft.frame idOf).Tidy := .plain _ free
  intro draft inside
  simp only [drafts, moduleScope, List.mem_append, List.mem_singleton] at inside
  rcases inside with (((((((capability | import') | rfl) | entry) | mode) | name) | decoration) | declaration) | body
  · exact plain (by rw [(s.allOf_capabilities draft capability).2]; rfl)
  · exact s.tidy_imports idOf reaches tidy draft import'
  · exact plain rfl
  · exact s.tidy_entryPoints idOf reaches tidy draft entry
  · exact plain (by rw [(s.allOf_modes draft mode).2]; rfl)
  · exact s.tidy_names idOf reaches tidy draft name
  · exact s.tidy_decorations idOf reaches tidy draft decoration
  · exact plain (Opcode.section_of_declaration (s.declaration_opcode reaches declaration).2).2
  · obtain ⟨_, within⟩ := s.functions_inside reaches places draft body
    exact plain (Opcode.isTextFree_of_inside within)

end Sections

theorem KeepsPlaces.functions (places : lib.KeepsPlaces root) {functions : List FunctionId}
    (reachable : ∀ id ∈ functions, lib.Reachable [root] (.function id)) :
    ∀ p ∈ Stand.outside.along id (functions.flatMap lib.functionOpcodes),
      p.2.sectionAt? p.1 = none ∧ Arrangement.Keeps p.1 p.2 := by
  induction functions with
  | nil => simp [Stand.along]
  | cons function rest ih =>
    rw [List.forall_mem_cons] at reachable
    -- A function ends where it began.
    have ends : (lib.functionOpcodes function).foldl (fun stand opcode => Stand.next stand (id opcode)) .outside =
        .outside := by
      rw [functionOpcodes, List.foldl_append]
      rfl
    rw [List.flatMap_cons, Stand.along_append, ends, List.forall_mem_append]
    exact ⟨places function reachable.1, ih reachable.2⟩

namespace Sections

variable (s : lib.Sections c interface)

def part : Section → List Draft
  | .capability => s.capabilities
  | .extImport => s.imports
  | .memoryModel => [⟨.opMemoryModel, [.word 0, .word 1]⟩]
  | .entryPoint => s.entryPoints
  | .executionMode => s.modes
  | .name => s.names
  | .decoration => s.decorations.flatten
  | .declaration => s.declarations.flatten
  | .extension | .source | .processed => []

theorem moduleScope_eq : s.moduleScope = Section.all.flatMap s.part := by
  simp [moduleScope, Section.all, part]

variable (reaches : c.IsReachablePart lib [root])
include reaches

theorem sectionAt?_part (t : Section) : ∀ draft ∈ s.part t, draft.opcode.sectionAt? .outside = some t := by
  intro draft inside
  cases t with
  | capability => rw [(s.allOf_capabilities draft inside).2]; rfl
  | extImport => rw [(s.allOf_imports draft inside).2]; rfl
  | memoryModel => rw [List.mem_singleton.mp inside]; rfl
  | entryPoint => rw [(s.allOf_entryPoints draft inside).2]; rfl
  | executionMode => rw [(s.allOf_modes draft inside).2]; rfl
  | name => rw [(s.allOf_names draft inside).2]; rfl
  | decoration => rw [(s.allOf_decorations draft inside).2]; rfl
  | declaration => exact (Opcode.section_of_declaration (s.declaration_opcode reaches inside).2).1
  | _ => cases inside

theorem inOrder (places : lib.KeepsPlaces root) :
    InOrder (s.moduleScope.map Draft.opcode) (s.functions.flatten.map Draft.opcode) where
  grouped := by
    refine ⟨fun t => (s.part t).length, Nat.le_refl 1, ?_⟩
    rw [s.moduleScope_eq, List.map_map, List.map_flatMap]
    refine List.flatMap_congr fun t _ => List.eq_replicate_iff.mpr ⟨List.length_map _, List.forall_mem_map.mpr ?_⟩
    exact s.sectionAt?_part reaches t
  kept := by
    rw [opcodes_functions s.bodies]
    exact places.functions fun id member => (reaches.functions id).mp member

/-- What belongs to a section is written in that section. -/
theorem mem_part (places : lib.KeepsPlaces root) {draft : Draft} {t : Section} (inside : draft ∈ s.drafts)
    (belongs : draft.opcode.section? = some t) : draft ∈ s.part t := by
  rcases List.mem_append.mp inside with global | body
  · rw [s.moduleScope_eq] at global
    obtain ⟨other, _, member⟩ := List.mem_flatMap.mp global
    have found := s.sectionAt?_part reaches other draft member
    rw [Arrangement.sectionAt?_of_section? belongs] at found
    cases found
    exact member
  · obtain ⟨stand, within⟩ := s.functions_inside reaches places draft body
    rw [Arrangement.sectionAt?_of_section? belongs] at within
    cases within

theorem filter_capabilities (places : lib.KeepsPlaces root) :
    s.drafts.filter (·.opcode = .opCapability) = s.capabilities := by
  have bodies : s.functions.flatten.filter (·.opcode = .opCapability) = [] := by
    refine List.filter_eq_nil_iff.mpr fun draft inside same => ?_
    obtain ⟨stand, within⟩ := s.functions_inside reaches places draft inside
    rw [of_decide_eq_true same] at within
    cases within
  have declarations : s.declarations.flatten.filter (·.opcode = .opCapability) = [] :=
    s.filter_declarations reaches rfl rfl nofun
  rw [drafts, List.filter_append, bodies, s.filter_moduleScope, declarations]
  simp

omit reaches in
theorem nodup_capabilities (once : c.capabilities.Nodup) : (s.capabilities.map (Draft.frame idOf)).Nodup := by
  rw [capabilities, List.map_map]
  refine once.map fun capability other same => ?_
  have codes : capability.code = other.code := by simpa [Draft.frame, Piece.words] using same
  exact (Enumerant.mk.injEq ..).mpr codes

end Sections

theorem opcodes_of_map_frame {is : List Instruction} {drafts : List Draft}
    (mapped : is.map Instruction.frame = drafts.map (Draft.frame idOf)) :
    is.map Instruction.opcode = drafts.map Draft.opcode := by
  have codes := congrArg (List.filterMap fun f => Opcode.ofCode? f.code) mapped
  simpa [List.filterMap_map, Function.comp_def, Instruction.frame, Draft.frame, Opcode.ofCode?_code] using codes

namespace Sections

variable (s : lib.Sections c interface) (reaches : c.IsReachablePart lib [root]) (places : lib.KeepsPlaces root)
  {m : Module} (arranged : m.Arranged)
  (mapped : m.instructions.map Instruction.frame = s.drafts.map (Draft.frame idOf))
include reaches places arranged mapped

theorem nodup_capabilities_of_read (once : c.capabilities.Nodup) : m.capabilities.Nodup := by
  have own : m.capabilities.filter (·.opcode = .opCapability) = m.capabilities := by
    refine List.filter_eq_self.mpr fun i member => ?_
    have belongs := arranged.parts .capability i member
    generalize i.opcode = opcode at belongs
    cases opcode <;> first | rfl | cases belongs
  have listed : m.capabilities.Sublist m.instructions := by
    simp only [Module.instructions, Module.globals, List.append_assoc]
    exact List.sublist_append_left ..
  have framed : (m.instructions.filter (·.opcode = .opCapability)).map Instruction.frame =
      s.capabilities.map (Draft.frame idOf) := by
    have chosen := congrArg (List.filter (·.code = Opcode.opCapability.code)) mapped
    rw [List.filter_map, List.filter_map] at chosen
    rw [← s.filter_capabilities reaches places]
    simpa [Function.comp_def, Instruction.frame, Draft.frame, Opcode.code_inj] using chosen
  have distinct := s.nodup_capabilities idOf once
  rw [← framed] at distinct
  rw [← own]
  exact (List.Nodup.of_map _ distinct).sublist (listed.filter _)

theorem opcode_of_read_name : ∀ i ∈ m.names, i.opcode = .opName := by
  intro i member
  have listed : i.opcode ∈ m.instructions.map Instruction.opcode :=
    List.mem_map_of_mem (List.mem_append_left _ (m.part_subset_globals .name member))
  rw [opcodes_of_map_frame idOf mapped] at listed
  obtain ⟨draft, inside, same⟩ := List.mem_map.mp listed
  have belongs := Opcode.section?_of_sectionAt? (arranged.parts .name i member) nofun
  rw [← same] at belongs ⊢
  exact (s.allOf_names draft (s.mem_part reaches places inside belongs)).2

end Sections

theorem header_optimized (bound : UInt32) (a : Arrangement) (stripNames : Bool) :
    ((Module.ofArrangement (emittedHeader bound).version bound a).optimized stripNames).header =
      { emittedHeader bound with generator := 0x000F0000 } := by
  have version (v : UInt32) (known : v = 0x00010000) :
      (v >>> 16 &&& 0xFF) <<< 16 ||| (v >>> 8 &&& 0xFF) <<< 8 = v := by
    rw [known]
    decide
  exact congrArg (Header.mk · _ _) (version _ rfl)

theorem leftFrames_map_frame (is : List Instruction) (stripNames : Bool) :
    leftFrames stripNames (is.map Instruction.frame) =
      (is.filter (Instruction.isLeft stripNames)).map Instruction.frame := by
  rw [leftFrames, List.filter_map]
  congr 2
  funext i
  simp only [Function.comp_apply, Instruction.frame, ne_eq, Opcode.code_inj]
  cases stripNames <;> simp [Instruction.isLeft]

/-- The optimizer writes an emitted module as it was, except that instructions that do nothing are left out and
names too if asked for. The header says another generator, and the reflection stays. -/
theorem optimizer_emitType {entry : TypeId} {binary : Binary} {m : Module} (stripNames : Bool)
    (emitted : lib.emitType entry = .ok binary) (loads : Module.ofWords binary.words = .ok m)
    (tidy : lib.TidyTexts (.type entry)) (places : lib.KeepsPlaces (.type entry)) :
    ∃ header frames, readStream? binary.words = some (header, frames) ∧
      binary.words = header.words ++ frames.flatMap Frame.words ∧
      (optimizer stripNames).run (.binary binary) =
        .ok (.binary ⟨Header.words { header with generator := 0x000F0000 } ++
          (leftFrames stripNames frames).flatMap Frame.words, binary.reflection⟩) := by
  obtain ⟨past, w, interface, s, collecting, fits, words, _⟩ := exists_emission emitted
  have reaches := collecting.isReachablePart
  obtain ⟨is, a, read⟩ := Module.readAs_of_ofWords loads
  let idOf := (numbering w.closure interface s.drafts).word
  let header := emittedHeader (.ofNat (numbering w.closure interface s.drafts).bound)
  have stream : readStream? binary.words = some (header, s.drafts.map (Draft.frame idOf)) :=
    words ▸ s.readStream?_emitWords reaches _
  have spelled : binary.words = header.words ++ (s.drafts.map (Draft.frame idOf)).flatMap Frame.words := by
    rw [words, List.flatMap_map]
    rfl
  have mapped : is.map Instruction.frame = s.drafts.map (Draft.frame idOf) := by
    obtain ⟨frames, split, reads⟩ := read.frames
    cases (splitFrames_of_readStream? stream).symm.trans split
    exact reads.map_frame (List.forall_mem_map.mpr (s.tidy_frames idOf reaches tidy places))
  have opcodes : is.map Instruction.opcode =
      s.moduleScope.map Draft.opcode ++ s.functions.flatten.map Draft.opcode := by
    rw [opcodes_of_map_frame idOf mapped]
    exact List.map_append
  have ordered := read.instructions_eq opcodes (s.inOrder reaches places)
  rw [← ordered] at mapped
  have once := s.nodup_capabilities_of_read idOf reaches places read.arranged mapped collecting.capabilities_nodup
  have plain := s.opcode_of_read_name idOf reaches places read.arranged mapped
  refine ⟨header, s.drafts.map (Draft.frame idOf), stream, spelled, ?_⟩
  · have left := read.arranged.instructions_optimized once plain stripNames
    have head : (m.optimized stripNames).header = { header with generator := 0x000F0000 } := by
      rw [read.module_eq, spelled]
      exact header_optimized ..
    refine (optimizer_run stripNames loads binary.reflection).trans ?_
    rw [Module.words, head, left, ← mapped, leftFrames_map_frame, List.flatMap_map]
    rfl

/-- A variable with a text of one word as its semantic, and a function that does nothing before it reads it. -/
def tagged (word : UInt32) : Library where
  types := #[
    { name := "f32", shape := { kind := .float 32 }, pointer := some ⟨1⟩ },
    { name := "ptr<Private, f32>", shape := { kind := .pointer .priv, dereference := some ⟨0⟩ } },
    { name := "S", shape := { kind := .struct, parameters := [.type ⟨0⟩] }, functions := [⟨0⟩] },
    { name := "void", shape := { kind := .void } },
    { name := "fn() -> void", shape := { kind := .function, component := some ⟨3⟩ } }]
  functions := #[
    { name := "main", functionType := ⟨4⟩, parameterBlock := ⟨0⟩, blocks := [⟨1⟩], executionModel := none }]
  blocks := #[⟨[], []⟩, ⟨[⟨1⟩, ⟨2⟩, ⟨3⟩], []⟩]
  ops := #[
    { opcode := .opVariable, resultType := some ⟨1⟩, args := [.literal ⟨0⟩], debugName := some "g",
      decorations := [⟨⟨5635, rfl⟩, [word]⟩] },
    { opcode := .opNop, resultType := none, args := [] },
    { opcode := .opLoad, resultType := some ⟨0⟩, args := [.op ⟨0⟩] },
    { opcode := .opReturn, resultType := none, args := [] }]
  literals := #[.int 6]
  globals := .ofList [(⟨0⟩, ⟨none⟩)]

theorem tagged_keepsPlaces (word : UInt32) : (tagged word).KeepsPlaces (.type ⟨2⟩) := by
  rintro ⟨index⟩ _
  match index with
  | 0 =>
    have opcodes : (tagged word).functionOpcodes ⟨0⟩ =
        [.opFunction, .opLabel, .opNop, .opLoad, .opReturn, .opFunctionEnd] := rfl
    rw [opcodes]
    decide
  | _ + 1 =>
    have opcodes (more : Nat) : (tagged word).functionOpcodes ⟨more + 1⟩ = [.opFunction, .opFunctionEnd] := rfl
    rw [opcodes]
    decide

theorem tagged_cleanNames (word : UInt32) : (tagged word).CleanNames (.type ⟨2⟩) where
  imports _ _ _ atId := by cases atId
  names node name _ known := by
    match node, known with
    | .type ⟨0⟩, known | .type ⟨1⟩, known | .type ⟨3⟩, known | .type ⟨4⟩, known | .type ⟨_ + 5⟩, known => cases known
    | .type ⟨2⟩, known => cases known; exact (by decide : '\x00' ∉ "S".toList)
    | .function ⟨0⟩, known => cases known; exact (by decide : '\x00' ∉ "main".toList)
    | .function ⟨_ + 1⟩, known => cases known
    | .op ⟨0⟩, known => cases known; decide
    | .op ⟨1⟩, known | .op ⟨2⟩, known | .op ⟨3⟩, known | .op ⟨_ + 4⟩, known => cases known
    | .block _, known | .literal _, known | .extImport _, known => cases known

theorem tagged_tidyTexts : (tagged 0x61).TidyTexts (.type ⟨2⟩) where
  toCleanNames := tagged_cleanNames 0x61
  decorations id op _ atId := by
    match id, atId with
    | ⟨0⟩, atId => cases atId; decide
    | ⟨1⟩, atId | ⟨2⟩, atId | ⟨3⟩, atId => cases atId; decide
    | ⟨_ + 4⟩, atId => cases atId

theorem tagged_optimized : ∃ binary m header frames, (tagged 0x61).emitType ⟨2⟩ = .ok binary ∧
    Module.ofWords binary.words = .ok m ∧ (tagged 0x61).TidyTexts (.type ⟨2⟩) ∧
    (tagged 0x61).KeepsPlaces (.type ⟨2⟩) ∧ readStream? binary.words = some (header, frames) ∧
    frames.map Frame.code = [17, 14, 5, 5, 5, 71, 22, 32, 30, 19, 33, 59, 54, 248, 0, 61, 253, 56] ∧
    (optimizer true).run (.binary binary) =
      .ok (.binary ⟨Header.words { header with generator := 0x000F0000 } ++
        (leftFrames true frames).flatMap Frame.words, binary.reflection⟩) := by
  have run : (fun binary => ((fun _ => ()) <$> Module.ofWords binary.words,
      (readStream? binary.words).map fun read => read.2.map Frame.code)) <$> (tagged 0x61).emitType ⟨2⟩ =
      .ok (.ok (), some [17, 14, 5, 5, 5, 71, 22, 32, 30, 19, 33, 59, 54, 248, 0, 61, 253, 56]) := by decide +kernel
  obtain ⟨binary, emitted, shown⟩ := Outcome.map_eq_ok_iff.mp run
  obtain ⟨accepted, decoded⟩ := Prod.mk.inj shown
  obtain ⟨m, loads, _⟩ := Outcome.map_eq_ok_iff.mp accepted
  obtain ⟨header, frames, read, _, optimized⟩ :=
    optimizer_emitType true emitted loads tagged_tidyTexts (tagged_keepsPlaces 0x61)
  rw [read] at decoded
  exact ⟨binary, m, header, frames, emitted, loads, tagged_tidyTexts, tagged_keepsPlaces 0x61, read,
    Option.some.inj decoded, optimized⟩

/-- Behind the end of the text stand bytes other than zero. The optimizer writes zeros for them. -/
theorem tagged_refilled : (tagged 0xFF000000).CleanNames (.type ⟨2⟩) ∧
    (tagged 0xFF000000).KeepsPlaces (.type ⟨2⟩) ∧
    ∃ binary m header frames, (tagged 0xFF000000).emitType ⟨2⟩ = .ok binary ∧
      Module.ofWords binary.words = .ok m ∧ readStream? binary.words = some (header, frames) ∧
      (optimizer false).run (.binary binary) ≠
        .ok (.binary ⟨Header.words { header with generator := 0x000F0000 } ++
          (leftFrames false frames).flatMap Frame.words, binary.reflection⟩) := by
  refine ⟨tagged_cleanNames _, tagged_keepsPlaces _, ?_⟩
  have run : (fun binary => ((fun m => (m.optimized false).words[23]?) <$> Module.ofWords binary.words,
      (readStream? binary.words).map fun read => (Header.words { read.1 with generator := 0x000F0000 } ++
        (leftFrames false read.2).flatMap Frame.words)[23]?)) <$> (tagged 0xFF000000).emitType ⟨2⟩ =
      .ok (.ok (some 0), some (some 0xFF000000)) := by decide +kernel
  obtain ⟨binary, emitted, shown⟩ := Outcome.map_eq_ok_iff.mp run
  obtain ⟨loaded, decoded⟩ := Prod.mk.inj shown
  obtain ⟨m, loads, zero⟩ := Outcome.map_eq_ok_iff.mp loaded
  obtain ⟨⟨header, frames⟩, read, kept⟩ := Option.map_eq_some_iff.mp decoded
  refine ⟨binary, m, header, frames, emitted, loads, read, fun optimized => ?_⟩
  rw [optimizer_run false loads] at optimized
  injection optimized with same
  injection same with same
  injection same with words
  rw [← words, zero] at kept
  cases kept

end Library

end ShaderGraph
