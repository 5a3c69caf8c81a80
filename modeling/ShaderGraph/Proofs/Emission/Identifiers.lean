import ShaderGraph.Proofs.Emission.Encodable
import ShaderGraph.Proofs.Emission.Section

namespace ShaderGraph

open Spirv

/-! Ids as they are handed out while a module is written. -/

namespace Numbering

/-- Asks for the id of a node. A node that has none is given the next. -/
def request (node : NodeRef) : StateM Numbering UInt32 := fun n =>
  if node ∈ n.nodes then (n.word node, n) else (.ofNat n.bound, ⟨n.nodes ++ [node]⟩)

/-- The numbering once more nodes are mentioned. -/
def after (n : Numbering) (mentions : List NodeRef) : Numbering := ⟨(n.nodes ++ mentions).eraseDups⟩

theorem nodup_after (n : Numbering) (mentions : List NodeRef) : (n.after mentions).nodes.Nodup :=
  nodup_eraseDups _

theorem after_append (n : Numbering) (mentions more : List NodeRef) :
    n.after (mentions ++ more) = (n.after mentions).after more := by
  simp only [after, eraseDups_append_eraseDups, List.append_assoc]

theorem after_nil {n : Numbering} (once : n.nodes.Nodup) : n.after [] = n := by
  rw [after, List.append_nil, eraseDups_of_nodup once]

theorem after_of_mem {n : Numbering} (once : n.nodes.Nodup) {node : NodeRef} (known : node ∈ n.nodes) :
    n.after [node] = n := by
  have nothing : [node].removeAll n.nodes = [] := by simp [List.removeAll, known]
  rw [after, List.eraseDups_append, eraseDups_of_nodup once, nothing, List.eraseDups_nil, List.append_nil]

theorem after_of_notMem {n : Numbering} (once : n.nodes.Nodup) {node : NodeRef} (new : node ∉ n.nodes) :
    n.after [node] = ⟨n.nodes ++ [node]⟩ := by
  have single : (n.nodes ++ [node]).Nodup := by
    rw [List.nodup_append_comm, List.singleton_append, List.nodup_cons]
    exact ⟨new, once⟩
  rw [after, eraseDups_of_nodup single]

/-- Mentions only ever add nodes behind those that have an id. -/
theorem prefix_after {n : Numbering} (once : n.nodes.Nodup) (mentions : List NodeRef) :
    n.nodes <+: (n.after mentions).nodes := by
  rw [after, List.eraseDups_append, eraseDups_of_nodup once]
  exact List.prefix_append _ _

/-- A node keeps its id when more nodes get theirs. -/
theorem word_eq_of_grown {n last : Numbering} (grown : n.nodes <+: last.nodes) {node : NodeRef}
    (known : node ∈ n.nodes) : last.word node = n.word node := by
  simp only [word, id, grown.idxOf_eq_of_mem known]

/-- The nodes are known by the numbers from one up to the bound. -/
theorem bijOn_word {n : Numbering} (once : n.nodes.Nodup) (fits : n.bound < UInt32.size) :
    Set.BijOn n.word {node | node ∈ n.nodes} {id | 1 ≤ id ∧ id < .ofNat n.bound} := by
  have last : (UInt32.ofNat n.bound).toNat = n.nodes.length + 1 := UInt32.toNat_ofNat_of_lt' fits
  refine ⟨fun node known => ?_, fun node known other otherKnown same => ?_, fun id ⟨low, high⟩ => ?_⟩
  · have place := List.idxOf_lt_length_iff.mpr known
    rw [Set.mem_ofPred_eq, UInt32.le_iff_toNat_le, UInt32.lt_iff_toNat_lt, word, toNat_ofNat_id fits known, last]
    exact ⟨Nat.le_add_left 1 _, by omega⟩
  · exact ofNat_id_inj fits known otherKnown same
  · rw [UInt32.le_iff_toNat_le] at low
    rw [UInt32.lt_iff_toNat_lt, last] at high
    have low : 1 ≤ id.toNat := low
    have place : id.toNat - 1 < n.nodes.length := by omega
    refine ⟨n.nodes[id.toNat - 1], List.getElem_mem place, UInt32.toNat_inj.mp ?_⟩
    rw [word, toNat_ofNat_id fits (List.getElem_mem place), once.idxOf_getElem _ place]
    omega

/-- What is written while ids are asked for is what the ids of any later numbering give. The nodes that are
mentioned get their ids in order. -/
def Writes {α : Type} (writer : StateM Numbering α) (mentions : List NodeRef) (written : (NodeRef → UInt32) → α) :
    Prop :=
  ∀ n last : Numbering, n.nodes.Nodup → (n.after mentions).nodes <+: last.nodes →
    writer.run n = (written last.word, n.after mentions)

theorem writes_request (node : NodeRef) : Writes (request node) [node] fun idOf => idOf node := by
  intro n last once grown
  by_cases known : node ∈ n.nodes
  · rw [after_of_mem once known] at grown ⊢
    have kept : (n.word node, n) = (last.word node, n) := by rw [word_eq_of_grown grown known]
    exact (if_pos known).trans kept
  · rw [after_of_notMem once known] at grown ⊢
    have next : last.word node = .ofNat n.bound := by
      rw [word_eq_of_grown grown (List.mem_append_right _ (List.mem_singleton_self node)), word, id, bound,
        List.idxOf_append_of_notMem known, List.idxOf_cons_self]
    have given : (UInt32.ofNat n.bound, (⟨n.nodes ++ [node]⟩ : Numbering)) = (last.word node, ⟨n.nodes ++ [node]⟩) := by
      rw [next]
    exact (if_neg known).trans given

theorem writes_pure {α : Type} (value : α) : Writes (pure value) [] fun _ => value := by
  intro n last once _
  rw [after_nil once]
  rfl

theorem Writes.bind {α β : Type} {writer : StateM Numbering α} {next : α → StateM Numbering β}
    {mentions more : List NodeRef} {written : (NodeRef → UInt32) → α} {rest : α → (NodeRef → UInt32) → β}
    (first : Writes writer mentions written) (second : ∀ value, Writes (next value) more (rest value)) :
    Writes (writer >>= next) (mentions ++ more) fun idOf => rest (written idOf) idOf := by
  intro n last once grown
  rw [after_append] at grown ⊢
  -- What was written first stands, since more requests only add ids behind those it was written with.
  have between := (prefix_after (n.nodup_after mentions) more).trans grown
  rw [StateT.run_bind, first n last once between]
  exact second _ _ last (n.nodup_after mentions) grown

theorem Writes.map {α β : Type} {writer : StateM Numbering α} {mentions : List NodeRef}
    {written : (NodeRef → UInt32) → α} (writes : Writes writer mentions written) (f : α → β) :
    Writes (f <$> writer) mentions fun idOf => f (written idOf) := by
  intro n last once grown
  rw [StateT.run_map, writes n last once grown]
  rfl

theorem writes_mapM {α β : Type} {writer : α → StateM Numbering β} {mentions : α → List NodeRef}
    {written : α → (NodeRef → UInt32) → β} (each : ∀ item, Writes (writer item) (mentions item) (written item))
    (items : List α) :
    Writes (items.mapM writer) (items.flatMap mentions) fun idOf => items.map fun item => written item idOf := by
  induction items with
  | nil => exact writes_pure []
  | cons item rest ih =>
    have others (value : β) := ih.map (value :: ·)
    rw [List.mapM_cons, List.flatMap_cons]
    simp only [bind_pure_comp]
    exact (each item).bind others

end Numbering

/-! Writing a module in one pass. -/

def Piece.encode : Piece → StateM Numbering (List UInt32)
  | .node target => return [← Numbering.request target]
  | .word value => return [value]
  | .text value => return packText value

def Draft.encode (d : Draft) : StateM Numbering Frame := do
  return ⟨d.opcode.code, (← d.pieces.mapM Piece.encode).flatten⟩

/-- The instructions of a module, written one after another. Once the imports have their ids, those of the
interface are asked for, which every entry point is to list. -/
def encodeModule (interface : List OpId) (drafts : List Draft) : StateM Numbering (List Frame) := do
  let opening ← (drafts.takeWhile (·.opcode ≠ .opMemoryModel)).mapM Draft.encode
  let _ ← interface.mapM fun id => Numbering.request (.op id)
  return opening ++ (← (drafts.dropWhile (·.opcode ≠ .opMemoryModel)).mapM Draft.encode)

theorem Piece.writes_encode (piece : Piece) :
    Numbering.Writes piece.encode piece.mention?.toList fun idOf => piece.words idOf := by
  cases piece with
  | node target => exact (Numbering.writes_request target).map ([·])
  | word value => exact Numbering.writes_pure [value]
  | text value => exact Numbering.writes_pure (packText value)

theorem Draft.writes_encode (d : Draft) : Numbering.Writes d.encode d.mentions fun idOf => d.frame idOf := by
  have pieces := Numbering.writes_mapM Piece.writes_encode d.pieces
  have framed := pieces.map fun words => Frame.mk d.opcode.code words.flatten
  simpa only [Draft.encode, Draft.frame, Draft.mentions, List.filterMap_eq_flatMap_toList, List.flatMap_def,
    bind_pure_comp] using framed

theorem writes_encodeModule (interface : List OpId) (drafts : List Draft) :
    Numbering.Writes (encodeModule interface drafts)
      ((drafts.takeWhile (·.opcode ≠ .opMemoryModel)).flatMap Draft.mentions ++ (interface.map .op ++
        (drafts.dropWhile (·.opcode ≠ .opMemoryModel)).flatMap Draft.mentions))
      fun idOf => drafts.map (Draft.frame idOf) := by
  have first := Numbering.writes_mapM Draft.writes_encode (drafts.takeWhile (·.opcode ≠ .opMemoryModel))
  have second := Numbering.writes_mapM (fun id => Numbering.writes_request (.op id)) interface
  have last (frames : List Frame) :=
    (Numbering.writes_mapM Draft.writes_encode (drafts.dropWhile (·.opcode ≠ .opMemoryModel))).map (frames ++ ·)
  have whole := first.bind fun frames => second.bind fun _ => last frames
  simpa only [encodeModule, bind_pure_comp, ← List.map_eq_flatMap, ← List.map_append, List.takeWhile_append_dropWhile]
    using whole

/-- Nodes that are mentioned once more change nothing. -/
theorem Numbering.ofMentions_append_again (known others more : List NodeRef) :
    ofMentions (known ++ others ++ (known ++ more)) = ofMentions (known ++ (others ++ more)) := by
  have again : (known ++ more).removeAll (known ++ others) = more.removeAll (known ++ others) := by
    simp +contextual [List.removeAll, List.filter_eq_nil_iff]
  rw [ofMentions, List.eraseDups_append, again, ← List.eraseDups_append, List.append_assoc, ofMentions]

/-- The id of a node stands in an instruction behind the words of what comes before it. -/
theorem Draft.getElem?_words_frame (idOf : NodeRef → UInt32) {d : Draft} {before after : List Piece} {node : NodeRef}
    (pieces : d.pieces = before ++ .node node :: after) :
    (d.frame idOf).words[(Draft.mk d.opcode before).wordCount]? = some (idOf node) := by
  have place := Draft.length_frame idOf ⟨d.opcode, before⟩
  simp only [Draft.frame] at place
  simp [Draft.frame, Frame.words, pieces, ← place, Piece.words]

/-- How a module knows its nodes: different ones by different ids, which are the numbers from one up to the
bound, with none left over. Literals have no id. -/
structure Identifies (idOf : NodeRef → UInt32) (mentioned : Set NodeRef) (bound : UInt32) : Prop where
  bijective : Set.BijOn idOf mentioned {id | 1 ≤ id ∧ id < bound}
  count : bound.toNat = mentioned.ncard + 1
  noLiteral : ∀ node ∈ mentioned, node.isLiteral = false

namespace Library

variable {lib : Library} {c : Closure} {interface : List OpId}

/-- Before the memory model of a module only imports are mentioned. -/
theorem mentions_opening {drafts : List Draft} (found : lib.moduleDrafts c interface = .ok drafts) :
    (drafts.takeWhile (·.opcode ≠ .opMemoryModel)).flatMap Draft.mentions = c.imports.map .extImport := by
  obtain ⟨s, rfl⟩ := exists_sections found
  have pairs := Outcome.mapM_eq_ok_iff.mp s.imported
  have imported : s.imports.flatMap Draft.mentions = c.imports.map .extImport := by
    have each (id : ImportId) (draft : Draft) (made : lib.importDraft id = .ok draft) :
        draft.mentions = [.extImport id] := by
      obtain ⟨_, item, _, rfl⟩ := importDraft_eq_ok made
      rfl
    have lists : s.imports.map Draft.mentions = c.imports.map ([.extImport ·]) := by
      rw [← List.forall₂_eq_eq_eq, List.forall₂_map_left_iff, List.forall₂_map_right_iff]
      exact (pairs.imp each).flip
    rw [List.flatMap_def, lists, ← List.flatMap_def, List.map_eq_flatMap]
  have opening : s.drafts.takeWhile (·.opcode ≠ .opMemoryModel) = s.capabilities ++ s.imports := by
    have others : ∀ draft ∈ s.capabilities ++ s.imports, decide (draft.opcode ≠ .opMemoryModel) = true := by
      intro draft member
      rcases List.mem_append.mp member with required | imported
      · obtain ⟨capability, _, rfl⟩ := List.mem_map.mp required
        rfl
      · obtain ⟨id, _, made⟩ := Outcome.exists_of_mapM s.imported imported
        obtain ⟨_, item, _, rfl⟩ := importDraft_eq_ok made
        rfl
    simp only [Sections.drafts, Sections.moduleScope, List.append_assoc]
    rw [← List.append_assoc, List.takeWhile_append_of_pos others, List.cons_append,
      List.takeWhile_cons_of_neg (by simp), List.append_nil]
  have silent : s.capabilities.flatMap Draft.mentions = [] := by
    simp [Sections.capabilities, Draft.mentions, Piece.mention?]
  rw [opening, List.flatMap_append, silent, imported, List.nil_append]

/-- Handing out ids while the instructions are written comes to the same as numbering the nodes afterwards. -/
theorem run_encodeModule {drafts : List Draft} (found : lib.moduleDrafts c interface = .ok drafts) :
    (encodeModule interface drafts).run ⟨[]⟩ =
      (drafts.map (Draft.frame (numbering c interface drafts).word), numbering c interface drafts) := by
  have mentions : drafts.flatMap Draft.mentions = c.imports.map .extImport ++
      (drafts.dropWhile (·.opcode ≠ .opMemoryModel)).flatMap Draft.mentions := by
    rw [← mentions_opening found, ← List.flatMap_append, List.takeWhile_append_dropWhile]
  have same : (⟨[]⟩ : Numbering).after (c.imports.map .extImport ++ (interface.map .op ++
      (drafts.dropWhile (·.opcode ≠ .opMemoryModel)).flatMap Draft.mentions)) = numbering c interface drafts := by
    rw [numbering, mentions, Numbering.ofMentions_append_again]
    rfl
  have written := writes_encodeModule interface drafts
  rw [mentions_opening found] at written
  rw [written ⟨[]⟩ (numbering c interface drafts) List.nodup_nil (same ▸ List.prefix_rfl), same]

/-- No instruction names a literal. Arguments that are literals are written as what they stand for. -/
theorem isLiteral_of_mem_mentions {root : NodeRef} (reaches : c.IsReachablePart lib [root]) {part : ModulePart}
    {draft : Draft} (inside : part ∈ lib.outline c) (instructs : lib.Instructs interface part draft) {node : NodeRef}
    (mention : node ∈ draft.mentions) : node.isLiteral = false := by
  have ofOp {id : OpId} (reads : lib.Reads id draft) : node.isLiteral = false := by
    obtain ⟨op, _, ⟨type, _, rfl | rfl⟩ | ⟨_, plain⟩⟩ := reads.mention mention
    · rfl
    · rfl
    · exact plain
  cases instructs with
  | capability | memoryModel | functionEnd => simp [Draft.mentions] at mention
  | extImport | entryPoint | executionMode | decoration | functionHead | label =>
    revert mention node
    simp [Draft.mentions, Piece.mention?, NodeRef.isLiteral, List.filterMap_map]
  | @name target =>
    obtain rfl : node = target := by simpa [Draft.mentions] using mention
    rcases List.mem_append.mp (belongsTo_of_mem_outline inside) with ordered | listed
    · rcases (reaches.order node).mp ordered with ⟨_, _, rfl⟩ | ⟨_, _, rfl⟩ | ⟨_, _, rfl⟩ <;> rfl
    · obtain ⟨_, _, rfl⟩ := List.mem_map.mp listed
      rfl
  | type _ declared =>
    rcases List.mem_cons.mp mention with rfl | later
    · rfl
    · exact (declared.mem_refs later).2
  | op reads | line reads => exact ofOp reads

theorem identifies_numbering {root : NodeRef} (reaches : c.IsReachablePart lib [root]) {drafts : List Draft}
    (written : (lib.outline c).mapM (lib.write (lib.interfaceOf c)) = .ok drafts)
    (fits : (numbering c (lib.interfaceOf c) drafts).bound < UInt32.size) :
    Identifies (numbering c (lib.interfaceOf c) drafts).word {node | lib.Mentions c node}
      (.ofNat (numbering c (lib.interfaceOf c) drafts).bound) where
  bijective := by
    have once : (numbering c (lib.interfaceOf c) drafts).nodes.Nodup := Numbering.nodup_ofMentions _
    simpa only [mem_numbering_iff written] using Numbering.bijOn_word once fits
  count := by rw [UInt32.toNat_ofNat_of_lt' fits, bound_numbering written]
  noLiteral := by
    rintro node (early | ⟨draft, ⟨part, inside, instructs⟩, mention⟩)
    · simp only [List.mem_append, List.mem_map] at early
      rcases early with ⟨id, _, rfl⟩ | ⟨id, _, rfl⟩ <;> rfl
    · exact isLiteral_of_mem_mentions reaches inside instructs (Draft.mem_mentions_iff.mpr mention)

/-- A module is what comes of writing its instructions one after another, while a node is given the next id
when it is first mentioned. It keeps that id to the end. So the ids are the numbers from one up to the bound,
each for one of the nodes that are mentioned, and every word that stands for a node is among them. -/
theorem emitType_identified {entry : TypeId} {binary : Binary} (emitted : lib.emitType entry = .ok binary) :
    ∃ c interface drafts handedOut, lib.dependencies (.type entry) = .ok c ∧
      lib.interface c.globals = .ok interface ∧ lib.moduleDrafts c interface = .ok drafts ∧
      (encodeModule interface drafts).run ⟨[]⟩ = (drafts.map (Draft.frame handedOut.word), handedOut) ∧
      binary.words = (emittedHeader binary.reflection.idBound).words ++
        (drafts.map (Draft.frame handedOut.word)).flatMap Frame.words ∧
      binary.words[3]? = some binary.reflection.idBound ∧
      (∀ node, node ∈ handedOut.nodes ↔ lib.Mentions c node) ∧
      Identifies handedOut.word {node | lib.Mentions c node} binary.reflection.idBound ∧
      ∀ draft ∈ drafts, ∀ before node after, draft.pieces = before ++ .node node :: after →
        (draft.frame handedOut.word).words[(Draft.mk draft.opcode before).wordCount]? = some (handedOut.word node) ∧
          1 ≤ handedOut.word node ∧ handedOut.word node < binary.reflection.idBound := by
  obtain ⟨c, drafts, found, written, fits, words, reflected⟩ := exists_written emitted
  have reaches := isReachablePart_of_dependencies found
  have drafted : lib.moduleDrafts c (lib.interfaceOf c) = .ok drafts := (moduleDrafts_eq_write found).trans written
  have bound := (reflect_eq_ok reflected).1
  have identified := identifies_numbering reaches written fits
  rw [← bound] at identified
  have framed : binary.words = (emittedHeader binary.reflection.idBound).words ++
      (drafts.map (Draft.frame (numbering c (lib.interfaceOf c) drafts).word)).flatMap Frame.words := by
    rw [words, emitWords, bound, List.flatMap_map]
    rfl
  refine ⟨c, lib.interfaceOf c, drafts, numbering c (lib.interfaceOf c) drafts, found,
    interface_eq_interfaceOf reaches, drafted, run_encodeModule drafted, framed, ?_,
    fun node => mem_numbering_iff written, identified, ?_⟩
  · rw [framed]
    rfl
  · intro draft inside before node after pieces
    have mention : node ∈ draft.mentions := by simp [Draft.mentions, pieces]
    have mentioned : lib.Mentions c node := by
      refine (mem_numbering_iff written).mp ((Numbering.mem_ofMentions _).mpr (List.mem_append_right _ ?_))
      exact List.mem_flatMap.mpr ⟨draft, inside, mention⟩
    exact ⟨Draft.getElem?_words_frame _ pieces, identified.bijective.mapsTo mentioned⟩

/-- An input without a type, which gets an id though no instruction names it, and a branch to a block that is
not there. -/
def loose : Library where
  types := #[
    { name := "S", shape := { kind := .struct }, functions := [⟨0⟩] },
    { name := "void", shape := { kind := .void } },
    { name := "fn() -> void", shape := { kind := .function, component := some ⟨1⟩ } }]
  functions := #[{ name := "run", functionType := ⟨2⟩, parameterBlock := ⟨0⟩, blocks := [⟨1⟩], executionModel := none }]
  blocks := #[⟨[], []⟩, ⟨[⟨0⟩, ⟨1⟩], []⟩]
  ops := #[
    { opcode := .opVariable, resultType := none, args := [.literal ⟨0⟩] },
    { opcode := .opBranch, resultType := none, args := [.block ⟨7⟩] }]
  literals := #[.int 1]

theorem loose_identified : ∃ binary c interface drafts handedOut, loose.emitType ⟨0⟩ = .ok binary ∧
    loose.dependencies (.type ⟨0⟩) = .ok c ∧ loose.interface c.globals = .ok interface ∧
    loose.moduleDrafts c interface = .ok drafts ∧
    (encodeModule interface drafts).run ⟨[]⟩ = (drafts.map (Draft.frame handedOut.word), handedOut) ∧
    binary.words = (emittedHeader 8).words ++ (drafts.map (Draft.frame handedOut.word)).flatMap Frame.words ∧
    Identifies handedOut.word {node | loose.Mentions c node} 8 ∧
    handedOut.nodes = [.op ⟨0⟩, .type ⟨0⟩, .function ⟨0⟩, .type ⟨1⟩, .type ⟨2⟩, .block ⟨1⟩, .block ⟨7⟩] := by
  have bound : (fun binary => binary.reflection.idBound) <$> loose.emitType ⟨0⟩ = .ok 8 := by decide +kernel
  have nodes : (do
      let c ← loose.dependencies (.type ⟨0⟩)
      let interface ← loose.interface c.globals
      let drafts ← loose.moduleDrafts c interface
      return ((encodeModule interface drafts).run ⟨[]⟩).2.nodes : Attempt EmitError (List NodeRef)) =
        .ok [.op ⟨0⟩, .type ⟨0⟩, .function ⟨0⟩, .type ⟨1⟩, .type ⟨2⟩, .block ⟨1⟩, .block ⟨7⟩] := by
    decide +kernel
  obtain ⟨binary, emitted, bound⟩ := Outcome.map_eq_ok_iff.mp bound
  obtain ⟨c, interface, drafts, handedOut, found, interfaced, drafted, run, words, _, _, identified, _⟩ :=
    emitType_identified emitted
  rw [bound] at words identified
  rw [Outcome.lift_bind_of_ok found, Outcome.lift_bind_of_ok interfaced, drafted] at nodes
  have handed : ((encodeModule interface drafts).run ⟨[]⟩).2.nodes = _ := Except.ok.inj nodes
  rw [run] at handed
  exact ⟨binary, c, interface, drafts, handedOut, emitted, found, interfaced, drafted, run, words, identified, handed⟩

end Library

end ShaderGraph
