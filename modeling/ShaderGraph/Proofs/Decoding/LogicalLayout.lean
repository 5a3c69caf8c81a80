import ShaderGraph.Proofs.Emission.Identifiers

namespace ShaderGraph

open Spirv

/-- The words of a piece: the id of a node, a number as it is, or the bytes of a text, four to a word and the least
first, with zeros behind them. -/
inductive Piece.SpelledBy (idOf : NodeRef → UInt32) : Piece → List UInt32 → Prop
  | node {target} : SpelledBy idOf (.node target) [idOf target]
  | word {value} : SpelledBy idOf (.word value) [value]
  | text {value words} : words.length = value.utf8ByteSize / 4 + 1 →
      words.flatMap bytesOfWord = textBytes value ++ List.replicate (4 * words.length - value.utf8ByteSize) 0 →
      SpelledBy idOf (.text value) words

/-- An instruction of a stream has the number of the opcode and, one after another, the words of the pieces. -/
def Draft.SpelledBy (idOf : NodeRef → UInt32) (d : Draft) (f : Frame) : Prop :=
  f.code = d.opcode.code ∧ ∃ parts, List.Forall₂ (Piece.SpelledBy idOf) d.pieces parts ∧ f.operands = parts.flatten

theorem Piece.spelledBy_words (idOf : NodeRef → UInt32) (piece : Piece) : piece.SpelledBy idOf (piece.words idOf) := by
  cases piece with
  | node => exact .node
  | word => exact .word
  | text value =>
    refine .text (length_packText value) ?_
    rw [Piece.words, length_packText]
    exact flatMap_bytesOfWord_packText value

theorem Draft.spelledBy_frame (idOf : NodeRef → UInt32) (d : Draft) : d.SpelledBy idOf (d.frame idOf) := by
  refine ⟨rfl, d.pieces.map (Piece.words idOf), ?_, List.flatMap_def⟩
  rw [List.forall₂_map_right_iff, List.forall₂_same]
  exact fun piece _ => piece.spelledBy_words idOf

namespace Library

variable {lib : Library}

/-- A module that is emitted starts with the five words of the header. The rest splits, by the counts that
its instructions state, into the instructions for the parts of the module, one for each, in the order of
the sections. The operands of each are those that its part asks for, with an id of its own for each node. -/
theorem emitType_logical_layout {entry : TypeId} {binary : Binary} (emitted : lib.emitType entry = .ok binary) :
    ∃ c idOf body frames, lib.dependencies (.type entry) = .ok c ∧
      binary.words = [0x07230203, 0x00010000, 0, binary.reflection.idBound, 0] ++ body ∧
      splitFrames body = some frames ∧
      List.Forall₂ (fun part frame => ∃ draft, lib.Instructs (lib.interfaceOf c) part draft ∧
        draft.SpelledBy idOf frame) (lib.outline c) frames ∧
      Identifies idOf {node | lib.Mentions c node} binary.reflection.idBound := by
  obtain ⟨c, drafts, found, written, fits, words, reflected⟩ := exists_written emitted
  have identified := identifies_numbering (isReachablePart_of_dependencies found) written fits
  have bound := (reflect_eq_ok reflected).1
  rw [← bound] at identified
  have pairs := (Outcome.mapM_eq_ok_iff.mp written).imp fun _ _ => write_eq_ok_iff.mp
  have short : ∀ draft ∈ drafts, draft.wordCount ≤ maxWordCount := by
    intro draft member
    obtain ⟨part, _, made⟩ := Outcome.exists_of_mapM written member
    exact (write_eq_ok_iff.mp made).2
  have stream := words ▸ readStream?_emitWords_of_short (numbering c (lib.interfaceOf c) drafts) short
  refine ⟨c, _, binary.words.drop 5, _, found, ?_, splitFrames_of_readStream? stream, ?_, identified⟩
  · rw [words, bound]
    rfl
  · rw [List.forall₂_map_right_iff]
    exact pairs.imp fun _ draft pair => ⟨draft, pair.1, draft.spelledBy_frame _⟩

/-- A fragment stage that writes a color, with a local variable that it makes no use of, and a compute stage that
has nothing to do. -/
def painter : Library where
  types := #[
    { name := "Stage", shape := { kind := .struct }, functions := [⟨0⟩, ⟨1⟩] },
    { name := "void", shape := { kind := .void } },
    { name := "fn() -> void", shape := { kind := .function, component := some ⟨1⟩ } },
    { name := "f32", shape := { kind := .float 32 } },
    { name := "ptr<Output, f32>", shape := { kind := .pointer .output, dereference := some ⟨3⟩ } },
    { name := "ptr<Function, f32>", shape := { kind := .pointer .function, dereference := some ⟨3⟩ } }]
  functions := #[
    { name := "paint", functionType := ⟨2⟩, parameterBlock := ⟨0⟩, blocks := [⟨1⟩], executionModel := some .fragment },
    { name := "mix", functionType := ⟨2⟩, parameterBlock := ⟨0⟩, blocks := [⟨2⟩], executionModel := some .glCompute }]
  blocks := #[⟨[], []⟩, ⟨[⟨2⟩, ⟨3⟩, ⟨4⟩], [⟨5⟩]⟩, ⟨[⟨4⟩], []⟩]
  ops := #[
    { opcode := .opVariable, resultType := some ⟨4⟩, args := [.literal ⟨0⟩], debugName := some "hue",
      decorations := [⟨.location, [2]⟩] },
    { opcode := .opConstant, resultType := some ⟨3⟩, args := [.literal ⟨1⟩] },
    { opcode := .opExtInst, resultType := some ⟨3⟩, args := [.extImport ⟨0⟩, .literal ⟨3⟩, .op ⟨1⟩] },
    { opcode := .opStore, resultType := none, args := [.op ⟨0⟩, .op ⟨2⟩] },
    { opcode := .opReturn, resultType := none, args := [] },
    { opcode := .opVariable, resultType := some ⟨5⟩, args := [.literal ⟨2⟩] }]
  literals := #[.int 3, .float 0x3F800000, .int 7, .int 8]
  imports := #[⟨"GLSL.std.450"⟩]

/-- The instructions of the module, section by section. -/
def painterFrames : List Frame := [
  ⟨17, [1]⟩, ⟨11, [1, 0x4C534C47, 0x6474732E, 0x3035342E, 0]⟩, ⟨14, [0, 1]⟩,
  ⟨15, [4, 3, 0x6E696170, 0x74, 2]⟩, ⟨15, [5, 4, 0x0078696D, 2]⟩, ⟨16, [3, 7]⟩, ⟨16, [4, 17, 1, 1, 1]⟩,
  ⟨5, [5, 0x67617453, 0x65]⟩, ⟨5, [2, 0x00657568]⟩, ⟨5, [3, 0x6E696170, 0x74]⟩, ⟨5, [4, 0x0078696D]⟩, ⟨71, [2, 30, 2]⟩,
  ⟨30, [5]⟩, ⟨19, [6]⟩, ⟨33, [7, 6]⟩, ⟨22, [8, 32]⟩, ⟨43, [8, 9, 0x3F800000]⟩, ⟨32, [10, 3, 8]⟩, ⟨59, [10, 2, 3]⟩,
  ⟨32, [11, 7, 8]⟩,
  ⟨54, [6, 3, 0, 7]⟩, ⟨248, [12]⟩, ⟨59, [11, 13, 7]⟩, ⟨12, [8, 14, 1, 8, 9]⟩, ⟨62, [2, 14]⟩, ⟨253, []⟩, ⟨56, []⟩,
  ⟨54, [6, 4, 0, 7]⟩, ⟨248, [15]⟩, ⟨253, []⟩, ⟨56, []⟩]

theorem painter_logical_layout : ∃ binary c idOf body, painter.emitType ⟨0⟩ = .ok binary ∧
    painter.dependencies (.type ⟨0⟩) = .ok c ∧ binary.words = [0x07230203, 0x00010000, 0, 16, 0] ++ body ∧
    splitFrames body = some painterFrames ∧
    List.Forall₂ (fun part frame => ∃ draft, painter.Instructs (painter.interfaceOf c) part draft ∧
      draft.SpelledBy idOf frame) (painter.outline c) painterFrames ∧
    Identifies idOf {node | painter.Mentions c node} 16 := by
  have run : (fun binary => (binary.reflection.idBound, splitFrames (binary.words.drop 5))) <$> painter.emitType ⟨0⟩ =
      .ok (16, some painterFrames) := by
    decide +kernel
  obtain ⟨binary, emitted, shown⟩ := Outcome.map_eq_ok_iff.mp run
  obtain ⟨bound, split⟩ := Prod.mk.inj shown
  obtain ⟨c, idOf, body, frames, found, words, known, parts, identified⟩ := emitType_logical_layout emitted
  have rest : binary.words.drop 5 = body := by
    rw [words]
    rfl
  rw [rest, known] at split
  cases split
  rw [bound] at words identified
  exact ⟨binary, c, idOf, body, emitted, found, words, known, parts, identified⟩

end Library

end ShaderGraph
