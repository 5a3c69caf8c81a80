import ShaderGraph.Emission.Draft
import ShaderGraph.Proofs.Decoding.Text
import ShaderGraph.Spirv.Enumerant

namespace ShaderGraph

namespace Spirv

/-- Splits words into instructions, by the count of words that the first word of each states. -/
def splitFrames : List UInt32 → Option (List Frame)
  | [] => some []
  | first :: rest =>
    if Frame.countOf first = 0 ∨ rest.length + 1 < Frame.countOf first then none
    else
      (splitFrames (rest.drop (Frame.countOf first - 1))).map
        (⟨Frame.codeOf first, rest.take (Frame.countOf first - 1)⟩ :: ·)
termination_by words => words.length
decreasing_by
  rw [List.length_drop, List.length_cons]
  omega

/-- Reads a module as its header and its instructions. -/
def readStream? : List UInt32 → Option (Header × List Frame)
  | magic :: version :: generator :: bound :: reserved :: body =>
    if magic = magicNumber ∧ reserved = 0 then (⟨version, generator, bound⟩, ·) <$> splitFrames body else none
  | _ => none

/-- Whether the count of words and the opcode of an instruction fit its first word. -/
def Frame.Fits (f : Frame) : Prop := f.operands.length + 1 ≤ maxWordCount ∧ f.code < 0x10000

theorem Frame.Fits.first_toNat {f : Frame} (fits : f.Fits) :
    (UInt32.ofNat ((f.operands.length + 1) * 0x10000 + f.code)).toNat = (f.operands.length + 1) * 0x10000 + f.code := by
  obtain ⟨short, code⟩ := fits
  simp only [maxWordCount] at short
  exact UInt32.toNat_ofNat_of_lt' (by rw [UInt32.size]; omega)

/-- An instruction in front of others is split off whole. -/
theorem splitFrames_words_append {f : Frame} (fits : f.Fits) (rest : List UInt32) :
    splitFrames (f.words ++ rest) = (splitFrames rest).map (f :: ·) := by
  have first := fits.first_toNat
  have count : Frame.countOf (.ofNat ((f.operands.length + 1) * 0x10000 + f.code)) = f.operands.length + 1 := by
    rw [Frame.countOf, first]
    have code := fits.2
    omega
  have code : Frame.codeOf (.ofNat ((f.operands.length + 1) * 0x10000 + f.code)) = f.code := by
    rw [Frame.codeOf, first]
    have code := fits.2
    omega
  have whole : ¬(f.operands.length + 1 = 0 ∨ (f.operands ++ rest).length + 1 < f.operands.length + 1) := by
    rw [List.length_append]
    omega
  rw [Frame.words, List.cons_append, splitFrames, count, code, if_neg whole, Nat.add_sub_cancel, List.drop_left,
    List.take_left]

theorem splitFrames_flatMap_words {frames : List Frame} (fit : ∀ f ∈ frames, f.Fits) :
    splitFrames (frames.flatMap Frame.words) = some frames := by
  induction frames with
  | nil => rw [List.flatMap_nil, splitFrames]
  | cons f rest ih =>
    rw [List.forall_mem_cons] at fit
    rw [List.flatMap_cons, splitFrames_words_append fit.1, ih fit.2, Option.map_some]

theorem readStream?_words (header : Header) {frames : List Frame} (fit : ∀ f ∈ frames, f.Fits) :
    readStream? (header.words ++ frames.flatMap Frame.words) = some (header, frames) := by
  simp [Header.words, readStream?, splitFrames_flatMap_words fit]

/-- The instructions of a stream are what stands behind the five words of its header. -/
theorem splitFrames_of_readStream? {words : List UInt32} {header : Header} {frames : List Frame}
    (read : readStream? words = some (header, frames)) : splitFrames (words.drop 5) = some frames := by
  unfold readStream? at read
  split at read
  · split at read
    · obtain ⟨_, split, same⟩ := Option.map_eq_some_iff.mp read
      cases same
      exact split
    · cases read
  · cases read

namespace Opcode

theorem ofCode?_code (opcode : Opcode) : ofCode? opcode.code = some opcode := by
  cases opcode <;> rfl

/-- An opcode is known by its number. -/
theorem code_inj {opcode other : Opcode} : opcode.code = other.code ↔ opcode = other := by
  constructor
  · intro same
    have known := ofCode?_code opcode
    rw [same, ofCode?_code] at known
    exact (Option.some.inj known).symm
  · exact congrArg code

theorem code_lt (opcode : Opcode) : opcode.code < 0x10000 := by
  cases opcode <;> decide

end Opcode

end Spirv

open Spirv

theorem Piece.length_words (idOf : NodeRef → UInt32) (piece : Piece) :
    (piece.words idOf).length = piece.wordCount := by
  cases piece with
  | text value => exact length_packText value
  | _ => rfl

/-- The count that is checked before an instruction is emitted is that of the words that are emitted. -/
theorem Draft.length_frame (idOf : NodeRef → UInt32) (d : Draft) :
    (d.frame idOf).operands.length + 1 = d.wordCount := by
  have counted (pieces : List Piece) (start : Nat) :
      pieces.foldl (fun count piece => count + piece.wordCount) start =
        (pieces.flatMap (Piece.words idOf)).length + start := by
    induction pieces generalizing start with
    | nil => simp
    | cons piece rest ih =>
      rw [List.foldl_cons, ih, List.flatMap_cons, List.length_append, Piece.length_words]
      omega
  exact (counted d.pieces 1).symm

theorem Draft.frame_fits {idOf : NodeRef → UInt32} {d : Draft} (short : d.wordCount ≤ maxWordCount) :
    (d.frame idOf).Fits :=
  ⟨by rwa [d.length_frame], d.opcode.code_lt⟩

end ShaderGraph
