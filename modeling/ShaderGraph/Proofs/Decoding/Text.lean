import Mathlib.Data.List.Basic
import Mathlib.Data.Nat.Digits.Defs
import Mathlib.Data.Set.Function
import Mathlib.Tactic.SplitIfs
import ShaderGraph.Spirv.Packed
import ShaderGraph.Text.Utf8

namespace ShaderGraph.Spirv

/-- Reads a text and leaves the words after it. -/
def readText? (words : List UInt32) : Option (String × List UInt32) := do
  let (bytes, rest) ← unpackBytes words
  let text ← (Text.decodeUtf8 ⟨bytes.toArray⟩).toOption
  return (text, rest)

/-- The bytes of a text, without the zeros that end it in a module. -/
def textBytes (s : String) : List UInt8 := s.toUTF8.data.toList

@[simp] theorem length_textBytes (s : String) : (textBytes s).length = s.utf8ByteSize := by
  simp [textBytes]

theorem bytesOfWord_wordOfBytes (a b c d : UInt8) : bytesOfWord (wordOfBytes a b c d) = [a, b, c, d] := by
  simp only [bytesOfWord, wordOfBytes, List.cons.injEq, and_true]
  refine ⟨?_, ?_, ?_, ?_⟩
  all_goals
    apply UInt8.eq_of_toBitVec_eq
    apply BitVec.eq_of_getLsbD_eq
    intro i inside
  · simp
  · have second : 8 + i < 16 := by omega
    have third : 8 + i < 24 := by omega
    simp (disch := omega) [*]
  · have third : 16 + i < 24 := by omega
    simp (disch := omega) [*, BitVec.getLsbD_of_ge]
  · simp (disch := omega) [*, BitVec.getLsbD_of_ge]

/-- A word is the number that its bytes are the digits of, the least first. -/
theorem ofDigits_bytesOfWord (w : UInt32) : Nat.ofDigits 256 ((bytesOfWord w).map UInt8.toNat) = w.toNat := by
  have small := w.toNat_lt
  simp only [bytesOfWord, List.map_cons, List.map_nil, Nat.ofDigits_cons, Nat.ofDigits_nil, UInt32.toNat_toUInt8,
    UInt32.toNat_shiftRight, Nat.shiftRight_eq_div_pow, UInt32.reduceToNat, Nat.reduceMod, Nat.reducePow]
  omega

theorem flatMap_range_four {α : Type} (f : Nat → α) (count : Nat) :
    ((List.range count).flatMap fun i => [f (4 * i), f (4 * i + 1), f (4 * i + 2), f (4 * i + 3)]) =
      (List.range (4 * count)).map f := by
  induction count with
  | zero => rfl
  | succ count ih =>
    rw [List.range_succ, List.flatMap_append, ih, Nat.mul_succ]
    simp [List.range_succ]

/-- The bytes of a packed text are its own bytes, filled up with zeros. -/
theorem flatMap_bytesOfWord_packText (s : String) :
    (packText s).flatMap bytesOfWord =
      textBytes s ++ List.replicate (4 * packedLength s.utf8ByteSize - s.utf8ByteSize) 0 := by
  have byteAt (i : Nat) : s.toUTF8[i]? = (textBytes s)[i]? := by
    rw [textBytes, Array.getElem?_toList]
    rfl
  have fits : s.utf8ByteSize ≤ 4 * packedLength s.utf8ByteSize := by
    simp only [packedLength]
    omega
  have size : s.toUTF8.size = s.utf8ByteSize := by simp
  simp only [packText, List.flatMap_map, bytesOfWord_wordOfBytes, byteAt, size]
  rw [flatMap_range_four fun i => (textBytes s)[i]?.getD 0]
  have lengths : ((List.range (4 * packedLength s.utf8ByteSize)).map fun i => (textBytes s)[i]?.getD 0).length =
      (textBytes s ++ List.replicate (4 * packedLength s.utf8ByteSize - s.utf8ByteSize) 0).length := by
    simp only [List.length_map, List.length_range, List.length_append, length_textBytes, List.length_replicate]
    omega
  refine List.ext_getElem lengths fun i inside _ => ?_
  rw [List.getElem_map, List.getElem_range]
  by_cases own : i < s.utf8ByteSize
  · have place : i < (textBytes s).length := by simpa using own
    rw [List.getElem_append_left place, List.getElem?_eq_getElem place, Option.getD_some]
  · have outside : (textBytes s).length ≤ i := by simpa using own
    rw [List.getElem_append_right outside, List.getElem_replicate, List.getElem?_eq_none outside, Option.getD_none]

@[simp] theorem length_packText (s : String) : (packText s).length = packedLength s.utf8ByteSize := by
  simp [packText]

/-- Only the character zero has a zero byte. -/
theorem zero_notMem_utf8EncodeChar {c : Char} (nonzero : c ≠ '\x00') : 0 ∉ String.utf8EncodeChar c := by
  have positive : c.val.toNat ≠ 0 := fun zero => nonzero (Char.ext (UInt32.toNat_inj.mp zero))
  have byte {n : Nat} (low : 0 < n) (high : n < 256) : 0 ≠ UInt8.ofNat n := by
    intro same
    have zero := congrArg UInt8.toNat same
    rw [UInt8.toNat_ofNat_of_lt' high] at zero
    exact Nat.ne_of_gt low zero.symm
  simp only [String.utf8EncodeChar]
  split_ifs <;> simp only [List.mem_cons, List.not_mem_nil, or_false, not_or]
  · exact byte (by omega) (by omega)
  · exact ⟨byte (by omega) (by omega), byte (by omega) (by omega)⟩
  · exact ⟨byte (by omega) (by omega), byte (by omega) (by omega), byte (by omega) (by omega)⟩
  · exact ⟨byte (by omega) (by omega), byte (by omega) (by omega), byte (by omega) (by omega),
      byte (by omega) (by omega)⟩

theorem textBytes_eq_flatMap (s : String) : textBytes s = s.toList.flatMap String.utf8EncodeChar := by
  rw [textBytes, String.toUTF8_eq_toByteArray, ← String.utf8Encode_toList, List.utf8Encode,
    List.toList_data_toByteArray]

theorem zero_notMem_textBytes {s : String} (clean : '\x00' ∉ s.toList) : 0 ∉ textBytes s := by
  rw [textBytes_eq_flatMap]
  intro member
  obtain ⟨c, inside, zero⟩ := List.mem_flatMap.mp member
  refine zero_notMem_utf8EncodeChar ?_ zero
  rintro rfl
  exact clean inside

theorem unpackBytes_eq_some_iff {words rest : List UInt32} {bytes : List UInt8} :
    unpackBytes words = some (bytes, rest) ↔ (words.flatMap bytesOfWord).takeWhile (· ≠ 0) = bytes ∧
      bytes.length < 4 * words.length ∧ rest = words.drop (packedLength bytes.length) := by
  simp only [unpackBytes]
  constructor
  · intro found
    split at found
    · next room =>
      cases found
      exact ⟨rfl, room, rfl⟩
    · cases found
  · rintro ⟨rfl, room, rfl⟩
    exact if_pos room

theorem length_flatMap_bytesOfWord (words : List UInt32) : (words.flatMap bytesOfWord).length = 4 * words.length := by
  induction words with
  | nil => rfl
  | cons word rest ih =>
    rw [List.flatMap_cons, List.length_append, ih, List.length_cons]
    simp only [bytesOfWord, List.length_cons, List.length_nil]
    omega

theorem takeWhile_append_of_notMem {α : Type} [DecidableEq α] {stop : α} {before : List α} (free : stop ∉ before)
    (rest : List α) : (before ++ rest).takeWhile (· ≠ stop) = before ++ rest.takeWhile (· ≠ stop) := by
  refine List.takeWhile_append_of_pos fun item inside => ?_
  simpa using ne_of_mem_of_not_mem inside free

/-- What ends before a zero is read up to it, and the words after the one that holds it are left. -/
theorem unpackBytes_of_zero {words : List UInt32} {bytes more : List UInt8}
    (all : words.flatMap bytesOfWord = bytes ++ 0 :: more) (free : 0 ∉ bytes) :
    unpackBytes words = some (bytes, words.drop (packedLength bytes.length)) := by
  have room := congrArg List.length all
  rw [length_flatMap_bytesOfWord, List.length_append, List.length_cons] at room
  refine unpackBytes_eq_some_iff.mpr ⟨?_, by omega, rfl⟩
  rw [all, takeWhile_append_of_notMem free, List.takeWhile_cons_of_neg (by simp), List.append_nil]

/-- The bytes of a packed text go on with a zero, whatever follows it. -/
theorem exists_bytes_packText (s : String) (rest : List UInt32) :
    ∃ more, (packText s ++ rest).flatMap bytesOfWord = textBytes s ++ 0 :: more := by
  have room : 4 * packedLength s.utf8ByteSize - s.utf8ByteSize =
      (4 * packedLength s.utf8ByteSize - s.utf8ByteSize - 1) + 1 := by
    simp only [packedLength]
    omega
  rw [List.flatMap_append, flatMap_bytesOfWord_packText, room, List.replicate_succ]
  simp

theorem unpackBytes_packText_of_notMem {s : String} (free : 0 ∉ textBytes s) (rest : List UInt32) :
    unpackBytes (packText s ++ rest) = some (textBytes s, rest) := by
  obtain ⟨more, bytes⟩ := exists_bytes_packText s rest
  rw [unpackBytes_of_zero bytes free, length_textBytes, List.drop_left' (length_packText s)]

theorem unpackBytes_packText {s : String} (clean : '\x00' ∉ s.toList) (rest : List UInt32) :
    unpackBytes (packText s ++ rest) = some (textBytes s, rest) :=
  unpackBytes_packText_of_notMem (zero_notMem_textBytes clean) rest

theorem decodeUtf8_textBytes (s : String) : Text.decodeUtf8 ⟨(textBytes s).toArray⟩ = .ok s := by
  have same : (⟨(textBytes s).toArray⟩ : ByteArray) = s.toByteArray := by simp [textBytes]
  have valid : s.toByteArray.IsValidUTF8 := s.isValidUTF8
  rw [same, Text.decodeUtf8, String.fromUTF8?, dif_pos valid]
  rfl

/-- A text without zeros is read back, with whatever follows it. -/
theorem readText?_packText {s : String} (clean : '\x00' ∉ s.toList) (rest : List UInt32) :
    readText? (packText s ++ rest) = some (s, rest) := by
  simp [readText?, unpackBytes_packText clean, decodeUtf8_textBytes, Except.toOption]

/-- The part of a text before its first zero. -/
def beforeZero (s : String) : String := String.ofList (s.toList.takeWhile (· ≠ '\x00'))

theorem zero_notMem_beforeZero (s : String) : '\x00' ∉ (beforeZero s).toList := by
  intro member
  rw [beforeZero, String.toList_ofList] at member
  simpa using List.all_eq_true.mp List.all_takeWhile _ member

theorem beforeZero_of_notMem {s : String} (clean : '\x00' ∉ s.toList) : beforeZero s = s := by
  have whole := takeWhile_append_of_notMem clean []
  rw [List.append_nil, List.takeWhile_nil, List.append_nil] at whole
  rw [beforeZero, whole, String.ofList_toList]

/-- Up to its first zero a text has the bytes of the part before that zero. -/
theorem exists_bytes_beforeZero (s : String) : ∃ more, textBytes s ++ [0] = textBytes (beforeZero s) ++ 0 :: more := by
  by_cases member : '\x00' ∈ s.toList
  · obtain ⟨before, more, parts, free⟩ := List.eq_append_cons_of_mem member
    have first : (beforeZero s).toList = before := by
      rw [beforeZero, String.toList_ofList, parts, takeWhile_append_of_notMem free,
        List.takeWhile_cons_of_neg (by simp), List.append_nil]
    refine ⟨more.flatMap String.utf8EncodeChar ++ [0], ?_⟩
    rw [textBytes_eq_flatMap, textBytes_eq_flatMap, first, parts, List.flatMap_append, List.flatMap_cons]
    simp [String.utf8EncodeChar]
  · exact ⟨[], by rw [beforeZero_of_notMem member]⟩

/-- In general a text is read up to its first zero. -/
theorem readText?_packText_append (s : String) (rest : List UInt32) :
    readText? (packText s ++ rest) =
      some (beforeZero s, (packText s).drop (packedLength (beforeZero s).utf8ByteSize) ++ rest) := by
  obtain ⟨more, bytes⟩ := exists_bytes_packText s rest
  obtain ⟨later, split⟩ := exists_bytes_beforeZero s
  have all : (packText s ++ rest).flatMap bytesOfWord = textBytes (beforeZero s) ++ 0 :: (later ++ more) := by
    rw [bytes, List.append_cons, split, List.append_assoc, List.cons_append]
  have shorter : packedLength (beforeZero s).utf8ByteSize ≤ (packText s).length := by
    have lengths := congrArg List.length split
    simp only [List.length_append, List.length_cons, List.length_nil, length_textBytes] at lengths
    simp only [length_packText, packedLength]
    omega
  have unpacked := unpackBytes_of_zero all (zero_notMem_textBytes (zero_notMem_beforeZero s))
  rw [length_textBytes, List.drop_append_of_le_length shorter] at unpacked
  simp [readText?, unpacked, decodeUtf8_textBytes, Except.toOption]

/-- A packed text tells where it ends. Read byte by byte, each word from its least byte on, up to the first zero,
it gives itself and what follows it, or, with zeros of its own, the part before the first of them. -/
theorem packText_selfDelimiting (s : String) (rest : List UInt32) :
    readText? (packText s ++ rest) =
        some (beforeZero s, (packText s).drop (packedLength (beforeZero s).utf8ByteSize) ++ rest) ∧
      ('\x00' ∉ s.toList → readText? (packText s ++ rest) = some (s, rest)) ∧
      (packText s).length = s.utf8ByteSize / 4 + 1 ∧
      ((packText s).flatMap bytesOfWord).getLast? = some 0 ∧
      (∀ word, Nat.ofDigits 256 ((bytesOfWord word).map UInt8.toNat) = word.toNat) ∧
      Set.InjOn packText {s | '\x00' ∉ s.toList} := by
  refine ⟨readText?_packText_append s rest, fun clean => readText?_packText clean rest, length_packText s, ?_,
    ofDigits_bytesOfWord, ?_⟩
  · have room : 4 * packedLength s.utf8ByteSize - s.utf8ByteSize ≠ 0 := by
      simp only [packedLength]
      omega
    rw [flatMap_bytesOfWord_packText, List.getLast?_append, List.getLast?_replicate, if_neg room, Option.some_or]
  · intro s clean t otherClean same
    have read := readText?_packText clean []
    rw [same, readText?_packText otherClean, Option.some.injEq, Prod.mk.injEq] at read
    exact read.1.symm

theorem packText_selfDelimiting_straddling :
    '\x00' ∉ "abé€".toList ∧ readText? (packText "abé€" ++ [7, 0]) = some ("abé€", [7, 0]) ∧
      (packText "abé€").length = 2 ∧
      readText? (packText "abc\x00de" ++ [7]) = some ("abc", [0x6564, 7]) := by
  have clean : '\x00' ∉ "abé€".toList := by decide
  have straddling := packText_selfDelimiting "abé€" [7, 0]
  have ended := (packText_selfDelimiting "abc\x00de" [7]).1
  refine ⟨clean, straddling.2.1 clean, straddling.2.2.1, ended.trans ?_⟩
  decide +kernel

end ShaderGraph.Spirv
