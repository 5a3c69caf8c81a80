import ShaderGraph.Proofs.Loading.Arrangement
import ShaderGraph.Proofs.Loading.Sequence

namespace ShaderGraph.Spirv

/-- The opcodes of the instructions of a stream. -/
def streamOpcodes (words : List UInt32) : List Opcode :=
  ((splitFrames (words.drop 5)).getD []).filterMap fun f => Opcode.ofCode? f.code

namespace Arrangement

theorem mem_sectionOf {a : Arrangement} {s : Section} {i : Instruction} : i ∈ a.sectionOf s ↔ (s, i) ∈ a.filed := by
  simp only [sectionOf, List.mem_filterMap, Prod.exists, Option.ite_none_right_eq_some, Option.some.injEq]
  constructor
  · rintro ⟨_, _, filed, rfl, rfl⟩
    exact filed
  · intro filed
    exact ⟨s, i, filed, rfl, rfl⟩

theorem finish_eq_ok {a a' : Arrangement} (finished : a.finish = .ok a') : a' = a ∧ a.opened = none := by
  unfold finish at finished
  split at finished <;> cases finished
  next closed => exact ⟨rfl, closed⟩

end Arrangement

/-! A module is read from the words it is written as. -/

def Section.all : List Section :=
  [.capability, .extension, .extImport, .memoryModel, .entryPoint, .executionMode, .source, .name, .processed,
    .decoration, .declaration]

namespace Module

def part (m : Module) : Section → List Instruction
  | .capability => m.capabilities
  | .extension => m.extensions
  | .extImport => m.imports
  | .memoryModel => m.memoryModel.toList
  | .entryPoint => m.entryPoints
  | .executionMode => m.executionModes
  | .source => m.sources
  | .name => m.names
  | .processed => m.processed
  | .decoration => m.decorations
  | .declaration => m.declarations

theorem globals_eq (m : Module) : m.globals = Section.all.flatMap m.part := by
  simp [globals, Section.all, part]

theorem part_subset_globals (m : Module) (s : Section) : m.part s ⊆ m.globals := by
  have member : s ∈ Section.all := by cases s <;> decide
  rw [globals_eq]
  exact fun i within => List.mem_flatMap.mpr ⟨s, member, within⟩

/-- The instructions outside functions with their sections. -/
def filings (m : Module) : List (Section × Instruction) :=
  Section.all.flatMap fun s => (m.part s).map (s, ·)

theorem map_snd_filings (m : Module) : m.filings.map Prod.snd = m.globals := by
  simp [filings, globals_eq, List.map_flatMap, Function.comp_def]

theorem sectionOf_filings (m : Module) (s : Section) (functions : List FunctionBody) :
    Arrangement.sectionOf ⟨m.filings, functions, none⟩ s = m.part s := by
  have own (t : Section) : Arrangement.sectionOf ⟨(m.part t).map (t, ·), functions, none⟩ s =
      if t = s then m.part t else [] := by
    rw [Arrangement.sectionOf, List.filterMap_map]
    split
    · next same => simp [same]
    · next other => simp [other]
  simp only [Arrangement.sectionOf] at own ⊢
  simp only [filings, List.filterMap_flatMap, own]
  cases s <;> simp [Section.all]

/-- Every instruction is in its section, and functions are as they are read. -/
structure Arranged (m : Module) : Prop where
  major : m.major.toNat < 256
  minor : m.minor.toNat < 256
  parts : ∀ s, ∀ i ∈ m.part s, i.opcode.sectionAt? .outside = some s
  functions : ∀ f ∈ m.functions, f.Arranged

variable {m : Module}

theorem toNat_version {major minor : UInt32} (high : major.toNat < 256) (low : minor.toNat < 256) :
    (major <<< 16 ||| minor <<< 8).toNat = major.toNat * 65536 + minor.toNat * 256 := by
  have shifted : (major <<< 16).toNat = major.toNat <<< 16 := by
    simp [Nat.shiftLeft_eq]; omega
  have shifted' : (minor <<< 8).toNat = minor.toNat * 256 := by
    simp [Nat.shiftLeft_eq]; omega
  rw [UInt32.toNat_or, shifted, shifted', ← Nat.shiftLeft_add_eq_or_of_lt (by omega), Nat.shiftLeft_eq]

theorem toNat_middleByte (word : UInt32) :
    (word >>> 16 &&& 0xFF).toNat = word.toNat / 65536 % 256 ∧ (word >>> 8 &&& 0xFF).toNat = word.toNat / 256 % 256 := by
  have low (n : Nat) : n &&& 255 = n % 256 := Nat.and_two_pow_sub_one_eq_mod n 8
  constructor <;> simp [Nat.shiftRight_eq_div_pow, low]

theorem byte_version {major minor : UInt32} (high : major.toNat < 256) (low : minor.toNat < 256) :
    (major <<< 16 ||| minor <<< 8) >>> 16 &&& 0xFF = major ∧ (major <<< 16 ||| minor <<< 8) >>> 8 &&& 0xFF = minor := by
  constructor
  · apply UInt32.toNat.inj
    rw [(toNat_middleByte _).1, toNat_version high low]
    omega
  · apply UInt32.toNat.inj
    rw [(toNat_middleByte _).2, toNat_version high low]
    omega

theorem ofArrangement_filings (arranged : m.Arranged) :
    ofArrangement m.header.version m.bound ⟨m.filings, m.functions, none⟩ = m := by
  obtain ⟨major, minor⟩ := byte_version arranged.major arranged.minor
  have memoryModel : m.memoryModel.toList.getLast? = m.memoryModel := by cases m.memoryModel <;> rfl
  simp only [ofArrangement, sectionOf_filings, header, major, minor, part, memoryModel]

theorem run_instructions (arranged : m.Arranged) :
    Arrangement.Run {} m.instructions ⟨m.filings, m.functions, none⟩ := by
  rw [instructions, ← map_snd_filings]
  refine .append (Arrangement.Run.of_filings ?_) (Arrangement.Run.of_functions arranged.functions)
  intro p member
  obtain ⟨s, _, member⟩ := List.mem_flatMap.mp member
  obtain ⟨i, within, rfl⟩ := List.mem_map.mp member
  exact arranged.parts s i within

/-- The words of a module are read as the module. -/
theorem ofWords_words (arranged : m.Arranged) (rereads : Rereads .empty m.instructions) :
    ofWords m.words = .ok m := by
  have read := readInstructions_words rereads 1 5 [] (Nat.le_refl _)
  have placed := Arrangement.foldlM_place_eq_ok_iff.mpr (run_instructions arranged)
  have header : readHeader m.words = .ok (m.header.version, m.bound, m.instructions.flatMap Instruction.words) := rfl
  simp only [ofWords, header, read, List.reverse_nil, List.nil_append, placed, Arrangement.finish,
    ofArrangement_filings arranged]

/-! What was read is arranged. -/

theorem part_ofArrangement_subset (version bound : UInt32) (a : Arrangement) (s : Section) :
    (ofArrangement version bound a).part s ⊆ a.sectionOf s := by
  cases s with
  | memoryModel =>
    intro i member
    exact List.mem_of_getLast? (Option.mem_toList.mp member)
  | _ => exact List.Subset.refl _

theorem arranged_ofArrangement {version bound : UInt32} {a : Arrangement} (arranged : a.Arranged) :
    (ofArrangement version bound a).Arranged where
  major := by
    rw [ofArrangement, (toNat_middleByte version).1]
    exact Nat.mod_lt _ (by decide)
  minor := by
    rw [ofArrangement, (toNat_middleByte version).2]
    exact Nat.mod_lt _ (by decide)
  parts s i member := by
    exact arranged.filed _ (Arrangement.mem_sectionOf.mp (part_ofArrangement_subset version bound a s member))
  functions := arranged.functions

/-- How a module was read. -/
structure ReadAs (words : List UInt32) (m : Module) (is : List Instruction) (a : Arrangement) : Prop where
  magic : words.head? = some magicNumber
  module_eq : m = ofArrangement (words.getD 1 0) (words.getD 3 0) a
  frames : ∃ frames, splitFrames (words.drop 5) = some frames ∧ ReadsAll .empty is frames
  run : Arrangement.Run {} is a
  ended : a.opened = none

theorem readHeader_eq_ok {words rest : List UInt32} {version bound : UInt32}
    (read : readHeader words = .ok (version, bound, rest)) :
    words.head? = some magicNumber ∧ version = words.getD 1 0 ∧ bound = words.getD 3 0 ∧ rest = words.drop 5 := by
  unfold readHeader at read
  split at read
  · next magic version generator bound reserved rest =>
    split at read
    · next right =>
      cases read
      exact ⟨by rw [right]; rfl, rfl, rfl, rfl⟩
    · split at read <;> cases read
  · cases read

theorem readAs_of_ofWords {words : List UInt32} (loads : ofWords words = .ok m) :
    ∃ is a, ReadAs words m is a := by
  unfold ofWords at loads
  split at loads
  · cases loads
  next version bound rest header =>
  obtain ⟨magic, rfl, rfl, rfl⟩ := readHeader_eq_ok header
  cases read : readInstructions .empty 1 5 [] (words.drop 5).length (words.drop 5) with | mk is stop? =>
  simp only [read] at loads
  split at loads
  · cases loads
  next a placed =>
  split at loads
  · cases loads
  · cases loads
  next a' finished =>
  cases loads
  obtain ⟨_, frames, rfl, split, reads⟩ := readsAll_of_readInstructions (Nat.le_refl _) read
  obtain ⟨rfl, ended⟩ := Arrangement.finish_eq_ok finished
  exact ⟨is, _, magic, rfl, ⟨frames, split, reads⟩, Arrangement.foldlM_place_eq_ok_iff.mp placed, ended⟩

namespace ReadAs

variable {words : List UInt32} {is : List Instruction} {a : Arrangement}

theorem arranged (read : ReadAs words m is a) : m.Arranged := by
  have start : Arrangement.Arranged {} := ⟨by simp, by simp, by simp⟩
  rw [read.module_eq]
  exact arranged_ofArrangement (read.run.arranged start)

theorem functions_eq (read : ReadAs words m is a) : m.functions.flatMap FunctionBody.instructions = a.inside := by
  rw [Arrangement.inside, read.ended, read.module_eq]
  exact (List.append_nil _).symm

/-- No instruction comes from elsewhere. -/
theorem instructions_subset (read : ReadAs words m is a) : m.instructions ⊆ is := by
  have all := Stand.map_snd_along Instruction.opcode .outside is
  rw [instructions, read.functions_eq, globals_eq]
  refine List.append_subset.mpr ⟨?_, ?_⟩
  · intro i member
    obtain ⟨s, _, member⟩ := List.mem_flatMap.mp member
    rw [read.module_eq] at member
    have filed := part_ofArrangement_subset _ _ a s member
    rw [read.run.sectionOf_eq] at filed
    rw [← all]
    exact (List.filter_sublist.map _).subset filed
  · refine List.Subset.trans read.run.inside_perm.subset fun i member => ?_
    rw [← all]
    exact (List.filter_sublist.map _).subset member

theorem rereads (read : ReadAs words m is a) : Rereads .empty is := by
  obtain ⟨frames, _, reads⟩ := read.frames
  exact reads.rereads

theorem opcodes (read : ReadAs words m is a) : streamOpcodes words = is.map Instruction.opcode := by
  obtain ⟨frames, split, reads⟩ := read.frames
  rw [streamOpcodes, split, Option.getD_some, reads.opcodes]

end ReadAs

end Module

end ShaderGraph.Spirv
