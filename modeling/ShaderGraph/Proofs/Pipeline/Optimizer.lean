import ShaderGraph.Pass.Optimizer
import ShaderGraph.Proofs.Emission.Numbering
import ShaderGraph.Proofs.Loading.DeclaredFirst

namespace ShaderGraph

namespace Spirv

/-- Whether an instruction does anything. -/
def Instruction.acts (i : Instruction) : Bool := i.opcode ≠ .opNop

theorem Instruction.acts_of_opcode {i : Instruction} {opcode : Opcode} (known : i.opcode = opcode)
    (other : opcode ≠ .opNop) : i.acts = true := by
  rw [acts, known]
  exact decide_eq_true other

/-- Whether an instruction is left in a module. -/
def Instruction.isLeft (stripNames : Bool) (i : Instruction) : Bool :=
  i.opcode ≠ .opNop && !(stripNames && i.opcode = .opName)

theorem Instruction.isLeft_of_section {i : Instruction} {s : Section} (belongs : i.opcode.sectionAt? .outside = some s)
    (other : s ≠ .name) (stripNames : Bool) : i.isLeft stripNames = true := by
  have acts : i.opcode ≠ .opNop := by
    intro opcode
    rw [opcode] at belongs
    cases belongs
  have unnamed : i.opcode ≠ .opName := by
    intro opcode
    rw [opcode] at belongs
    exact other (Option.some.inj belongs).symm
  simp [isLeft, acts, unnamed]

/-! What leaving out instructions that do nothing makes of functions. -/

namespace BasicBlock.Arranged

variable {b : BasicBlock}

theorem withoutNops (arranged : b.Arranged) : b.withoutNops.Arranged := by
  obtain ⟨label, front, last, body, ordinary, terminates⟩ := arranged
  have kept : last.acts = true := by
    refine Instruction.acts_of_opcode rfl fun opcode => ?_
    rw [opcode] at terminates
    cases terminates
  refine ⟨label, front.filter Instruction.acts, last, ?_, ?_, terminates⟩
  · calc b.withoutNops.body = b.body.filter Instruction.acts := rfl
      _ = front.filter Instruction.acts ++ [last] := by simp [body, kept]
  · exact fun i member => ordinary i (List.mem_of_mem_filter member)

theorem instructions_withoutNops (arranged : b.Arranged) :
    b.withoutNops.instructions = b.instructions.filter Instruction.acts := by
  have label : b.label.acts = true := Instruction.acts_of_opcode arranged.label nofun
  rw [instructions, instructions, List.filter_cons_of_pos label]
  rfl

theorem section? (arranged : b.Arranged) :
    ∀ i ∈ b.instructions, i.opcode.section? = none := by
  obtain ⟨label, front, last, body, ordinary, terminates⟩ := arranged
  rw [instructions, body, List.forall_mem_cons, List.forall_mem_append, List.forall_mem_singleton]
  refine ⟨by rw [label]; rfl, fun i member => ?_, ?_⟩
  · have known := ordinary i member
    simp only [Opcode.isOrdinary, Bool.and_eq_true, Option.isNone_iff_eq_none] at known
    exact known.1.1
  · generalize last.opcode = opcode at terminates
    cases opcode <;> first | rfl | cases terminates

end BasicBlock.Arranged

def FunctionBody.withoutNops (f : FunctionBody) : FunctionBody :=
  { f with blocks := f.blocks.map BasicBlock.withoutNops }

namespace FunctionBody.Arranged

variable {f : FunctionBody}

theorem withoutNops (arranged : f.Arranged) : f.withoutNops.Arranged where
  definition := arranged.definition
  parameters := arranged.parameters
  blocks := List.forall_mem_map.mpr fun b member => (arranged.blocks b member).withoutNops
  ending := arranged.ending

theorem instructions_withoutNops (arranged : f.Arranged) :
    f.withoutNops.instructions = f.instructions.filter Instruction.acts := by
  have definition : f.definition.acts = true := Instruction.acts_of_opcode arranged.definition nofun
  have ending : f.ending.acts = true := Instruction.acts_of_opcode arranged.ending nofun
  have parameters : f.parameters.filter Instruction.acts = f.parameters :=
    List.filter_eq_self.mpr fun i member => Instruction.acts_of_opcode (arranged.parameters i member) nofun
  have blocks : (f.blocks.map BasicBlock.withoutNops).flatMap BasicBlock.instructions =
      (f.blocks.flatMap BasicBlock.instructions).filter Instruction.acts := by
    rw [List.filter_flatMap, List.flatMap_map]
    exact List.flatMap_congr fun b member => (arranged.blocks b member).instructions_withoutNops
  simp [instructions, FunctionBody.withoutNops, blocks, parameters, definition, ending]

theorem section? (arranged : f.Arranged) :
    ∀ i ∈ f.instructions, i.opcode.section? = none := by
  rw [instructions, List.forall_mem_append, List.forall_mem_singleton, List.cons_append, List.forall_mem_cons,
    List.forall_mem_append]
  refine ⟨⟨by rw [arranged.definition]; rfl, fun i member => by rw [arranged.parameters i member]; rfl, ?_⟩,
    by rw [arranged.ending]; rfl⟩
  intro i member
  obtain ⟨b, inside, member⟩ := List.mem_flatMap.mp member
  exact (arranged.blocks b inside).section? i member

end FunctionBody.Arranged

namespace Module

variable {m : Module} {stripNames : Bool}

theorem part_optimized (m : Module) (stripNames : Bool) (s : Section) : (m.optimized stripNames).part s =
    match s with
    | .capability => m.capabilities.eraseDups
    | .name => if stripNames then [] else m.names
    | s => m.part s := by
  cases s <;> rfl

theorem part_optimized_subset (s : Section) : (m.optimized stripNames).part s ⊆ m.part s := by
  intro i member
  rw [part_optimized] at member
  cases s with
  | capability => exact List.mem_eraseDups.mp member
  | name => cases stripNames <;> simp_all [part]
  | _ => exact member

theorem functions_optimized : (m.optimized stripNames).functions = m.functions.map FunctionBody.withoutNops := rfl

theorem Arranged.optimized (arranged : m.Arranged) (stripNames : Bool) : (m.optimized stripNames).Arranged where
  major := arranged.major
  minor := arranged.minor
  parts s i member := arranged.parts s i (part_optimized_subset s member)
  functions := List.forall_mem_map.mpr fun f member => (arranged.functions f member).withoutNops

theorem Arranged.functions_optimized (arranged : m.Arranged) (stripNames : Bool) :
    (m.optimized stripNames).functions.flatMap FunctionBody.instructions =
      (m.functions.flatMap FunctionBody.instructions).filter Instruction.acts := by
  rw [Module.functions_optimized, List.filter_flatMap, List.flatMap_map]
  exact List.flatMap_congr fun f member => (arranged.functions f member).instructions_withoutNops

theorem Arranged.optimized_subset (arranged : m.Arranged) (stripNames : Bool) :
    (m.optimized stripNames).instructions ⊆ m.instructions := by
  rw [instructions, instructions, arranged.functions_optimized]
  refine List.append_subset.mpr ⟨?_, ?_⟩
  · intro i member
    rw [globals_eq] at member
    obtain ⟨s, _, member⟩ := List.mem_flatMap.mp member
    exact List.mem_append_left _ (m.part_subset_globals s (part_optimized_subset s member))
  · exact fun i member => List.mem_append_right _ (List.mem_of_mem_filter member)

theorem optimized_optimized (m : Module) (stripNames : Bool) :
    (m.optimized stripNames).optimized stripNames = m.optimized stripNames := by
  have capabilities := eraseDups_of_nodup (nodup_eraseDups m.capabilities)
  have block (b : BasicBlock) : b.withoutNops.withoutNops = b.withoutNops := by simp [BasicBlock.withoutNops]
  cases stripNames <;> simp [optimized, capabilities, Function.comp_def, block]

/-! Which instructions are left. -/

theorem Arranged.part_optimized (arranged : m.Arranged) (once : m.capabilities.Nodup)
    (plain : ∀ i ∈ m.names, i.opcode = .opName) (stripNames : Bool) (s : Section) :
    (m.optimized stripNames).part s = (m.part s).filter (Instruction.isLeft stripNames) := by
  have all (other : s ≠ .name) : (m.part s).filter (Instruction.isLeft stripNames) = m.part s :=
    List.filter_eq_self.mpr fun i member => Instruction.isLeft_of_section (arranged.parts s i member) other stripNames
  rw [Module.part_optimized]
  cases s with
  | capability => exact (eraseDups_of_nodup once).trans (all nofun).symm
  | name =>
    cases stripNames with
    | true =>
      refine (List.filter_eq_nil_iff.mpr fun i member => ?_).symm
      simp [Instruction.isLeft, plain i member]
    | false =>
      refine (List.filter_eq_self.mpr fun i member => ?_).symm
      simp [Instruction.isLeft, plain i member]
  | _ => exact (all nofun).symm

/-- Only names and instructions that do nothing are left out of a module that lists each capability once. -/
theorem Arranged.instructions_optimized (arranged : m.Arranged) (once : m.capabilities.Nodup)
    (plain : ∀ i ∈ m.names, i.opcode = .opName) (stripNames : Bool) :
    (m.optimized stripNames).instructions = m.instructions.filter (Instruction.isLeft stripNames) := by
  have globals : (m.optimized stripNames).globals = m.globals.filter (Instruction.isLeft stripNames) := by
    rw [globals_eq, globals_eq, List.filter_flatMap]
    exact List.flatMap_congr fun s _ => arranged.part_optimized once plain stripNames s
  have functions : (m.functions.flatMap FunctionBody.instructions).filter Instruction.acts =
      (m.functions.flatMap FunctionBody.instructions).filter (Instruction.isLeft stripNames) := by
    refine List.filter_congr fun i member => ?_
    obtain ⟨f, inside, member⟩ := List.mem_flatMap.mp member
    have unnamed : i.opcode ≠ .opName := by
      intro opcode
      have known := (arranged.functions f inside).section? i member
      rw [opcode] at known
      cases known
    simp [Instruction.acts, Instruction.isLeft, unnamed]
  rw [instructions, arranged.functions_optimized, functions, globals, ← List.filter_append]
  rfl

/-! The optimized module can be read again. -/

/-- Outside functions only declarations matter for the types of numbers. -/
theorem filter_globals (arranged : m.Arranged) (legible : ∀ i ∈ m.globals, ∃ types, i.Legible types) :
    m.globals.filter Instruction.isRelevant = m.declarations.filter Instruction.isRelevant := by
  have silent (s : Section) : (m.part s).filter Instruction.isRelevant =
      if s = .declaration then m.declarations.filter Instruction.isRelevant else [] := by
    split
    · next declares => rw [declares]; rfl
    · next other =>
      refine List.filter_eq_nil_iff.mpr fun i member => ?_
      obtain ⟨_, legible⟩ := legible i (m.part_subset_globals s member)
      rw [legible.isRelevant_eq_false (Opcode.isSilent_of_section (arranged.parts s i member) other)]
      decide
  simp [globals_eq, silent, Section.all]

namespace ReadAs

variable {words : List UInt32} {is : List Instruction} {a : Arrangement}

theorem rereads_optimized (read : ReadAs words m is a) (first : DeclaredFirst (streamOpcodes words))
    (kept : SelectorsKept (streamOpcodes words)) (stripNames : Bool) :
    Rereads .empty (m.optimized stripNames).instructions := by
  rw [read.opcodes] at first kept
  have arranged := read.arranged
  have legible : ∀ i ∈ (m.optimized stripNames).instructions, ∃ types, i.Legible types :=
    fun i member => read.rereads.exists_legible (read.instructions_subset (arranged.optimized_subset stripNames member))
  have ordered := read.rereads.declarations_inside read.run first kept
  have working : (a.inside.filter Instruction.acts).filter Instruction.isRelevant =
      a.inside.filter Instruction.isRelevant := by
    rw [List.filter_filter]
    refine List.filter_congr fun i member => ?_
    cases acts : i.acts with
    | true => exact Bool.and_true _
    | false =>
      have opcode : i.opcode = .opNop := Decidable.of_not_not (of_decide_eq_false acts)
      rw [← read.functions_eq] at member
      obtain ⟨_, legible⟩ := read.rereads.exists_legible (read.instructions_subset (List.mem_append_right _ member))
      rw [Bool.and_false, legible.isRelevant_eq_false (by rw [opcode]; rfl)]
  refine ordered.of_filter_eq legible ?_
  rw [instructions, List.forall_mem_append] at legible
  rw [instructions, List.filter_append, filter_globals (arranged.optimized stripNames) legible.1,
    arranged.functions_optimized, read.functions_eq, working, ← List.filter_append, read.module_eq]
  rfl

end ReadAs

end Module

end Spirv

open Spirv

theorem readModule_of_ofWords {words : List UInt32} {m : Module} (loads : Module.ofWords words = .ok m) :
    readModule words = .ok m := by
  rw [readModule, loads]
  rfl

theorem optimizer_run (stripNames : Bool) {words : List UInt32} {m : Module} (loads : Module.ofWords words = .ok m)
    (reflection : Reflection) : (optimizer stripNames).run (.binary ⟨words, reflection⟩) =
      .ok (.binary ⟨(m.optimized stripNames).words, reflection⟩) := by
  refine Outcome.bind_eq_ok_iff.mpr ⟨_, rfl, Outcome.bind_eq_ok_iff.mpr ⟨m, ?_, rfl⟩⟩
  exact readModule_of_ofWords loads

/-- The optimizer leaves out what a module does not need, and nothing when it is run again. -/
theorem optimizer_keeps_module (stripNames : Bool) {b : Binary} {m : Module} (loads : Module.ofWords b.words = .ok m)
    (first : DeclaredFirst (streamOpcodes b.words)) (kept : SelectorsKept (streamOpcodes b.words)) :
    ∃ words, (optimizer stripNames).run (.binary b) = .ok (.binary { b with words }) ∧
      Module.ofWords words = .ok { m with
        capabilities := m.capabilities.eraseDups
        names := if stripNames then [] else m.names
        functions := m.functions.map fun f => { f with
          blocks := f.blocks.map fun block => { block with body := block.body.filter (·.opcode ≠ .opNop) } } } ∧
      (optimizer stripNames).run (.binary { b with words }) = .ok (.binary { b with words }) := by
  obtain ⟨is, a, read⟩ := Module.readAs_of_ofWords loads
  have rereads := read.rereads_optimized first kept stripNames
  have again := Module.ofWords_words (read.arranged.optimized stripNames) rereads
  refine ⟨(m.optimized stripNames).words, optimizer_run stripNames loads b.reflection, again, ?_⟩
  rw [optimizer_run stripNames again, Module.optimized_optimized]

/-- A capability is declared twice, a name stands among the types, and a block has an instruction that does nothing
before it switches on a parameter of 64 bits. -/
def switchOnParameter : List UInt32 :=
  [0x07230203, 0x00010300, 7, 9, 5, 0x00020011, 1, 0x00020011, 0, 0x00020011, 1, 0x0003000E, 0, 1, 0x00020013, 1,
    0x00040015, 2, 64, 0, 0x00040021, 3, 1, 2, 0x00030005, 4, 83, 0x0005002B, 2, 5, 1, 2, 0x00050036, 1, 4, 0, 3,
    0x00030037, 2, 6, 0x000200F8, 7, 0x00010000, 0x000600FB, 6, 8, 1, 0, 8, 0x000200F8, 8, 0x000100FD, 0x00010038]

theorem switchOnParameter_kept : ∃ m words, Module.ofWords switchOnParameter = .ok m ∧
    DeclaredFirst (streamOpcodes switchOnParameter) ∧ SelectorsKept (streamOpcodes switchOnParameter) ∧
      (optimizer true).run (.binary ⟨switchOnParameter, {}⟩) = .ok (.binary ⟨words, {}⟩) ∧
      Module.ofWords words = .ok { m with
        capabilities := m.capabilities.eraseDups
        names := []
        functions := m.functions.map fun f => { f with
          blocks := f.blocks.map fun block => { block with body := block.body.filter (·.opcode ≠ .opNop) } } } ∧
      (optimizer true).run (.binary ⟨words, {}⟩) = .ok (.binary ⟨words, {}⟩) := by
  have loaded : (fun m : Module => m.capabilities.length) <$> Module.ofWords switchOnParameter = .ok 3 := by
    decide +kernel
  obtain ⟨m, loads, _⟩ := Outcome.map_eq_ok_iff.mp loaded
  have opcodes : streamOpcodes switchOnParameter = [.opCapability, .opCapability, .opCapability, .opMemoryModel,
    .opTypeVoid, .opTypeInt, .opTypeFunction, .opName, .opConstant, .opFunction, .opFunctionParameter, .opLabel,
    .opNop, .opSwitch, .opLabel, .opReturn, .opFunctionEnd] := by decide +kernel
  have first : DeclaredFirst (streamOpcodes switchOnParameter) := by rw [opcodes]; decide
  have kept : SelectorsKept (streamOpcodes switchOnParameter) := by rw [opcodes]; decide
  obtain ⟨words, result⟩ := optimizer_keeps_module true (b := ⟨switchOnParameter, {}⟩) loads first kept
  exact ⟨m, words, loads, first, kept, result⟩

/-- A parameter of 64 bits stands after a switch on it, so the words of the case are read without its type. -/
def switchBeforeParameter : List UInt32 :=
  [0x07230203, 0x00010000, 0, 9, 0, 0x00020011, 1, 0x0003000E, 0, 1, 0x00030005, 1, 0x53, 0x00040005, 2, 0x6E69616D, 0,
    0x0002001E, 1, 0x00020013, 3, 0x00030021, 4, 3, 0x00040015, 5, 64, 0, 0x00050036, 3, 2, 0, 4, 0x000200F8, 6,
    0x000500FB, 7, 8, 0, 8, 0x000200F8, 8, 0x00030037, 5, 7, 0x000100FD, 0x00010038]

/-- Parameters are written in front of blocks. The case has no word for the label when its type is known. -/
theorem switchBeforeParameter_not_read_again : ∃ m words, Module.ofWords switchBeforeParameter = .ok m ∧
    (m.instructions.filterMap Instruction.result).Nodup ∧ DeclaredFirst (streamOpcodes switchBeforeParameter) ∧
      (optimizer false).run (.binary ⟨switchBeforeParameter, {}⟩) = .ok (.binary ⟨words, {}⟩) ∧
      (Module.ofWords words).isOk = false := by
  have loaded : (fun m : Module => (m.instructions.filterMap Instruction.result,
    (Module.ofWords (m.optimized false).words).isOk)) <$> Module.ofWords switchBeforeParameter =
      .ok ([1, 3, 4, 5, 2, 7, 6, 8], false) := by decide +kernel
  obtain ⟨m, loads, found⟩ := Outcome.map_eq_ok_iff.mp loaded
  obtain ⟨results, refused⟩ := Prod.mk.inj found
  have opcodes : streamOpcodes switchBeforeParameter = [.opCapability, .opMemoryModel, .opName, .opName,
    .opTypeStruct, .opTypeVoid, .opTypeFunction, .opTypeInt, .opFunction, .opLabel, .opSwitch, .opLabel,
    .opFunctionParameter, .opReturn, .opFunctionEnd] := by decide +kernel
  refine ⟨m, _, loads, ?_, ?_, optimizer_run false loads {}, refused⟩
  · rw [results]; decide
  · rw [opcodes]; decide

end ShaderGraph
