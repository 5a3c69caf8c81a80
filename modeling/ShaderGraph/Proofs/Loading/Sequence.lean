import ShaderGraph.Proofs.Loading.Replay

namespace ShaderGraph.Spirv

/-! Where the types of numbers matter. -/

/-- Whether an instruction has numbers that are as wide as a type says. -/
def Opcode.hasWidth : Opcode → Bool
  | .opConstant | .opSpecConstant | .opSwitch => true
  | _ => false

/-- The id that says how wide the numbers of an instruction are. -/
def widthSource (resultType : Option UInt32) (operands : List Operand) : Option UInt32 :=
  match resultType, operands with
  | some id, _ => some id
  | none, .id id :: _ => some id
  | none, _ => none

def Instruction.widthId? (i : Instruction) : Option UInt32 :=
  if i.opcode.hasWidth then widthSource i.resultType i.operands else none

namespace Reader

theorem widthType_eq (types : NumberTypes) (resultType : Option UInt32) (os : List Operand) :
    widthType types resultType os = (widthSource resultType os).bind types.find? := by
  cases resultType with
  | some id => rfl
  | none =>
    cases os with
    | nil => rfl
    | cons first rest => cases first <;> rfl

/-- Whether an operand of a kind is as wide as a type says. -/
def isWide (kind : OperandKind) : Bool := kind = .contextNumber || kind = .switchCase

theorem operand_congr {kind : OperandKind} (plain : isWide kind = false) (count : Nat)
    (type type' : Option NumberType) : operand count type kind = operand count type' kind := by
  cases kind <;> first | rfl | cases plain

theorem many_congr {kind : OperandKind} (plain : isWide kind = false) (count : Nat) (type type' : Option NumberType)
    (done : List Operand) (fuel : Nat) : many count type kind done fuel = many count type' kind done fuel := by
  induction fuel generalizing done with
  | zero => rfl
  | succ fuel ih => simp only [many, ih, operand_congr plain count type type']

theorem operands_congr {places : List (OperandKind × Quantifier)} (plain : ∀ place ∈ places, isWide place.1 = false)
    (count : Nat) (types types' : NumberTypes) (resultType : Option UInt32) (before : List Operand) :
    operands count types resultType before places = operands count types' resultType before places := by
  induction places generalizing before with
  | nil => rfl
  | cons place places ih =>
    obtain ⟨kind, quantifier⟩ := place
    rw [List.forall_mem_cons] at plain
    simp only [operands, ih plain.2,
      many_congr plain.1 count (widthType types resultType before) (widthType types' resultType before),
      operand_congr plain.1 count (widthType types resultType before) (widthType types' resultType before)]

/-- Operands are read in the same way where the type that makes their width is known in the same way. -/
theorem operands_of_agree {count : Nat} {types types' : NumberTypes} {resultType : Option UInt32}
    {before os : List Operand} {places : List (OperandKind × Quantifier)} {c c' : Cursor}
    (run : operands count types resultType before places c = .ok (os, c'))
    (agree : ∀ id, widthSource resultType os = some id → types.find? id = types'.find? id) :
    operands count types' resultType before places c = .ok (os, c') := by
  induction places generalizing before c with
  | nil => exact run
  | cons place places ih =>
    obtain ⟨kind, quantifier⟩ := place
    obtain ⟨_, _, ⟨added, extends_, _⟩, _⟩ := replays_operands count count types resultType before _ c os c' run
    have same : widthType types resultType before = widthType types' resultType before := by
      rw [widthType_eq, widthType_eq]
      cases source : widthSource resultType before with
      | none => rfl
      | some id =>
        refine agree id ?_
        rw [extends_]
        unfold widthSource at source ⊢
        cases resultType with
        | some type => exact source
        | none =>
          cases before with
          | nil => cases source
          | cons first rest => cases first <;> exact source
    obtain ⟨ends, between, asked, run⟩ := bind_eq_ok_iff.mp run
    refine bind_eq_ok_iff.mpr ⟨ends, between, asked, ?_⟩
    cases ends with
    | true => exact run
    | false =>
      cases quantifier with
      | zeroOrMore =>
        simp only [← same]
        exact run
      | one | zeroOrOne =>
        obtain ⟨first, after, read, run⟩ := bind_eq_ok_iff.mp run
        refine bind_eq_ok_iff.mpr ⟨first, after, ?_, ih run⟩
        rw [← same]
        exact read

theorem body_of_agree {count : Nat} {types types' : NumberTypes} {opcode : Opcode} {i : Instruction} {c c' : Cursor}
    (run : body count types opcode c = .ok (i, c'))
    (agree : ∀ id, i.widthId? = some id → types.find? id = types'.find? id) :
    body count types' opcode c = .ok (i, c') := by
  obtain ⟨typed, named, first, second, read, done, rfl⟩ := body_eq_ok_iff.mp run
  refine body_eq_ok_iff.mpr ⟨typed, named, first, second, ?_, done, rfl⟩
  cases wide : i.opcode.hasWidth with
  | false =>
    have plain : ∀ place ∈ i.opcode.grammar.operands, isWide place.1 = false := by
      cases opcode : i.opcode <;> rw [opcode] at wide <;> first | decide | cases wide
    rw [← operands_congr plain count types types']
    exact read
  | true =>
    refine operands_of_agree read fun id source => agree id ?_
    rw [Instruction.widthId?, if_pos wide, source]

end Reader

/-- An instruction was read from a frame of a stream, at a time when `types` were known. -/
structure Instruction.ReadFrom (types : NumberTypes) (i : Instruction) (f : Frame) : Prop where
  code : i.opcode.code = f.code
  fits : f.Fits
  body : ∃ count position c, Reader.body count types i.opcode ⟨f.operands ++ c.rest, position, f.operands.length⟩ =
    .ok (i, c)

/-- An instruction can be read wherever it is written, provided that `types` are known. -/
structure Instruction.Legible (types : NumberTypes) (i : Instruction) : Prop where
  fits : i.frame.Fits
  reads : ∀ count position more, Reader.body count types i.opcode ⟨i.frame.operands ++ more, position,
    i.frame.operands.length⟩ = .ok (i, ⟨more, position + i.frame.operands.length, 0⟩)

namespace Instruction

variable {types types' : NumberTypes} {i : Instruction} {f : Frame}

/-- What was read once can be written and read again. -/
theorem ReadFrom.legible (read : i.ReadFrom types f) : i.Legible types := by
  obtain ⟨code, fits, count, position, c, run⟩ := read
  have ended := Reader.limit_of_body run
  have frame (count' : Nat) : f.operands.length = i.frame.operands.length ∧
      ∀ more position, Reader.body count' types i.opcode ⟨i.frame.operands ++ more, position,
        i.frame.operands.length⟩ = .ok (i, ⟨more, position + i.frame.operands.length, 0⟩) := by
    obtain ⟨old, new, spelled, goes⟩ := Reader.replays_body count count' types i.opcode _ i _ run
    have length : f.operands.length = old.length := goes.limit.trans (by rw [ended, Nat.add_zero])
    have same : f.operands.length = i.frame.operands.length := by rw [length, ← goes.length, spelled.written]
    refine ⟨same, fun more position => ?_⟩
    rw [← same, ← spelled.written, length, ← goes.length]
    have again := goes.again more position (by rw [ended]; exact Nat.zero_le _)
    rw [goes.limit, ← goes.length, ended] at again
    exact again
  refine ⟨⟨?_, i.opcode.code_lt⟩, fun count' position more => (frame count').2 more position⟩
  rw [← (frame count).1]
  exact fits.1

theorem Legible.of_agree (legible : i.Legible types)
    (agree : ∀ id, i.widthId? = some id → types.find? id = types'.find? id) : i.Legible types' :=
  ⟨legible.fits, fun count position more => Reader.body_of_agree (legible.reads count position more) agree⟩

theorem Legible.resultType_eq_none (legible : i.Legible types) (untyped : i.opcode.grammar.hasResultType = false) :
    i.resultType = none := by
  obtain ⟨typed, _, first, _⟩ := Reader.body_eq_ok_iff.mp (legible.reads 0 0 [])
  rw [untyped] at first
  exact (congrArg Prod.fst (Except.ok.inj first)).symm

end Instruction

/-- Instructions can be read one after the other. -/
def Rereads (types : NumberTypes) : List Instruction → Prop
  | [] => True
  | i :: is => i.Legible types ∧ Rereads (types.track i) is

/-- Instructions were read from frames one after the other. -/
inductive ReadsAll : NumberTypes → List Instruction → List Frame → Prop
  | nil (types : NumberTypes) : ReadsAll types [] []
  | cons {types : NumberTypes} {i : Instruction} {f : Frame} {is : List Instruction} {frames : List Frame}
    (first : i.ReadFrom types f) (rest : ReadsAll (types.track i) is frames) : ReadsAll types (i :: is) (f :: frames)

theorem ReadsAll.rereads {types : NumberTypes} {is : List Instruction} {frames : List Frame}
    (reads : ReadsAll types is frames) : Rereads types is := by
  induction reads with
  | nil => trivial
  | cons first _ ih => exact ⟨first.legible, ih⟩

theorem ReadsAll.opcodes {types : NumberTypes} {is : List Instruction} {frames : List Frame}
    (reads : ReadsAll types is frames) :
    frames.filterMap (fun f => Opcode.ofCode? f.code) = is.map Instruction.opcode := by
  induction reads with
  | nil => rfl
  | cons first _ ih => rw [List.filterMap_cons, ← first.code, Opcode.ofCode?_code, List.map_cons, ih]

theorem Opcode.code_of_ofCode? {code : Nat} {opcode : Opcode} (found : ofCode? code = some opcode) :
    opcode.code = code := by
  simpa using List.find?_some found

theorem readInstruction_eq_ok {types : NumberTypes} {count position : Nat} {first : UInt32} {rest : List UInt32}
    {i : Instruction} {cursor : Cursor} (run : readInstruction types count position first rest = .ok (i, cursor)) :
    Frame.countOf first ≠ 0 ∧ Frame.countOf first - 1 ≤ rest.length ∧
      cursor.rest = rest.drop (Frame.countOf first - 1) ∧
      i.ReadFrom types ⟨Frame.codeOf first, rest.take (Frame.countOf first - 1)⟩ := by
  unfold readInstruction at run
  simp only at run
  split at run
  · cases run
  next some_ =>
  split at run
  · cases run
  next opcode known =>
  have ended := Reader.limit_of_body run
  obtain ⟨old, new, spelled, goes⟩ := Reader.replays_body count count types opcode _ i cursor run
  have limit : Frame.countOf first - 1 = old.length := by
    have split := goes.limit
    rw [ended] at split
    exact split
  have here : rest = old ++ cursor.rest := goes.rest
  have inside : Frame.countOf first - 1 ≤ rest.length := by
    rw [here, limit, List.length_append]
    omega
  have small : Frame.countOf first < 0x10000 := by
    have bound := first.toNat_lt
    simp only [Frame.countOf]
    omega
  refine ⟨some_, inside, ?_, ?_, ?_, ?_⟩
  · rw [here, limit, List.drop_left]
  · rw [spelled.opcode_eq]
    exact Opcode.code_of_ofCode? known
  · refine ⟨?_, ?_⟩
    · simp only [List.length_take, maxWordCount]
      omega
    · simp only [Frame.codeOf]
      omega
  · refine ⟨count, position + 1, cursor, ?_⟩
    rw [here, limit, List.take_left, spelled.opcode_eq, ← here, ← limit]
    exact run

/-- Reading succeeds to the end only where the words are made of frames. -/
theorem readsAll_of_readInstructions {types : NumberTypes} {count position : Nat} {done is : List Instruction}
    {fuel : Nat} {words : List UInt32} (enough : words.length ≤ fuel)
    (run : readInstructions types count position done fuel words = (is, none)) :
    ∃ new frames, is = done.reverse ++ new ∧ splitFrames words = some frames ∧ ReadsAll types new frames := by
  induction fuel generalizing types count position done words with
  | zero =>
    obtain rfl := List.length_eq_zero_iff.mp (Nat.le_zero.mp enough)
    cases run
    exact ⟨[], [], (List.append_nil _).symm, by rw [splitFrames], .nil types⟩
  | succ fuel ih =>
    cases words with
    | nil =>
      cases run
      exact ⟨[], [], (List.append_nil _).symm, by rw [splitFrames], .nil types⟩
    | cons first rest =>
      rw [readInstructions] at run
      cases one : readInstruction types count position first rest with
      | error stop =>
        simp only [one] at run
        cases run
      | ok step =>
        obtain ⟨i, cursor⟩ := step
        simp only [one] at run
        obtain ⟨some_, inside, after, read⟩ := readInstruction_eq_ok one
        rw [after] at run
        have shorter : (rest.drop (Frame.countOf first - 1)).length ≤ fuel := by
          rw [List.length_cons] at enough
          rw [List.length_drop]
          omega
        obtain ⟨new, frames, rfl, split, reads⟩ := ih shorter run
        refine ⟨i :: new, _ :: frames, ?_, ?_, .cons read reads⟩
        · rw [List.reverse_cons, List.append_assoc, List.singleton_append]
        · rw [splitFrames, if_neg (by omega), split, Option.map_some]

theorem readInstruction_words {types : NumberTypes} {i : Instruction} (legible : i.Legible types)
    (count position : Nat) (more : List UInt32) : ∃ first operands, i.words = first :: operands ∧
      readInstruction types count position first (operands ++ more) =
        .ok (i, ⟨more, position + i.words.length, 0⟩) := by
  have first := legible.fits.first_toNat
  have code := legible.fits.2
  refine ⟨_, i.frame.operands, rfl, ?_⟩
  have count_eq : Frame.countOf (.ofNat ((i.frame.operands.length + 1) * 0x10000 + i.frame.code)) =
      i.frame.operands.length + 1 := by
    rw [Frame.countOf, first]
    omega
  have code_eq : Frame.codeOf (.ofNat ((i.frame.operands.length + 1) * 0x10000 + i.frame.code)) =
      i.opcode.code := by
    rw [Frame.codeOf, first]
    simp only [Instruction.frame] at code ⊢
    omega
  rw [readInstruction, count_eq, code_eq, Opcode.ofCode?_code]
  have read := legible.reads count (position + 1) more
  simp only [Nat.succ_ne_zero, if_false, Nat.add_sub_cancel]
  refine read.trans ?_
  simp only [Instruction.words, Frame.words, List.length_cons]
  rw [Nat.add_assoc, Nat.add_comm 1]

/-- Instructions that can be read one after the other are read from their own words. -/
theorem readInstructions_words {types : NumberTypes} {is : List Instruction} (rereads : Rereads types is)
    (count position : Nat) (done : List Instruction) {fuel : Nat}
    (enough : (is.flatMap Instruction.words).length ≤ fuel) :
    readInstructions types count position done fuel (is.flatMap Instruction.words) = (done.reverse ++ is, none) := by
  induction is generalizing types count position done fuel with
  | nil =>
    rw [List.flatMap_nil, List.append_nil]
    cases fuel <;> rfl
  | cons i is ih =>
    obtain ⟨legible, rereads⟩ := rereads
    obtain ⟨first, operands, words, read⟩ := readInstruction_words legible count position (is.flatMap Instruction.words)
    rw [List.flatMap_cons, List.length_append] at enough
    have length : i.words.length = operands.length + 1 := congrArg List.length words
    obtain ⟨less, rfl⟩ : ∃ less, fuel = less + 1 := ⟨fuel - 1, by omega⟩
    rw [List.flatMap_cons, words, List.cons_append, readInstructions, read]
    have room : (is.flatMap Instruction.words).length ≤ less := by omega
    have rest := ih rereads (count + 1) (position + i.words.length) (i :: done) room
    rw [List.reverse_cons, List.append_assoc, List.singleton_append] at rest
    exact rest

/-! Which instructions have to keep their order. -/

/-- Whether an instruction may change what is known of the types of numbers, or depends on it. -/
def Instruction.isRelevant (i : Instruction) : Bool :=
  i.opcode.isType || i.resultType.isSome || i.opcode.hasWidth

theorem Instruction.track_eq_self {i : Instruction} (irrelevant : i.isRelevant = false) (types : NumberTypes) :
    types.track i = types := by
  simp only [isRelevant, Bool.or_eq_false_iff, Option.isSome_eq_false_iff, Option.isNone_iff_eq_none] at irrelevant
  obtain ⟨⟨noType, untyped⟩, _⟩ := irrelevant
  have unknown : types.typeOf? i = none := by
    unfold NumberTypes.typeOf?
    split
    · next opcode _ => simp [opcode, Opcode.isType] at noType
    · next opcode _ => simp [opcode, Opcode.isType] at noType
    · rw [noType, untyped]
      rfl
  rw [NumberTypes.track, unknown]
  cases i.result <;> rfl

/-- Whether an instruction has no relevance wherever it stands. -/
def Opcode.isSilent (opcode : Opcode) : Bool :=
  !opcode.isType && !opcode.grammar.hasResultType && !opcode.hasWidth

theorem Instruction.Legible.isRelevant_eq_false {i : Instruction} {types : NumberTypes} (legible : i.Legible types)
    (silent : i.opcode.isSilent = true) : i.isRelevant = false := by
  simp only [Opcode.isSilent, Bool.and_eq_true, Bool.not_eq_true'] at silent
  simp only [isRelevant, silent.1.1, silent.2, legible.resultType_eq_none silent.1.2, Option.isSome_none, Bool.or_self]

theorem Instruction.widthId?_eq_none {i : Instruction} (irrelevant : i.opcode.hasWidth = false) :
    i.widthId? = none := by
  rw [widthId?, irrelevant]
  rfl

theorem Instruction.Legible.of_no_width {i : Instruction} {types : NumberTypes} (legible : i.Legible types)
    (plain : i.opcode.hasWidth = false) (types' : NumberTypes) : i.Legible types' := by
  refine legible.of_agree fun id source => ?_
  rw [widthId?_eq_none plain] at source
  cases source

namespace Rereads

variable {types : NumberTypes} {is : List Instruction}

theorem exists_legible (rereads : Rereads types is) {i : Instruction} (member : i ∈ is) :
    ∃ types', i.Legible types' := by
  induction is generalizing types with
  | nil => cases member
  | cons first rest ih =>
    rcases List.mem_cons.mp member with rfl | later
    · exact ⟨types, rereads.1⟩
    · exact ih rereads.2 later

theorem append {others : List Instruction} (rereads : Rereads types is) (anywhere : ∀ types, Rereads types others) :
    Rereads types (is ++ others) := by
  induction is generalizing types with
  | nil => exact anywhere types
  | cons first rest ih => exact ⟨rereads.1, ih rereads.2⟩

theorem of_append {others : List Instruction} (rereads : Rereads types (is ++ others)) : Rereads types is := by
  induction is generalizing types with
  | nil => trivial
  | cons first rest ih => exact ⟨rereads.1, ih rereads.2⟩

/-- Instructions without numbers of a width can be read in any order. -/
theorem of_no_width (legible : ∀ i ∈ is, ∃ types, i.Legible types) (plain : ∀ i ∈ is, i.opcode.hasWidth = false)
    (types : NumberTypes) : Rereads types is := by
  induction is generalizing types with
  | nil => trivial
  | cons first rest ih =>
    rw [List.forall_mem_cons] at legible plain
    obtain ⟨_, once⟩ := legible.1
    exact ⟨once.of_no_width plain.1 types, ih legible.2 plain.2 _⟩

theorem filter (rereads : Rereads types is) : Rereads types (is.filter Instruction.isRelevant) := by
  induction is generalizing types with
  | nil => trivial
  | cons first rest ih =>
    cases relevant : first.isRelevant with
    | true =>
      rw [List.filter_cons_of_pos relevant]
      exact ⟨rereads.1, ih rereads.2⟩
    | false =>
      rw [List.filter_cons_of_neg (by rw [relevant]; decide)]
      have rest := ih rereads.2
      rwa [first.track_eq_self relevant] at rest

theorem of_filter (rereads : Rereads types (is.filter Instruction.isRelevant))
    (legible : ∀ i ∈ is, ∃ types, i.Legible types) : Rereads types is := by
  induction is generalizing types with
  | nil => trivial
  | cons first rest ih =>
    rw [List.forall_mem_cons] at legible
    cases relevant : first.isRelevant with
    | true =>
      rw [List.filter_cons_of_pos relevant] at rereads
      exact ⟨rereads.1, ih rereads.2 legible.2⟩
    | false =>
      rw [List.filter_cons_of_neg (by rw [relevant]; decide)] at rereads
      obtain ⟨_, once⟩ := legible.1
      refine ⟨once.of_no_width ?_ types, ?_⟩
      · simp only [Instruction.isRelevant, Bool.or_eq_false_iff] at relevant
        exact relevant.2
      · rw [first.track_eq_self relevant]
        exact ih rereads legible.2

/-- Only the order of relevant instructions decides whether all can be read. -/
theorem of_filter_eq {others : List Instruction} (rereads : Rereads types is)
    (legible : ∀ i ∈ others, ∃ types, i.Legible types)
    (same : others.filter Instruction.isRelevant = is.filter Instruction.isRelevant) : Rereads types others :=
  of_filter (same ▸ rereads.filter) legible

end Rereads

end ShaderGraph.Spirv
