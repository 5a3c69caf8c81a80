import ShaderGraph.Proofs.Loading.Sequence

namespace ShaderGraph.Spirv

/-- Whether an instruction can have no text in it. -/
def Opcode.isTextFree (opcode : Opcode) : Bool := opcode.grammar.operands.all fun place => place.1.isTextFree

/-- Instructions in which texts are filled up with zeros. -/
inductive Frame.Tidy : Frame → Prop
  | plain {opcode : Opcode} (operands : List UInt32) (free : opcode.isTextFree = true) : Tidy ⟨opcode.code, operands⟩
  | imported (id : UInt32) {s : String} (free : 0 ∉ textBytes s) : Tidy ⟨Opcode.opExtInstImport.code, id :: packText s⟩
  | entryPoint (model : Enumerant .executionModel) (id : UInt32) {s : String} (interface : List UInt32)
    (free : 0 ∉ textBytes s) : Tidy ⟨Opcode.opEntryPoint.code, model.code :: id :: (packText s ++ interface)⟩
  | name (id : UInt32) {s : String} (free : 0 ∉ textBytes s) : Tidy ⟨Opcode.opName.code, id :: packText s⟩
  | decorate (id code : UInt32) {literals : List UInt32}
    (padded : paddedTexts (EnumKind.decoration.parameters code) literals = true) :
    Tidy ⟨Opcode.opDecorate.code, id :: code :: literals⟩

namespace Reader

variable {count : Nat} {types : NumberTypes} {resultType : Option UInt32} {before : List Operand}

theorem operand_id (type : Option NumberType) (id : UInt32) (rest : List UInt32) (position limit : Nat) :
    operand count type .id ⟨id :: rest, position, limit + 1⟩ = .ok ([.id id], ⟨rest, position + 1, limit⟩) :=
  rfl

theorem operand_text (type : Option NumberType) {s : String} (free : 0 ∉ textBytes s) (more : List UInt32)
    (position : Nat) {limit : Nat} (room : limit ≤ more.length) :
    operand count type .text ⟨packText s ++ more, position, (packText s).length + limit⟩ =
      .ok ([.text s], ⟨more, position + (packText s).length, limit⟩) := by
  refine bind_eq_ok_iff.mpr ⟨[.text s], _, ?_, rfl⟩
  exact bind_eq_ok_iff.mpr ⟨s, _, text_packText free more position room, rfl⟩

theorem operands_one {kind : OperandKind} {places : List (OperandKind × Quantifier)} {got : List Operand}
    {c c' : Cursor} (present : c.limit ≠ 0)
    (read : operand count (widthType types resultType before) kind c = .ok (got, c')) :
    operands count types resultType before ((kind, .one) :: places) c =
      operands count types resultType (before ++ got) places c' := by
  rw [operands]
  simp only [bind, StateT.bind, Except.bind, atLimit_eq, present, decide_false, Bool.false_eq_true, if_false, read]

theorem many_ids (count : Nat) (type : Option NumberType) (ids : List UInt32) {fuel : Nat}
    (enough : ids.length ≤ fuel) (done : List Operand) (rest : List UInt32) (position : Nat) :
    many count type .id done fuel ⟨ids ++ rest, position, ids.length⟩ =
      .ok (done.reverse ++ ids.map .id, ⟨rest, position + ids.length, 0⟩) := by
  induction ids generalizing done position fuel with
  | nil =>
    rw [List.map_nil, List.append_nil]
    cases fuel <;> rfl
  | cons id ids ih =>
    obtain ⟨less, rfl⟩ : ∃ less, fuel = less + 1 := ⟨fuel - 1, by rw [List.length_cons] at enough; omega⟩
    have next := ih (Nat.le_of_succ_le_succ enough) (.id id :: done) (position + 1)
    rw [List.reverse_cons, List.append_assoc, List.singleton_append, Nat.add_assoc, Nat.add_comm 1] at next
    exact next

theorem operands_ids (ids rest : List UInt32) (position : Nat) :
    operands count types resultType before [(.id, .zeroOrMore)] ⟨ids ++ rest, position, ids.length⟩ =
      .ok (before ++ ids.map .id, ⟨rest, position + ids.length, 0⟩) := by
  cases ids with
  | nil =>
    rw [List.map_nil, List.append_nil]
    rfl
  | cons id ids =>
    have all := many_ids count (widthType types resultType before) (id :: ids) (Nat.le_refl _) before.reverse
    rw [List.reverse_reverse] at all
    exact all rest position

/-- An instruction without a result has nothing in front of its operands. -/
theorem operands_of_effect {opcode : Opcode} {i : Instruction} {c c' : Cursor}
    (run : body count types opcode c = .ok (i, c')) (untyped : opcode.grammar.hasResultType = false)
    (noResult : opcode.grammar.hasResult = false) :
    i.resultType = none ∧ i.result = none ∧
      operands count types none [] opcode.grammar.operands c = .ok (i.operands, c') := by
  obtain ⟨typed, named, first, second, third, _⟩ := body_eq_ok_iff.mp run
  rw [untyped] at first
  rw [noResult] at second
  obtain ⟨type, rfl⟩ := Prod.mk.inj (Except.ok.inj first)
  obtain ⟨result, rfl⟩ := Prod.mk.inj (Except.ok.inj second)
  rw [← type] at third
  exact ⟨type.symm, result.symm, third⟩

theorem operands_text {s : String} (free : 0 ∉ textBytes s) (places : List (OperandKind × Quantifier))
    (more : List UInt32) (position : Nat) {limit : Nat} (room : limit ≤ more.length) :
    operands count types resultType before ((.text, .one) :: places)
        ⟨packText s ++ more, position, (packText s).length + limit⟩ =
      operands count types resultType (before ++ [.text s]) places
        ⟨more, position + (packText s).length, limit⟩ := by
  refine operands_one ?_ (operand_text _ free more position room)
  have some : 0 < (packText s).length := by rw [length_packText]; simp [packedLength]
  exact Nat.ne_of_gt (Nat.add_pos_left some _)

variable {i : Instruction} {c : Cursor} {more : List UInt32} {position : Nat}

theorem operands_name {id : UInt32} {s : String} (free : 0 ∉ textBytes s)
    (run : body count types .opName ⟨id :: packText s ++ more, position, (id :: packText s).length⟩ = .ok (i, c)) :
    i.frame.operands = id :: packText s := by
  obtain ⟨untyped, noResult, read⟩ := operands_of_effect run rfl rfl
  have known : operands count types none [] [(.id, .one), (.text, .one)]
      ⟨id :: packText s ++ more, position, (id :: packText s).length⟩ = .ok ([.id id, .text s], _) :=
    (operands_one (Nat.succ_ne_zero _) (operand_id ..)).trans (operands_text free [] more _ (Nat.zero_le _))
  obtain ⟨operands, _⟩ := Prod.mk.inj (Except.ok.inj (known.symm.trans read))
  rw [Instruction.frame, untyped, noResult, ← operands]
  simp [Operand.words]

theorem operands_extInstImport {id : UInt32} {s : String} (free : 0 ∉ textBytes s)
    (run : body count types .opExtInstImport ⟨id :: packText s ++ more, position, (id :: packText s).length⟩ =
      .ok (i, c)) : i.frame.operands = id :: packText s := by
  obtain ⟨typed, named, first, second, read, _⟩ := body_eq_ok_iff.mp run
  obtain ⟨untyped, rfl⟩ := Prod.mk.inj (Except.ok.inj first)
  obtain ⟨result, rfl⟩ := Prod.mk.inj (Except.ok.inj second)
  have known : operands count types i.resultType [] [(.text, .one)]
      ⟨packText s ++ more, position + 1, (packText s).length⟩ = .ok ([.text s], _) :=
    operands_text free [] more _ (Nat.zero_le _)
  obtain ⟨operands, _⟩ := Prod.mk.inj (Except.ok.inj (known.symm.trans read))
  rw [Instruction.frame, ← untyped, ← result, ← operands]
  simp [Operand.words]

theorem operand_executionModel (type : Option NumberType) (model : Enumerant .executionModel) (rest : List UInt32)
    (position limit : Nat) :
    operand count type (.enumerant .executionModel) ⟨model.code :: rest, position, limit + 1⟩ =
      .ok ([.enumerant .executionModel model], ⟨rest, position + 1, limit⟩) := by
  refine bind_eq_ok_iff.mpr ⟨[.enumerant .executionModel model], ⟨rest, position + 1, limit⟩, ?_, rfl⟩
  refine bind_eq_ok_iff.mpr ⟨model, ⟨rest, position + 1, limit⟩, ?_, rfl⟩
  refine bind_eq_ok_iff.mpr ⟨_, _, rfl, bind_eq_ok_iff.mpr ⟨model.code, _, rfl, ?_⟩⟩
  rw [Enumerant.ofCode?_code]
  rfl

theorem operands_entryPoint {model : Enumerant .executionModel} {id : UInt32} {s : String} {interface : List UInt32}
    (free : 0 ∉ textBytes s)
    (run : body count types .opEntryPoint ⟨model.code :: id :: (packText s ++ interface) ++ more, position,
      (model.code :: id :: (packText s ++ interface)).length⟩ = .ok (i, c)) :
    i.frame.operands = model.code :: id :: (packText s ++ interface) := by
  have size : (model.code :: id :: (packText s ++ interface)).length =
      (packText s).length + interface.length + 1 + 1 := by simp
  have words : model.code :: id :: (packText s ++ interface) ++ more =
      model.code :: id :: (packText s ++ (interface ++ more)) := by simp
  obtain ⟨untyped, noResult, read⟩ := operands_of_effect run rfl rfl
  rw [size, words] at read
  have room : interface.length ≤ (interface ++ more).length := by simp
  have known : operands count types none []
      [(.enumerant .executionModel, .one), (.id, .one), (.text, .one), (.id, .zeroOrMore)]
      ⟨model.code :: id :: (packText s ++ (interface ++ more)), position,
        (packText s).length + interface.length + 1 + 1⟩ =
      .ok ([.enumerant .executionModel model, .id id, .text s] ++ interface.map .id, _) :=
    calc _ = _ := operands_one (Nat.succ_ne_zero _) (operand_executionModel ..)
      _ = _ := operands_one (Nat.succ_ne_zero _) (operand_id ..)
      _ = _ := operands_text free _ _ _ room
      _ = _ := operands_ids interface more _
  obtain ⟨operands, _⟩ := Prod.mk.inj (Except.ok.inj (known.symm.trans read))
  rw [Instruction.frame, untyped, noResult, ← operands]
  simp [Operand.words, List.flatMap_map]

theorem operands_last {kind : OperandKind} {os : List Operand} {c c' : Cursor} (present : c.limit ≠ 0)
    (read : operands count types resultType before [(kind, .one)] c = .ok (os, c')) :
    ∃ got, operand count (widthType types resultType before) kind c = .ok (got, c') ∧ os = before ++ got := by
  rw [operands] at read
  obtain ⟨ends, between, asked, read⟩ := bind_eq_ok_iff.mp read
  obtain ⟨rfl, rfl⟩ := Prod.mk.inj (Except.ok.inj (atLimit_eq c ▸ asked))
  rw [decide_eq_false present] at read
  obtain ⟨got, after, first, rest⟩ := bind_eq_ok_iff.mp read
  obtain ⟨rfl, rfl⟩ := Prod.mk.inj (Except.ok.inj rest)
  exact ⟨got, first, rfl⟩

theorem operands_decorate {id code : UInt32} {literals : List UInt32}
    (padded : paddedTexts (EnumKind.decoration.parameters code) literals = true)
    (run : body count types .opDecorate ⟨id :: code :: literals ++ more, position, (id :: code :: literals).length⟩ =
      .ok (i, c)) : i.frame.operands = id :: code :: literals := by
  have ended := limit_of_body run
  obtain ⟨untyped, noResult, read⟩ := operands_of_effect run rfl rfl
  have later := (operands_one (Nat.succ_ne_zero _) (operand_id ..)).symm.trans read
  obtain ⟨got, whole, operands⟩ := operands_last (Nat.succ_ne_zero _) later
  obtain ⟨old, new, spelled, goes⟩ := replays_whole (.enumerant .decoration) _ got c whole
  -- The decoration takes all the words that are left.
  have all : old = code :: literals := by
    have size := goes.limit
    rw [ended] at size
    exact (List.append_inj_left goes.rest size).symm
  obtain ⟨_, _, parts, same⟩ := spelled.decoration rfl
  obtain ⟨rfl, rfl⟩ := List.cons.inj (all.symm.trans parts)
  have written : got.flatMap Operand.words = code :: literals := by
    rw [← spelled.written, ← same padded, all]
  rw [Instruction.frame, untyped, noResult, operands]
  simp [Operand.words, written]

end Reader

namespace Instruction

variable {types : NumberTypes} {i : Instruction} {f : Frame}

theorem ReadFrom.operands_eq_of_isTextFree (read : i.ReadFrom types f) (free : i.opcode.isTextFree = true) :
    i.frame.operands = f.operands := by
  obtain ⟨count, position, c, run⟩ := read.body
  obtain ⟨old, new, spelled, goes⟩ := Reader.replays_body count count types i.opcode _ i _ run
  have same : f.operands = old := List.append_cancel_right goes.rest
  have places : ∀ place ∈ i.opcode.grammar.operands, place.1.isTextFree = true := by
    simpa [Opcode.isTextFree] using free
  rw [same, spelled.single places, spelled.written]

/-- An instruction is written as it was read if its texts were filled up with zeros. -/
theorem ReadFrom.frame_eq (read : i.ReadFrom types f) (tidy : f.Tidy) : i.frame = f := by
  have operands : i.frame.operands = f.operands := by
    have code := read.code
    obtain ⟨count, position, c, run⟩ := read.body
    cases tidy with
    | plain operands free =>
      exact read.operands_eq_of_isTextFree (Opcode.code_inj.mp code ▸ free)
    | imported id free =>
      have opcode : i.opcode = .opExtInstImport := Opcode.code_inj.mp code
      rw [opcode] at run
      exact Reader.operands_extInstImport free run
    | entryPoint model id interface free =>
      have opcode : i.opcode = .opEntryPoint := Opcode.code_inj.mp code
      rw [opcode] at run
      exact Reader.operands_entryPoint free run
    | name id free =>
      have opcode : i.opcode = .opName := Opcode.code_inj.mp code
      rw [opcode] at run
      exact Reader.operands_name free run
    | decorate id code' padded =>
      have opcode : i.opcode = .opDecorate := Opcode.code_inj.mp code
      rw [opcode] at run
      exact Reader.operands_decorate padded run
  calc i.frame = ⟨i.opcode.code, i.frame.operands⟩ := rfl
    _ = f := by rw [read.code, operands]

end Instruction

theorem ReadsAll.map_frame {types : NumberTypes} {is : List Instruction} {frames : List Frame}
    (reads : ReadsAll types is frames) (tidy : ∀ f ∈ frames, f.Tidy) : is.map Instruction.frame = frames := by
  induction reads with
  | nil => rfl
  | cons first _ ih =>
    rw [List.forall_mem_cons] at tidy
    rw [List.map_cons, first.frame_eq tidy.1, ih tidy.2]

end ShaderGraph.Spirv
