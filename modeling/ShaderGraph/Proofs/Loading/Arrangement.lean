import ShaderGraph.Proofs.Outcome
import ShaderGraph.Spirv.Module

namespace ShaderGraph.Spirv

/-- Where a stream of instructions stands. -/
inductive Stand where
  | outside
  /-- In a function that has no block yet. -/
  | header
  | block
  /-- In a function, after a block. -/
  | between
  deriving DecidableEq, Repr

def Stand.next (stand : Stand) : Opcode → Stand
  | .opFunction => .header
  | .opFunctionEnd => .outside
  | .opLabel => .block
  | opcode => if opcode.isTerminator then .between else stand

/-- Where the instructions of a stream stand. -/
def Stand.along {α : Type} (opcode : α → Opcode) : Stand → List α → List (Stand × α)
  | _, [] => []
  | stand, x :: rest => (stand, x) :: along opcode (stand.next (opcode x)) rest

theorem Stand.map_snd_along {α : Type} (opcode : α → Opcode) (stand : Stand) (xs : List α) :
    (stand.along opcode xs).map Prod.snd = xs := by
  induction xs generalizing stand with
  | nil => rfl
  | cons x rest ih => rw [along, List.map_cons, ih]

theorem Stand.along_append {α : Type} (opcode : α → Opcode) (stand : Stand) (xs ys : List α) :
    stand.along opcode (xs ++ ys) =
      stand.along opcode xs ++ (xs.foldl (fun stand x => stand.next (opcode x)) stand).along opcode ys := by
  induction xs generalizing stand with
  | nil => rfl
  | cons x rest ih => rw [List.cons_append, along, ih, along, List.cons_append, List.foldl_cons]

theorem Stand.along_map {α β : Type} (opcode : β → Opcode) (f : α → β) (stand : Stand) (xs : List α) :
    stand.along opcode (xs.map f) = (stand.along (opcode ∘ f) xs).map (Prod.map id f) := by
  induction xs generalizing stand with
  | nil => rfl
  | cons x rest ih =>
    rw [List.map_cons, along, along, List.map_cons, ih]
    rfl

/-- The section an instruction is filed in, if it is not part of a function. -/
def Opcode.sectionAt? (stand : Stand) (opcode : Opcode) : Option Section :=
  match opcode.section? with
  | some s => some s
  | none =>
    match opcode with
    | .opLine | .opNoLine => if stand = .block then none else some .declaration
    | .opVariable | .opUndef => if stand = .outside then some .declaration else none
    | _ => none

/-- Whether an instruction can stand within a block, before its end. -/
def Opcode.isOrdinary (opcode : Opcode) : Bool :=
  opcode.section?.isNone && !opcode.isTerminator &&
    opcode ∉ [Opcode.opFunction, .opFunctionEnd, .opFunctionParameter, .opLabel]

theorem Stand.next_of_sectionAt? {stand : Stand} {opcode : Opcode} {s : Section}
    (belongs : opcode.sectionAt? stand = some s) : stand.next opcode = stand := by
  cases opcode <;> first | rfl | cases belongs

theorem Stand.next_of_isOrdinary {opcode : Opcode} (ordinary : opcode.isOrdinary = true) (stand : Stand) :
    stand.next opcode = stand := by
  cases opcode <;> first | rfl | cases ordinary

theorem Stand.next_of_isTerminator {opcode : Opcode} (terminates : opcode.isTerminator = true) (stand : Stand) :
    stand.next opcode = .between := by
  cases opcode <;> first | rfl | cases terminates

theorem Opcode.section?_of_sectionAt? {stand : Stand} {opcode : Opcode} {s : Section}
    (belongs : opcode.sectionAt? stand = some s) (other : s ≠ .declaration) : opcode.section? = some s := by
  unfold sectionAt? at belongs
  split at belongs
  · next known => rwa [known]
  · split at belongs <;> first | cases belongs | (split at belongs <;> cases belongs; exact absurd rfl other)

theorem Opcode.sectionAt?_block {opcode : Opcode} (ordinary : opcode.isOrdinary = true) :
    opcode.sectionAt? .block = none := by
  cases opcode <;> first | rfl | cases ordinary

theorem Opcode.sectionAt?_of_isTerminator {opcode : Opcode} (terminates : opcode.isTerminator = true) (stand : Stand) :
    opcode.sectionAt? stand = none := by
  cases opcode <;> first | rfl | cases terminates

namespace Arrangement

def stand (a : Arrangement) : Stand :=
  match a.opened with
  | none => .outside
  | some f =>
    match f.current, f.blocks with
    | some _, _ => .block
    | none, [] => .header
    | none, _ => .between

/-- What can happen to an instruction. -/
inductive Step : Arrangement → Instruction → Arrangement → Prop
  | file {a : Arrangement} {i : Instruction} {s : Section} (belongs : i.opcode.sectionAt? a.stand = some s) :
    Step a i (a.file s i)
  | openFunction {filed : List (Section × Instruction)} {functions : List FunctionBody} {i : Instruction}
    (opcode : i.opcode = .opFunction) :
    Step ⟨filed, functions, none⟩ i ⟨filed, functions, some ⟨i, [], [], none⟩⟩
  | parameter {filed : List (Section × Instruction)} {functions : List FunctionBody} {f : OpenFunction}
    {i : Instruction} (opcode : i.opcode = .opFunctionParameter) :
    Step ⟨filed, functions, some f⟩ i ⟨filed, functions, some { f with parameters := f.parameters ++ [i] }⟩
  | openBlock {filed : List (Section × Instruction)} {functions : List FunctionBody} {definition i : Instruction}
    {parameters : List Instruction} {blocks : List BasicBlock} (opcode : i.opcode = .opLabel) :
    Step ⟨filed, functions, some ⟨definition, parameters, blocks, none⟩⟩ i
      ⟨filed, functions, some ⟨definition, parameters, blocks, some ⟨i, []⟩⟩⟩
  | append {filed : List (Section × Instruction)} {functions : List FunctionBody} {definition i : Instruction}
    {parameters : List Instruction} {blocks : List BasicBlock} {block : BasicBlock}
    (ordinary : i.opcode.isOrdinary = true) :
    Step ⟨filed, functions, some ⟨definition, parameters, blocks, some block⟩⟩ i
      ⟨filed, functions, some ⟨definition, parameters, blocks, some { block with body := block.body ++ [i] }⟩⟩
  | closeBlock {filed : List (Section × Instruction)} {functions : List FunctionBody} {definition i : Instruction}
    {parameters : List Instruction} {blocks : List BasicBlock} {block : BasicBlock}
    (terminates : i.opcode.isTerminator = true) :
    Step ⟨filed, functions, some ⟨definition, parameters, blocks, some block⟩⟩ i
      ⟨filed, functions, some ⟨definition, parameters, blocks ++ [{ block with body := block.body ++ [i] }], none⟩⟩
  | closeFunction {filed : List (Section × Instruction)} {functions : List FunctionBody} {definition i : Instruction}
    {parameters : List Instruction} {blocks : List BasicBlock} (opcode : i.opcode = .opFunctionEnd) :
    Step ⟨filed, functions, some ⟨definition, parameters, blocks, none⟩⟩ i
      ⟨filed, functions ++ [⟨definition, parameters, blocks, i⟩], none⟩

variable {a a' : Arrangement} {i : Instruction}

theorem current?_isSome_iff : a.current?.isSome = true ↔ a.stand = .block := by
  obtain ⟨filed, functions, opened⟩ := a
  cases opened with
  | none => simp [current?, stand]
  | some f =>
    obtain ⟨definition, parameters, blocks, current⟩ := f
    cases current <;> cases blocks <;> simp [current?, stand]

theorem opened_isNone_iff : a.opened.isNone = true ↔ a.stand = .outside := by
  obtain ⟨filed, functions, opened⟩ := a
  cases opened with
  | none => simp [stand]
  | some f =>
    obtain ⟨definition, parameters, blocks, current⟩ := f
    cases current <;> cases blocks <;> simp [stand]

theorem step_append (ordinary : i.opcode.isOrdinary = true) (run : a.append i = .ok a') : Step a i a' := by
  obtain ⟨filed, functions, opened⟩ := a
  cases opened with
  | none => cases run
  | some f =>
    obtain ⟨definition, parameters, blocks, current⟩ := f
    cases current with
    | none => cases run
    | some block =>
      cases run
      exact .append ordinary

theorem sectionAt?_of_section? {opcode : Opcode} {s : Section} (known : opcode.section? = some s) (stand : Stand) :
    opcode.sectionAt? stand = some s := by
  unfold Opcode.sectionAt?
  simp only [known]

theorem step_line (opcode : i.opcode = .opLine ∨ i.opcode = .opNoLine)
    (run : (if a.current?.isSome then a.append i else .ok (a.file .declaration i)) = .ok a') : Step a i a' := by
  split at run
  · refine step_append ?_ run
    rcases opcode with opcode | opcode <;> rw [opcode] <;> rfl
  · next outside =>
    cases run
    have elsewhere : a.stand ≠ .block := fun inside => outside (current?_isSome_iff.mpr inside)
    refine .file ?_
    rcases opcode with opcode | opcode <;> rw [opcode] <;> exact if_neg elsewhere

theorem step_variable (opcode : i.opcode = .opVariable ∨ i.opcode = .opUndef)
    (run : (if a.opened.isNone then .ok (a.file .declaration i) else a.append i) = .ok a') : Step a i a' := by
  split at run
  · next outside =>
    cases run
    refine .file ?_
    rcases opcode with opcode | opcode <;> rw [opcode] <;> exact if_pos (opened_isNone_iff.mp outside)
  · refine step_append ?_ run
    rcases opcode with opcode | opcode <;> rw [opcode] <;> rfl

theorem step_of_place (run : a.place i = .ok a') : Step a i a' := by
  unfold place at run
  split at run
  · next s known =>
    cases run
    exact .file (sectionAt?_of_section? known _)
  next unknown =>
  split at run
  · next opcode => exact step_line (.inl opcode) run
  · next opcode => exact step_line (.inr opcode) run
  · next opcode => exact step_variable (.inl opcode) run
  · next opcode => exact step_variable (.inr opcode) run
  · next opcode =>
    obtain ⟨filed, functions, opened⟩ := a
    cases opened <;> cases run
    exact .openFunction opcode
  · next opcode =>
    obtain ⟨filed, functions, opened⟩ := a
    cases opened with
    | none => cases run
    | some f =>
      obtain ⟨definition, parameters, blocks, current⟩ := f
      cases current <;> cases run
      exact .closeFunction opcode
  · next opcode =>
    obtain ⟨filed, functions, opened⟩ := a
    cases opened <;> cases run
    exact .parameter opcode
  · next opcode =>
    obtain ⟨filed, functions, opened⟩ := a
    cases opened with
    | none => cases run
    | some f =>
      obtain ⟨definition, parameters, blocks, current⟩ := f
      cases current <;> cases run
      exact .openBlock opcode
  · next noFunction noEnd noParameter noLabel =>
    split at run
    · next terminates =>
      obtain ⟨filed, functions, opened⟩ := a
      cases opened with
      | none => cases run
      | some f =>
        obtain ⟨definition, parameters, blocks, current⟩ := f
        cases current <;> cases run
        exact .closeBlock terminates
    · next goesOn =>
      refine step_append ?_ run
      simp only [Bool.not_eq_true] at goesOn
      simp only [Opcode.isOrdinary, unknown, goesOn, Option.isNone_none, Bool.not_false, Bool.and_self, Bool.true_and,
        decide_eq_true_eq, List.mem_cons, List.not_mem_nil, or_false, not_or]
      exact ⟨noFunction, noEnd, noParameter, noLabel⟩

theorem Step.place (step : Step a i a') : a.place i = .ok a' := by
  unfold Arrangement.place
  cases step with
  | file belongs =>
    unfold Opcode.sectionAt? at belongs
    cases known : i.opcode.section? with
    | some s =>
      simp only [known] at belongs
      cases belongs
      rfl
    | none =>
      -- What has no section of its own is filed by where it stands.
      simp only [known] at belongs
      split at belongs <;> try split at belongs
      all_goals cases belongs
      · next opcode elsewhere => simp only [opcode, current?_isSome_iff, elsewhere, if_false]
      · next opcode elsewhere => simp only [opcode, current?_isSome_iff, elsewhere, if_false]
      · next opcode outside => simp only [opcode, opened_isNone_iff, outside, if_true]
      · next opcode outside => simp only [opcode, opened_isNone_iff, outside, if_true]
  | openFunction opcode => rw [opcode]; rfl
  | parameter opcode => rw [opcode]; rfl
  | openBlock opcode => rw [opcode]; rfl
  | closeFunction opcode => rw [opcode]; rfl
  | append ordinary =>
    generalize i.opcode = opcode at ordinary
    cases opcode <;> first | rfl | cases ordinary
  | closeBlock terminates =>
    generalize i.opcode = opcode at terminates
    cases opcode <;> first | rfl | cases terminates

theorem place_eq_ok_iff : a.place i = .ok a' ↔ Step a i a' := ⟨step_of_place, Step.place⟩

theorem Step.stand (step : Step a i a') : a'.stand = a.stand.next i.opcode := by
  cases step with
  | file belongs => exact (Stand.next_of_sectionAt? belongs).symm
  | openFunction opcode => rw [opcode]; rfl
  | @parameter filed functions f i opcode => rw [opcode]; rfl
  | openBlock opcode => rw [opcode]; rfl
  | append ordinary => rw [Stand.next_of_isOrdinary ordinary]; rfl
  | closeBlock terminates =>
    rw [Stand.next_of_isTerminator terminates]
    simp [Arrangement.stand]
  | closeFunction opcode => rw [opcode]; rfl

end Arrangement

/-! The order of what is in functions. -/

def OpenFunction.instructions (f : OpenFunction) : List Instruction :=
  f.definition :: f.parameters ++ f.blocks.flatMap BasicBlock.instructions ++
    f.current.elim [] BasicBlock.instructions

namespace Arrangement

def inside (a : Arrangement) : List Instruction :=
  a.functions.flatMap FunctionBody.instructions ++ a.opened.elim [] OpenFunction.instructions

/-- Whether an instruction keeps its place in a function. -/
def Keeps (stand : Stand) (opcode : Opcode) : Prop :=
  opcode = .opFunctionParameter → stand = .header

instance (stand : Stand) (opcode : Opcode) : Decidable (Keeps stand opcode) :=
  inferInstanceAs (Decidable (_ → _))

theorem Step.inside_eq (step : Step a i a') :
    (∃ s, i.opcode.sectionAt? a.stand = some s ∧ a' = a.file s i) ∨
      i.opcode.sectionAt? a.stand = none ∧ a'.filed = a.filed ∧ a'.inside.Perm (a.inside ++ [i]) ∧
        (Keeps a.stand i.opcode → a'.inside = a.inside ++ [i]) := by
  cases step with
  | file belongs => exact .inl ⟨_, belongs, rfl⟩
  | openFunction opcode =>
    refine .inr ⟨by rw [opcode]; rfl, rfl, ?_⟩
    simp [inside, OpenFunction.instructions]
  | @parameter filed functions f i opcode =>
    refine .inr ⟨by rw [opcode]; rfl, rfl, ?_, fun keeps => ?_⟩
    · simp only [inside, OpenFunction.instructions, Option.elim, List.cons_append, List.append_assoc]
      refine .append_left _ (.cons _ (.append_left _ ?_))
      rw [← List.append_assoc (f.blocks.flatMap _)]
      exact (List.perm_append_singleton i _).symm
    · -- A function that is at its header has nothing after its parameters.
      obtain ⟨definition, parameters, blocks, current⟩ := f
      have header := keeps opcode
      cases current <;> cases blocks <;> cases header
      simp [inside, OpenFunction.instructions]
  | openBlock opcode =>
    refine .inr ⟨by rw [opcode]; rfl, rfl, ?_⟩
    simp [inside, OpenFunction.instructions, BasicBlock.instructions]
  | append ordinary =>
    refine .inr ⟨Opcode.sectionAt?_block ordinary, rfl, ?_⟩
    simp [inside, OpenFunction.instructions, BasicBlock.instructions]
  | closeBlock terminates =>
    refine .inr ⟨Opcode.sectionAt?_of_isTerminator terminates _, rfl, ?_⟩
    simp [inside, OpenFunction.instructions, BasicBlock.instructions]
  | closeFunction opcode =>
    refine .inr ⟨by rw [opcode]; rfl, rfl, ?_⟩
    simp [inside, OpenFunction.instructions, FunctionBody.instructions]

/-- What happens to instructions one after the other. -/
inductive Run : Arrangement → List Instruction → Arrangement → Prop
  | nil {a : Arrangement} : Run a [] a
  | cons {a a' last : Arrangement} {i : Instruction} {is : List Instruction} (step : Step a i a')
    (rest : Run a' is last) : Run a (i :: is) last

theorem foldlM_place_eq_ok_iff {is : List Instruction} : is.foldlM place a = .ok a' ↔ Run a is a' := by
  induction is generalizing a with
  | nil =>
    rw [List.foldlM_nil, Outcome.pure_eq_ok_iff]
    constructor
    · rintro rfl
      exact .nil
    · rintro ⟨⟩
      rfl
  | cons i is ih =>
    rw [List.foldlM_cons, Outcome.bind_eq_ok_iff]
    constructor
    · rintro ⟨next, step, rest⟩
      exact .cons (place_eq_ok_iff.mp step) (ih.mp rest)
    · rintro (_ | ⟨step, rest⟩)
      exact ⟨_, place_eq_ok_iff.mpr step, ih.mpr rest⟩

namespace Run

variable {is : List Instruction}

theorem append {last : Arrangement} {others : List Instruction} (run : Run a is a') (rest : Run a' others last) :
    Run a (is ++ others) last := by
  induction run with
  | nil => exact rest
  | cons step _ ih => exact .cons step (ih rest)

/-- What is filed in sections, by where it stands. -/
def filings (placed : List (Stand × Instruction)) : List (Section × Instruction) :=
  placed.filterMap fun (stand, i) => (i.opcode.sectionAt? stand).map (·, i)

/-- What is part of functions. -/
def insiders (placed : List (Stand × Instruction)) : List Instruction :=
  (placed.filter fun p => (p.2.opcode.sectionAt? p.1).isNone).map Prod.snd

theorem insiders_append (placed others : List (Stand × Instruction)) :
    insiders (placed ++ others) = insiders placed ++ insiders others := by
  rw [insiders, List.filter_append, List.map_append]
  rfl

theorem insiders_eq_nil {placed : List (Stand × Instruction)}
    (filed : ∀ p ∈ placed, (p.2.opcode.sectionAt? p.1).isSome = true) : insiders placed = [] := by
  rw [insiders, List.map_eq_nil_iff, List.filter_eq_nil_iff]
  intro p member inside
  exact Option.isSome_iff_ne_none.mp (filed p member) (Option.isNone_iff_eq_none.mp inside)

theorem filed_eq (run : Run a is a') : a'.filed = a.filed ++ filings (a.stand.along Instruction.opcode is) := by
  induction run with
  | nil => simp [filings, Stand.along]
  | cons step _ ih =>
    rw [ih, Stand.along, ← step.stand]
    rcases step.inside_eq with ⟨s, belongs, rfl⟩ | ⟨inside, filed, _⟩
    · simp [filings, belongs, file]
    · simp [filings, inside, filed]

theorem filterMap_filings (placed : List (Stand × Instruction)) (s : Section) :
    (filings placed).filterMap (fun (t, i) => if t = s then some i else none) =
      (placed.filter fun p => p.2.opcode.sectionAt? p.1 = some s).map Prod.snd := by
  induction placed with
  | nil => rfl
  | cons p placed ih =>
    rw [filings] at ih ⊢
    cases belongs : p.2.opcode.sectionAt? p.1 with
    | none => simp [belongs, ← ih]
    | some t =>
      by_cases here : t = s
      · simp [belongs, here, ← ih]
      · simp [belongs, here, ← ih]

theorem sectionOf_eq (run : Run {} is a') (s : Section) : a'.sectionOf s =
    ((Stand.outside.along Instruction.opcode is).filter fun p => p.2.opcode.sectionAt? p.1 = some s).map Prod.snd := by
  rw [sectionOf, run.filed_eq, List.nil_append, filterMap_filings]
  rfl

theorem inside_perm (run : Run a is a') :
    a'.inside.Perm (a.inside ++ insiders (a.stand.along Instruction.opcode is)) := by
  induction run with
  | nil => simp [insiders, Stand.along]
  | @cons a a' last i is step _ ih =>
    refine ih.trans ?_
    rw [Stand.along, ← step.stand]
    rcases step.inside_eq with ⟨s, belongs, rfl⟩ | ⟨inside, _, perm, _⟩
    · simp [insiders, belongs, file, Arrangement.inside]
    · simpa [insiders, inside] using perm.append_right _

theorem inside_eq (run : Run a is a') (keeps : ∀ p ∈ a.stand.along Instruction.opcode is, Keeps p.1 p.2.opcode) :
    a'.inside = a.inside ++ insiders (a.stand.along Instruction.opcode is) := by
  induction run with
  | nil => simp [insiders, Stand.along]
  | @cons a a' last i is step _ ih =>
    rw [Stand.along, List.forall_mem_cons, ← step.stand] at keeps
    rw [ih keeps.2, Stand.along, ← step.stand]
    rcases step.inside_eq with ⟨s, belongs, rfl⟩ | ⟨inside, _, _, next⟩
    · simp [insiders, belongs, file, Arrangement.inside]
    · simp [insiders, inside, next keeps.1]

end Run

end Arrangement

/-! What an arrangement holds can be placed again. -/

structure BasicBlock.Arranged (b : BasicBlock) : Prop where
  label : b.label.opcode = .opLabel
  body : ∃ front last, b.body = front ++ [last] ∧ (∀ i ∈ front, i.opcode.isOrdinary = true) ∧
    last.opcode.isTerminator = true

structure FunctionBody.Arranged (f : FunctionBody) : Prop where
  definition : f.definition.opcode = .opFunction
  parameters : ∀ i ∈ f.parameters, i.opcode = .opFunctionParameter
  blocks : ∀ b ∈ f.blocks, b.Arranged
  ending : f.ending.opcode = .opFunctionEnd

structure OpenFunction.Arranged (f : OpenFunction) : Prop where
  definition : f.definition.opcode = .opFunction
  parameters : ∀ i ∈ f.parameters, i.opcode = .opFunctionParameter
  blocks : ∀ b ∈ f.blocks, b.Arranged
  current : ∀ b ∈ f.current, b.label.opcode = .opLabel ∧ ∀ i ∈ b.body, i.opcode.isOrdinary = true

theorem Opcode.sectionAt?_outside {stand : Stand} {opcode : Opcode} {s : Section}
    (belongs : opcode.sectionAt? stand = some s) : opcode.sectionAt? .outside = some s := by
  cases opcode <;> first | exact belongs | (cases stand <;> first | exact belongs | cases belongs)

namespace Arrangement

structure Arranged (a : Arrangement) : Prop where
  filed : ∀ p ∈ a.filed, p.2.opcode.sectionAt? .outside = some p.1
  functions : ∀ f ∈ a.functions, f.Arranged
  opened : ∀ f ∈ a.opened, f.Arranged

theorem Step.arranged (step : Step a i a') (arranged : a.Arranged) : a'.Arranged := by
  obtain ⟨filed, functions, opened⟩ := arranged
  cases step with
  | file belongs =>
    refine ⟨List.forall_mem_append.mpr ⟨filed, ?_⟩, functions, opened⟩
    exact List.forall_mem_singleton.mpr (Opcode.sectionAt?_outside belongs)
  | openFunction opcode =>
    refine ⟨filed, functions, ?_⟩
    rintro _ ⟨⟩
    exact ⟨opcode, by simp, by simp, by simp⟩
  | parameter opcode =>
    refine ⟨filed, functions, ?_⟩
    rintro _ ⟨⟩
    obtain ⟨definition, parameters, blocks, current⟩ := opened _ rfl
    exact ⟨definition, List.forall_mem_append.mpr ⟨parameters, List.forall_mem_singleton.mpr opcode⟩, blocks, current⟩
  | openBlock opcode =>
    refine ⟨filed, functions, ?_⟩
    rintro _ ⟨⟩
    obtain ⟨definition, parameters, blocks, _⟩ := opened _ rfl
    refine ⟨definition, parameters, blocks, ?_⟩
    rintro _ ⟨⟩
    exact ⟨opcode, by simp⟩
  | append ordinary =>
    refine ⟨filed, functions, ?_⟩
    rintro _ ⟨⟩
    obtain ⟨definition, parameters, blocks, current⟩ := opened _ rfl
    refine ⟨definition, parameters, blocks, ?_⟩
    rintro _ ⟨⟩
    obtain ⟨label, body⟩ := current _ rfl
    exact ⟨label, List.forall_mem_append.mpr ⟨body, List.forall_mem_singleton.mpr ordinary⟩⟩
  | closeBlock terminates =>
    refine ⟨filed, functions, ?_⟩
    rintro _ ⟨⟩
    obtain ⟨definition, parameters, blocks, current⟩ := opened _ rfl
    refine ⟨definition, parameters, List.forall_mem_append.mpr ⟨blocks, List.forall_mem_singleton.mpr ?_⟩, by simp⟩
    obtain ⟨label, body⟩ := current _ rfl
    exact ⟨label, _, _, rfl, body, terminates⟩
  | closeFunction opcode =>
    obtain ⟨definition, parameters, blocks, _⟩ := opened _ rfl
    refine ⟨filed, List.forall_mem_append.mpr ⟨functions, List.forall_mem_singleton.mpr ?_⟩, ?_⟩
    · exact ⟨definition, parameters, blocks, opcode⟩
    · rintro _ ⟨⟩

namespace Run

theorem arranged {is : List Instruction} (run : Run a is a') (arranged : a.Arranged) : a'.Arranged := by
  induction run with
  | nil => exact arranged
  | cons step _ ih => exact ih (step.arranged arranged)

variable {filed : List (Section × Instruction)} {functions : List FunctionBody}

theorem of_filings {more : List (Section × Instruction)}
    (belong : ∀ p ∈ more, p.2.opcode.sectionAt? .outside = some p.1) :
    Run ⟨filed, functions, none⟩ (more.map Prod.snd) ⟨filed ++ more, functions, none⟩ := by
  induction more generalizing filed with
  | nil =>
    rw [List.append_nil]
    exact .nil
  | cons p more ih =>
    rw [List.forall_mem_cons] at belong
    rw [List.append_cons]
    exact .cons (.file belong.1) (ih belong.2)

variable {definition : Instruction} {parameters : List Instruction} {blocks : List BasicBlock}

theorem of_parameters {more : List Instruction} (opcodes : ∀ i ∈ more, i.opcode = .opFunctionParameter) :
    Run ⟨filed, functions, some ⟨definition, parameters, blocks, none⟩⟩ more
      ⟨filed, functions, some ⟨definition, parameters ++ more, blocks, none⟩⟩ := by
  induction more generalizing parameters with
  | nil =>
    rw [List.append_nil]
    exact .nil
  | cons i more ih =>
    rw [List.forall_mem_cons] at opcodes
    rw [List.append_cons]
    exact .cons (.parameter opcodes.1) (ih opcodes.2)

theorem of_ordinary {label : Instruction} {body more : List Instruction}
    (ordinary : ∀ i ∈ more, i.opcode.isOrdinary = true) :
    Run ⟨filed, functions, some ⟨definition, parameters, blocks, some ⟨label, body⟩⟩⟩ more
      ⟨filed, functions, some ⟨definition, parameters, blocks, some ⟨label, body ++ more⟩⟩⟩ := by
  induction more generalizing body with
  | nil =>
    rw [List.append_nil]
    exact .nil
  | cons i more ih =>
    rw [List.forall_mem_cons] at ordinary
    rw [List.append_cons]
    exact .cons (.append ordinary.1) (ih ordinary.2)

theorem of_block {b : BasicBlock} (arranged : b.Arranged) :
    Run ⟨filed, functions, some ⟨definition, parameters, blocks, none⟩⟩ b.instructions
      ⟨filed, functions, some ⟨definition, parameters, blocks ++ [b], none⟩⟩ := by
  obtain ⟨label, body⟩ := b
  obtain ⟨opcode, front, last, rfl, ordinary, terminates⟩ := arranged
  refine .cons (.openBlock opcode) (.append (of_ordinary ordinary) ?_)
  rw [List.nil_append]
  exact .cons (.closeBlock terminates) .nil

theorem of_blocks {more : List BasicBlock} (arranged : ∀ b ∈ more, b.Arranged) :
    Run ⟨filed, functions, some ⟨definition, parameters, blocks, none⟩⟩ (more.flatMap BasicBlock.instructions)
      ⟨filed, functions, some ⟨definition, parameters, blocks ++ more, none⟩⟩ := by
  induction more generalizing blocks with
  | nil =>
    rw [List.append_nil]
    exact .nil
  | cons b more ih =>
    rw [List.forall_mem_cons] at arranged
    rw [List.append_cons]
    exact (of_block arranged.1).append (ih arranged.2)

theorem of_function {f : FunctionBody} (arranged : f.Arranged) :
    Run ⟨filed, functions, none⟩ f.instructions ⟨filed, functions ++ [f], none⟩ := by
  refine .cons (.openFunction arranged.definition) ?_
  refine ((of_parameters arranged.parameters).append (of_blocks arranged.blocks)).append ?_
  exact .cons (.closeFunction arranged.ending) .nil

theorem of_functions {more : List FunctionBody} (arranged : ∀ f ∈ more, f.Arranged) :
    Run ⟨filed, functions, none⟩ (more.flatMap FunctionBody.instructions) ⟨filed, functions ++ more, none⟩ := by
  induction more generalizing functions with
  | nil =>
    rw [List.append_nil]
    exact .nil
  | cons f more ih =>
    rw [List.forall_mem_cons] at arranged
    rw [List.append_cons]
    exact (of_function arranged.1).append (ih arranged.2)

end Run

end Arrangement

end ShaderGraph.Spirv
