import ShaderGraph.Proofs.Loading.Reload

namespace ShaderGraph.Spirv

/-- The instructions of a stream from the first function on, with where they stand. -/
def fromFirstFunction (opcodes : List Opcode) : List (Stand × Opcode) :=
  (Stand.outside.along id opcodes).dropWhile (·.2 ≠ .opFunction)

/-- No type, constant or variable is declared outside functions after the first function. -/
def DeclaredFirst (opcodes : List Opcode) : Prop :=
  ∀ p ∈ fromFirstFunction opcodes, p.2.section? ≠ some .declaration ∧ p ≠ (.outside, .opVariable)

/-- Where there are switches, nothing that may have the type of a selector is moved to an earlier place. -/
def SelectorsKept (opcodes : List Opcode) : Prop :=
  .opSwitch ∈ opcodes →
    (∀ p ∈ fromFirstFunction opcodes, p ≠ (.outside, .opUndef)) ∧
      ∀ p ∈ Stand.outside.along id opcodes, p.2 = .opFunctionParameter → p.1 = .header

instance (opcodes : List Opcode) : Decidable (DeclaredFirst opcodes) :=
  inferInstanceAs (Decidable (∀ p ∈ fromFirstFunction opcodes, _ ∧ _))

instance (opcodes : List Opcode) : Decidable (SelectorsKept opcodes) :=
  inferInstanceAs (Decidable (_ → _ ∧ _))

/-! What sections are silent about. -/

namespace Opcode

variable {opcode : Opcode} {stand : Stand} {s : Section}

theorem isSilent_of_section (belongs : opcode.sectionAt? stand = some s) (other : s ≠ .declaration) :
    opcode.isSilent = true := by
  have outside := sectionAt?_outside belongs
  cases opcode <;> first | rfl | (cases outside; done) | (cases outside; exact absurd rfl other)

theorem late_declaration (belongs : opcode.sectionAt? stand = some .declaration)
    (late : opcode.section? ≠ some .declaration ∧ (stand, opcode) ≠ (.outside, .opVariable)) :
    opcode.isSilent = true ∨ (stand, opcode) = (.outside, .opUndef) := by
  unfold sectionAt? at belongs
  split at belongs
  · next s known =>
    cases belongs
    exact absurd known late.1
  split at belongs
  · exact .inl rfl
  · exact .inl rfl
  · split at belongs
    · next outside => exact absurd (by rw [outside]) late.2
    · cases belongs
  · split at belongs
    · next outside => exact .inr (by rw [outside])
    · cases belongs
  · cases belongs

theorem hasWidth_of_isSilent (silent : opcode.isSilent = true) : opcode.hasWidth = false := by
  simp only [isSilent, Bool.and_eq_true, Bool.not_eq_true'] at silent
  exact silent.2

theorem hasWidth_inside (inside : opcode.sectionAt? stand = none) (other : opcode ≠ .opSwitch) :
    opcode.hasWidth = false := by
  cases opcode <;> first | rfl | exact absurd rfl other | cases inside

end Opcode

namespace Arrangement.Run

variable {a a' : Arrangement} {is : List Instruction}

/-- Everything in front of the first function is filed in a section. -/
theorem filed_before_function (run : Run a is a') (outside : a.opened = none) :
    ∀ p ∈ (a.stand.along Instruction.opcode is).takeWhile (·.2.opcode ≠ .opFunction),
      (p.2.opcode.sectionAt? p.1).isSome = true := by
  induction run with
  | nil => simp [Stand.along]
  | @cons a a' last i is step rest ih =>
    rw [Stand.along]
    by_cases opens : i.opcode = .opFunction
    · simp [opens]
    · rw [List.takeWhile_cons_of_pos (by simpa using opens), List.forall_mem_cons, ← step.stand]
      cases step with
      | file belongs => exact ⟨by rw [belongs]; rfl, ih outside⟩
      | openFunction opcode => exact absurd opcode opens
      | parameter | openBlock | append | closeBlock | closeFunction => cases outside

end Arrangement.Run

/-- A choice of instructions that leaves out only silent ones has all relevant ones. -/
theorem filter_isRelevant_map {placed : List (Stand × Instruction)} {chosen : Stand × Instruction → Bool}
    (silent : ∀ p ∈ placed, chosen p = false → p.2.isRelevant = false) :
    ((placed.filter chosen).map Prod.snd).filter Instruction.isRelevant =
      (placed.map Prod.snd).filter Instruction.isRelevant := by
  rw [List.filter_map, List.filter_map, List.filter_filter]
  congr 1
  refine List.filter_congr fun p member => ?_
  cases relevant : p.2.isRelevant with
  | false => simp [relevant]
  | true =>
    cases picked : chosen p with
    | true => simp [relevant]
    | false => rw [silent p member picked] at relevant; cases relevant

theorem fromFirstFunction_map (is : List Instruction) : fromFirstFunction (is.map Instruction.opcode) =
    ((Stand.outside.along Instruction.opcode is).dropWhile (·.2.opcode ≠ .opFunction)).map
      (Prod.map id Instruction.opcode) := by
  rw [fromFirstFunction, Stand.along_map, List.dropWhile_map]
  rfl

open Arrangement

def declared (placed : List (Stand × Instruction)) : List Instruction :=
  (placed.filter fun p => p.2.opcode.sectionAt? p.1 = some .declaration).map Prod.snd

/-- A stream in two parts: what is before the first function, and the rest. -/
structure Division (is : List Instruction) (a : Arrangement) (before after : List (Stand × Instruction)) : Prop where
  stream : is = before.map Prod.snd ++ after.map Prod.snd
  filed : ∀ p ∈ before, (p.2.opcode.sectionAt? p.1).isSome = true
  late : ∀ p ∈ after, p.2.opcode.section? ≠ some .declaration ∧ (p.1, p.2.opcode) ≠ (.outside, .opVariable)
  declarations : a.sectionOf .declaration = declared before ++ declared after
  inside : a.inside.Perm (Run.insiders after)
  switches : .opSwitch ∈ is.map Instruction.opcode →
    (∀ p ∈ after, (p.1, p.2.opcode) ≠ (.outside, .opUndef)) ∧ a.inside = Run.insiders after

variable {a : Arrangement} {is : List Instruction}

theorem exists_division (run : Run {} is a) (first : DeclaredFirst (is.map Instruction.opcode))
    (kept : SelectorsKept (is.map Instruction.opcode)) : ∃ before after, Division is a before after := by
  let early (p : Stand × Instruction) : Bool := p.2.opcode ≠ .opFunction
  let placed := Stand.outside.along Instruction.opcode is
  have both : placed.takeWhile early ++ placed.dropWhile early = placed := List.takeWhile_append_dropWhile
  have filed : ∀ p ∈ placed.takeWhile early, (p.2.opcode.sectionAt? p.1).isSome = true := run.filed_before_function rfl
  have insiders : Run.insiders placed = Run.insiders (placed.dropWhile early) := by
    calc Run.insiders placed = Run.insiders (placed.takeWhile early ++ placed.dropWhile early) := by rw [both]
      _ = Run.insiders (placed.dropWhile early) := by
        rw [Run.insiders_append, Run.insiders_eq_nil filed, List.nil_append]
  rw [DeclaredFirst, fromFirstFunction_map, List.forall_mem_map] at first
  rw [SelectorsKept, fromFirstFunction_map, Stand.along_map, List.forall_mem_map, List.forall_mem_map] at kept
  refine ⟨placed.takeWhile early, placed.dropWhile early, ?_, filed, first, ?_, ?_, fun switch => ⟨(kept switch).1, ?_⟩⟩
  · rw [← List.map_append, both, Stand.map_snd_along]
  · rw [run.sectionOf_eq, declared, declared, ← List.map_append, ← List.filter_append, both]
  · rw [← insiders]
    exact run.inside_perm
  · rw [← insiders]
    exact run.inside_eq (kept switch).2

namespace Division

variable {before after : List (Stand × Instruction)}

theorem declared_subset (placed : List (Stand × Instruction)) : declared placed ⊆ placed.map Prod.snd :=
  (List.filter_sublist.map _).subset

theorem insiders_subset (placed : List (Stand × Instruction)) : Run.insiders placed ⊆ placed.map Prod.snd :=
  (List.filter_sublist.map _).subset

theorem subset (division : Division is a before after) : a.sectionOf .declaration ++ a.inside ⊆ is := by
  rw [division.declarations, division.stream]
  refine List.append_subset.mpr ⟨List.append_subset.mpr ⟨?_, ?_⟩, ?_⟩
  · exact List.Subset.trans (declared_subset before) (List.subset_append_left _ _)
  · exact List.Subset.trans (declared_subset after) (List.subset_append_right _ _)
  · have within := List.Subset.trans division.inside.subset (insiders_subset after)
    exact List.Subset.trans within (List.subset_append_right _ _)

theorem legible (division : Division is a before after) (rereads : Rereads .empty is) :
    ∀ p ∈ before ++ after, ∃ types, p.2.Legible types := by
  intro p member
  refine rereads.exists_legible ?_
  rw [division.stream, ← List.map_append]
  exact List.mem_map_of_mem member

theorem filter_declared_before (division : Division is a before after) (rereads : Rereads .empty is) :
    (declared before).filter Instruction.isRelevant = (before.map Prod.snd).filter Instruction.isRelevant := by
  refine filter_isRelevant_map fun p member other => ?_
  obtain ⟨s, belongs⟩ := Option.isSome_iff_exists.mp (division.filed p member)
  obtain ⟨_, legible⟩ := division.legible rereads p (List.mem_append_left _ member)
  refine legible.isRelevant_eq_false (Opcode.isSilent_of_section belongs ?_)
  rintro rfl
  simp [belongs] at other

theorem hasWidth_late (division : Division is a before after) {i : Instruction} (member : i ∈ declared after) :
    i.opcode.hasWidth = false := by
  obtain ⟨p, chosen, rfl⟩ := List.mem_map.mp member
  obtain ⟨within, belongs⟩ := List.mem_filter.mp chosen
  rcases Opcode.late_declaration (of_decide_eq_true belongs) (division.late p within) with silent | undefined
  · exact Opcode.hasWidth_of_isSilent silent
  · have opcode : p.2.opcode = .opUndef := congrArg Prod.snd undefined
    rw [opcode]
    rfl

/-- From the first function on, what is filed in sections says nothing about types. -/
theorem filter_late (division : Division is a before after) (rereads : Rereads .empty is)
    (defined : ∀ p ∈ after, (p.1, p.2.opcode) ≠ (.outside, .opUndef)) :
    (declared after).filter Instruction.isRelevant = [] ∧
      (Run.insiders after).filter Instruction.isRelevant = (after.map Prod.snd).filter Instruction.isRelevant := by
  have silent : ∀ p ∈ after, (p.2.opcode.sectionAt? p.1).isSome = true → p.2.isRelevant = false := by
    intro p member filed
    obtain ⟨s, belongs⟩ := Option.isSome_iff_exists.mp filed
    obtain ⟨_, legible⟩ := division.legible rereads p (List.mem_append_right _ member)
    refine legible.isRelevant_eq_false ?_
    by_cases declares : s = .declaration
    · rw [declares] at belongs
      exact (Opcode.late_declaration belongs (division.late p member)).resolve_right (defined p member)
    · exact Opcode.isSilent_of_section belongs declares
  constructor
  · rw [List.filter_eq_nil_iff]
    intro i member
    obtain ⟨p, chosen, rfl⟩ := List.mem_map.mp member
    obtain ⟨within, belongs⟩ := List.mem_filter.mp chosen
    rw [silent p within (by rw [of_decide_eq_true belongs]; rfl)]
    decide
  · refine filter_isRelevant_map fun p member other => silent p member ?_
    rwa [Option.isNone_eq_false_iff] at other

end Division

/-- Declarations can be read in front of functions. -/
theorem Rereads.declarations_inside (rereads : Rereads .empty is) (run : Run {} is a)
    (first : DeclaredFirst (is.map Instruction.opcode)) (kept : SelectorsKept (is.map Instruction.opcode)) :
    Rereads .empty (a.sectionOf .declaration ++ a.inside) := by
  obtain ⟨before, after, division⟩ := exists_division run first kept
  have legible : ∀ i ∈ a.sectionOf .declaration ++ a.inside, ∃ types, i.Legible types :=
    fun i member => rereads.exists_legible (division.subset member)
  have early := division.filter_declared_before rereads
  by_cases switch : .opSwitch ∈ is.map Instruction.opcode
  · -- All that is relevant keeps its order.
    obtain ⟨defined, insideEq⟩ := division.switches switch
    obtain ⟨late, inside⟩ := division.filter_late rereads defined
    refine rereads.of_filter_eq legible ?_
    rw [division.declarations, insideEq, division.stream]
    simp only [List.filter_append, early, late, inside, List.append_nil]
  · -- Nothing after the first function depends on types.
    have plain : ∀ i ∈ declared after ++ a.inside, i.opcode.hasWidth = false := by
      intro i member
      rcases List.mem_append.mp member with late | inside
      · exact division.hasWidth_late late
      · obtain ⟨p, chosen, rfl⟩ := List.mem_map.mp (division.inside.subset inside)
        obtain ⟨within, inside⟩ := List.mem_filter.mp chosen
        refine Opcode.hasWidth_inside (Option.isNone_iff_eq_none.mp inside) fun opcode => switch ?_
        rw [division.stream, ← opcode]
        exact List.mem_map_of_mem (List.mem_append_right _ (List.mem_map_of_mem within))
    rw [division.declarations, List.append_assoc] at legible ⊢
    rw [List.forall_mem_append] at legible
    have front : Rereads .empty (before.map Prod.snd) := of_append (division.stream ▸ rereads)
    exact (front.of_filter_eq legible.1 early).append (of_no_width legible.2 plain)

end ShaderGraph.Spirv
