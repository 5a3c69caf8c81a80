import ShaderGraph.Proofs.Loading.Reload

namespace ShaderGraph.Spirv

/-- Choosing by keys, one after the other, changes nothing if the keys stand in that order. -/
theorem flatMap_filter_of_grouped {α κ : Type} [DecidableEq κ] {key : α → Option κ} {keys : List κ} {count : κ → Nat}
    {xs : List α} (once : keys.Nodup)
    (grouped : xs.map key = keys.flatMap fun k => List.replicate (count k) (some k)) :
    keys.flatMap (fun k => xs.filter fun x => key x = some k) = xs := by
  induction keys generalizing xs with
  | nil => exact (List.map_eq_nil_iff.mp grouped).symm
  | cons k keys ih =>
    rw [List.nodup_cons] at once
    rw [List.flatMap_cons] at grouped
    obtain ⟨own, others, rfl, first, rest⟩ := List.map_eq_append_iff.mp grouped
    have here : ∀ x ∈ own, key x = some k := by
      intro x member
      exact List.eq_of_mem_replicate (first ▸ List.mem_map_of_mem member)
    have elsewhere : ∀ x ∈ others, ∃ other ∈ keys, key x = some other := by
      intro x member
      have listed : key x ∈ others.map key := List.mem_map_of_mem member
      rw [rest] at listed
      obtain ⟨other, inside, same⟩ := List.mem_flatMap.mp listed
      exact ⟨other, inside, List.eq_of_mem_replicate same⟩
    have chosen : (own ++ others).filter (fun x => key x = some k) = own := by
      have all : own.filter (fun x => key x = some k) = own := List.filter_eq_self.mpr (by simpa using here)
      have none : others.filter (fun x => key x = some k) = [] := by
        refine List.filter_eq_nil_iff.mpr fun x member same => ?_
        obtain ⟨other, inside, found⟩ := elsewhere x member
        cases found.symm.trans (of_decide_eq_true same)
        exact once.1 inside
      rw [List.filter_append, all, none, List.append_nil]
    have later : keys.flatMap (fun t => (own ++ others).filter fun x => key x = some t) = others := by
      refine (List.flatMap_congr fun t inside => ?_).trans (ih once.2 rest)
      have none : own.filter (fun x => key x = some t) = [] := by
        refine List.filter_eq_nil_iff.mpr fun x member same => ?_
        cases (here x member).symm.trans (of_decide_eq_true same)
        exact once.1 inside
      rw [List.filter_append, none, List.nil_append]
    rw [List.flatMap_cons, chosen, later]

/-- A stream in the order of a module: `front` has the sections one after the other, and nothing in `back` is moved. -/
structure InOrder (front back : List Opcode) : Prop where
  grouped : ∃ count : Section → Nat, count .memoryModel ≤ 1 ∧
    front.map (Opcode.sectionAt? .outside) = Section.all.flatMap fun s => List.replicate (count s) (some s)
  kept : ∀ p ∈ Stand.outside.along id back, p.2.sectionAt? p.1 = none ∧ Arrangement.Keeps p.1 p.2

/-- Where instructions are filed, the stream stays outside functions. -/
theorem Stand.along_append_of_filed {front : List Instruction} (back : List Instruction)
    (filed : ∀ i ∈ front, (i.opcode.sectionAt? .outside).isSome = true) :
    Stand.outside.along Instruction.opcode (front ++ back) =
      front.map (Stand.outside, ·) ++ Stand.outside.along Instruction.opcode back := by
  induction front with
  | nil => rfl
  | cons i front ih =>
    rw [List.forall_mem_cons] at filed
    obtain ⟨s, belongs⟩ := Option.isSome_iff_exists.mp filed.1
    rw [List.cons_append, along, next_of_sectionAt? belongs, ih filed.2, List.map_cons, List.cons_append]

namespace Arrangement.Run

variable {globals bodies : List Instruction} {a : Arrangement}

theorem sectionOf_of_filed (run : Run {} (globals ++ bodies) a)
    (filed : ∀ i ∈ globals, (i.opcode.sectionAt? .outside).isSome = true)
    (kept : ∀ p ∈ Stand.outside.along Instruction.opcode bodies, p.2.opcode.sectionAt? p.1 = none) (s : Section) :
    a.sectionOf s = globals.filter fun i => i.opcode.sectionAt? .outside = some s := by
  have none : (Stand.outside.along Instruction.opcode bodies).filter
      (fun p => p.2.opcode.sectionAt? p.1 = some s) = [] := by
    refine List.filter_eq_nil_iff.mpr fun p member same => ?_
    cases (kept p member).symm.trans (of_decide_eq_true same)
  rw [run.sectionOf_eq, Stand.along_append_of_filed bodies filed, List.filter_append, none, List.append_nil,
    List.filter_map, List.map_map]
  exact List.map_id _

theorem inside_of_filed (run : Run {} (globals ++ bodies) a)
    (filed : ∀ i ∈ globals, (i.opcode.sectionAt? .outside).isSome = true)
    (kept : ∀ p ∈ Stand.outside.along Instruction.opcode bodies,
      p.2.opcode.sectionAt? p.1 = none ∧ Keeps p.1 p.2.opcode) : a.inside = bodies := by
  have placed := Stand.along_append_of_filed bodies filed
  have keeps : ∀ p ∈ Stand.outside.along Instruction.opcode (globals ++ bodies), Keeps p.1 p.2.opcode := by
    rw [placed, List.forall_mem_append, List.forall_mem_map]
    refine ⟨fun i member opcode => ?_, fun p member => (kept p member).2⟩
    have isFiled := filed i member
    rw [opcode] at isFiled
    cases isFiled
  have all : (Stand.outside.along Instruction.opcode bodies).filter
      (fun p => (p.2.opcode.sectionAt? p.1).isNone) = Stand.outside.along Instruction.opcode bodies :=
    List.filter_eq_self.mpr fun p member => Option.isNone_iff_eq_none.mpr (kept p member).1
  calc a.inside = insiders (Stand.outside.along Instruction.opcode (globals ++ bodies)) := run.inside_eq keeps
    _ = insiders (Stand.outside.along Instruction.opcode bodies) := by
      rw [placed, insiders_append, insiders_eq_nil (List.forall_mem_map.mpr filed), List.nil_append]
    _ = bodies := by rw [insiders, all, Stand.map_snd_along]

end Arrangement.Run

theorem getLast?_toList {α : Type} {xs : List α} (short : xs.length ≤ 1) : xs.getLast?.toList = xs := by
  match xs with
  | [] | [_] => rfl
  | _ :: _ :: _ => simp at short

/-- A stream in order is read as it stands. -/
theorem Module.ReadAs.instructions_eq {m : Module} {words : List UInt32} {is : List Instruction} {a : Arrangement}
    {front back : List Opcode} (read : ReadAs words m is a) (opcodes : is.map Instruction.opcode = front ++ back)
    (inOrder : InOrder front back) : m.instructions = is := by
  obtain ⟨⟨count, single, grouped⟩, kept⟩ := inOrder
  obtain ⟨globals, bodies, rfl, rfl, rfl⟩ := List.map_eq_append_iff.mp opcodes
  rw [Stand.along_map, List.forall_mem_map] at kept
  rw [List.map_map] at grouped
  have filed : ∀ i ∈ globals, (i.opcode.sectionAt? .outside).isSome = true := by
    intro i member
    have listed : i.opcode.sectionAt? .outside ∈ globals.map (Opcode.sectionAt? .outside ∘ Instruction.opcode) :=
      List.mem_map_of_mem member
    rw [grouped] at listed
    obtain ⟨s, _, same⟩ := List.mem_flatMap.mp listed
    exact Option.isSome_iff_exists.mpr ⟨s, List.eq_of_mem_replicate same⟩
  have sections := read.run.sectionOf_of_filed filed fun p member => (kept p member).1
  have parts (s : Section) : m.part s = a.sectionOf s := by
    rw [read.module_eq]
    cases s with
    | memoryModel =>
      have counted := congrArg (List.count (some Section.memoryModel)) grouped
      have size : globals.countP (fun i => i.opcode.sectionAt? .outside = some .memoryModel) = count .memoryModel := by
        simpa [Section.all, List.count, List.countP_map, Function.comp_def, List.countP_replicate, beq_eq_decide]
          using counted
      refine getLast?_toList ?_
      rwa [sections, ← List.countP_eq_length_filter, size]
    | _ => rfl
  calc m.instructions = Section.all.flatMap m.part ++ a.inside := by rw [instructions, read.functions_eq, globals_eq]
    _ = Section.all.flatMap (fun s => globals.filter fun i => i.opcode.sectionAt? .outside = some s) ++ bodies := by
      rw [read.run.inside_of_filed filed kept, List.flatMap_congr fun s _ => (parts s).trans (sections s)]
    _ = globals ++ bodies := congrArg (· ++ bodies) (flatMap_filter_of_grouped (by decide) grouped)

end ShaderGraph.Spirv
