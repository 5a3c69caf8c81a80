import ShaderGraph.Proofs.Decoding.Reflection

namespace ShaderGraph

open Spirv

namespace Spirv

/-- An entry point as its instruction has it. The words after the name are its interface. -/
structure EntryPoint where
  model : UInt32
  function : UInt32
  name : String
  interface : List UInt32
  deriving DecidableEq, Repr

namespace Frame

def entryPoint? (f : Frame) : Option EntryPoint :=
  match f.operands with
  | model :: function :: words => (readText? words).map fun text => ⟨model, function, text.1, text.2⟩
  | _ => none

/-- The id of a variable, if its storage class is that of inputs or of outputs. -/
def interfaceId? (f : Frame) : Option UInt32 :=
  match f.operands with
  | _ :: id :: storageClass :: _ =>
    if storageClass = StorageClass.input.code ∨ storageClass = StorageClass.output.code then some id else none
  | _ => none

end Frame

/-- The inputs and outputs that are declared before the first function, in order. -/
def interfaceIds (frames : List Frame) : List UInt32 :=
  (framesOf .opVariable (moduleScope frames)).filterMap Frame.interfaceId?

/-- The functions that are defined, in order. -/
def functionIds (frames : List Frame) : List UInt32 :=
  (framesOf .opFunction frames).filterMap fun f => f.operands[1]?

/-- Entry points that fit a module: each lists all inputs and outputs as they are declared, none of them twice,
and each is a function of the module that no other is. The entry points are looked for among `remarks`. -/
structure EnteredBy (frames remarks : List Frame) (points : List EntryPoint) : Prop where
  read : (framesOf .opEntryPoint remarks).map Frame.entryPoint? = points.map some
  interface : ∀ point ∈ points, point.interface = interfaceIds frames
  once : (interfaceIds frames).Nodup
  function : ∀ point ∈ points, point.function ∈ functionIds frames
  distinct : (points.map EntryPoint.function).Nodup

end Spirv

namespace Library

variable {lib : Library} {c : Closure} {root : NodeRef} {interface : List OpId} {idOf : NodeRef → UInt32}

namespace Sections

variable (s : lib.Sections c interface)

/-- The inputs and outputs among the declarations are those that the interface was made of. -/
theorem interfaceIds_frames (idOf : NodeRef → UInt32) (reaches : c.IsReachablePart lib [root])
    (typed : ∀ id op, lib.Reachable [root] (.op id) → lib.opAt id = .ok op → lib.DeclaresGlobal op →
      op.resultType.isSome = true)
    (listed : c.globals = c.order.filterMap lib.variableOf?) (interfaced : interface = lib.interfaceOf c) :
    interfaceIds (s.drafts.map (Draft.frame idOf)) = interface.map fun id => idOf (.op id) := by
  have written : c.globals.mapM lib.opDraft = .ok (s.declarations.flatten.filter (·.opcode = .opVariable)) := by
    rw [listed]
    exact variables_declared s.declared
  have each : ∀ id ∈ c.globals, ∀ draft, lib.opDraft id = .ok draft → (draft.frame idOf).interfaceId? =
      if lib.isInterfaceVariable id then some (idOf (.op id)) else none := by
    intro id member draft made
    have reachable := ((reaches.globals id).mp member).1
    obtain ⟨op, storageClass, type, rest, atId, stored, _, _, operands⟩ :=
      operands_global reaches idOf member made fun op => typed id op reachable
    have known := isInterfaceVariable_eq atId stored
    simp only [Frame.interfaceId?, operands, known, ← isInterface_iff_code]
  rw [interfaceIds, s.moduleScope_frames reaches, s.framesOf_variables, List.filterMap_map]
  refine (Outcome.filterMap_of_mapM written each).trans ?_
  rw [interfaced, interfaceOf, ← List.filterMap_eq_map, List.filterMap_filter]
  rfl

/-- What is read from the instruction of an entry point. -/
theorem entryPoint?_of_entryPointDraft (idOf : NodeRef → UInt32) {id : FunctionId} {draft : Draft} {function : Function}
    (atId : lib.functionAt id = .ok function) (clean : '\x00' ∉ function.name.toList)
    (made : lib.entryPointDraft interface id = .ok (some draft)) :
    .function id ∈ draft.mentions ∧ ∃ point, (draft.frame idOf).entryPoint? = some point ∧
      point.function = idOf (.function id) ∧ point.interface = interface.map fun op => idOf (.op op) := by
  obtain ⟨function', at', _, form⟩ := entryPointDraft_eq_ok made
  cases at'.symm.trans atId
  obtain ⟨model, _, rfl⟩ := Option.map_eq_some_iff.mp form.symm
  refine ⟨by simp [Draft.mentions], ⟨model.code, _, function.name, _⟩, ?_, rfl, rfl⟩
  simp only [Frame.entryPoint?, operands_entryPoint, readText?_packText clean, Option.map_some]

/-- Entry points are read one by one, each from the instruction for its function. -/
theorem exists_points (idOf : NodeRef → UInt32) {entered : List FunctionId} {drafts : List Draft}
    (clean : ∀ id ∈ entered, ∀ function, lib.functionAt id = .ok function → '\x00' ∉ function.name.toList)
    (pairs : List.Forall₂ (fun id draft => lib.entryPointDraft interface id = .ok (some draft)) entered drafts) :
    ∃ points : List EntryPoint, (drafts.map (Draft.frame idOf)).map Frame.entryPoint? = points.map some ∧
      points.map EntryPoint.function = entered.map (fun id => idOf (.function id)) ∧
      ∀ point ∈ points, point.interface = interface.map fun op => idOf (.op op) := by
  induction pairs with
  | nil => exact ⟨[], rfl, rfl, List.forall_mem_nil _⟩
  | @cons id draft rest drafts made _ ih =>
    rw [List.forall_mem_cons] at clean
    obtain ⟨points, read, functions, interfaces⟩ := ih clean.2
    obtain ⟨function, atId, _⟩ := entryPointDraft_eq_ok made
    obtain ⟨_, point, first, entered, interfaced⟩ :=
      entryPoint?_of_entryPointDraft idOf atId (clean.1 function atId) made
    refine ⟨point :: points, ?_, ?_, List.forall_mem_cons.mpr ⟨interfaced, interfaces⟩⟩
    · rw [List.map_cons, List.map_cons, List.map_cons, first, read]
    · rw [List.map_cons, List.map_cons, entered, functions]

/-- The entry points of a module, wherever those of the module scope are looked for. -/
theorem exists_enteredBy (reaches : c.IsReachablePart lib [root]) (legible : lib.LegibleEntries root)
    (listed : c.globals = c.order.filterMap lib.variableOf?) (interfaced : interface = lib.interfaceOf c)
    (consistent : c.Consistent lib) (distinct : s.Distinguishes idOf) :
    ∃ points, ∀ remarks, framesOf .opEntryPoint remarks = s.entryPoints.map (Draft.frame idOf) →
      EnteredBy (s.drafts.map (Draft.frame idOf)) remarks points := by
  obtain ⟨entered, inside, pairs⟩ := Outcome.exists_sublist_of_filterMapM s.entered
  have clean : ∀ id ∈ entered, ∀ function, lib.functionAt id = .ok function → '\x00' ∉ function.name.toList :=
    fun id member function => legible.functions id function ((reaches.functions id).mp (inside.subset member))
  obtain ⟨points, read, functions, interfaces⟩ := exists_points idOf clean pairs
  have ids := s.interfaceIds_frames idOf reaches legible.globals listed interfaced
  have mentioned : ∀ id ∈ entered, .function id ∈ s.drafts.flatMap Draft.mentions := by
    intro id member
    obtain ⟨draft, place, made⟩ := Outcome.exists_of_forall₂ pairs.flip member
    obtain ⟨function, atId, _⟩ := entryPointDraft_eq_ok made
    have named := (entryPoint?_of_entryPointDraft idOf atId (clean id member function atId) made).1
    exact List.mem_flatMap.mpr ⟨draft, by simp [drafts, moduleScope, place], named⟩
  refine ⟨points, fun remarks found => ⟨found ▸ read, fun point member => (interfaces point member).trans ids.symm,
    ?_, fun point member => ?_, ?_⟩⟩
  · rw [ids]
    have globals : interface.Nodup := interfaced ▸ consistent.globals_nodup.filter _
    refine globals.map_on fun id here other there same => ?_
    have mem {id : OpId} (here : id ∈ interface) : NodeRef.op id ∈ interface.map NodeRef.op ++
        s.drafts.flatMap Draft.mentions := List.mem_append_left _ (List.mem_map_of_mem here)
    exact NodeRef.op.inj (distinct (mem here) (mem there) same)
  · have listed : point.function ∈ entered.map fun id => idOf (.function id) :=
      functions ▸ List.mem_map_of_mem member
    obtain ⟨id, place, same⟩ := List.mem_map.mp listed
    obtain ⟨f, defined, type, rest, operands⟩ := s.exists_function_frame idOf (inside.subset place)
    exact List.mem_filterMap.mpr ⟨f, defined, by simp [operands, ← same]⟩
  · rw [functions]
    refine (inside.nodup consistent.functions_nodup).map_on fun id here other there same => ?_
    have mem {id : FunctionId} (here : id ∈ entered) :=
      List.mem_append_right (interface.map NodeRef.op) (mentioned id here)
    exact NodeRef.function.inj (distinct (mem here) (mem there) same)

end Sections

/-- The entry points of a module list the inputs and outputs that it declares, each of them once and in order, and
enter functions that it has, each another one. They are the entry points of the reflection. This is so of those
that stand before the first function, and of all of them if no function lists one. -/
theorem emitType_entered {entry : TypeId} {binary : Binary} (emitted : lib.emitType entry = .ok binary)
    (legible : lib.LegibleEntries (.type entry)) :
    ∃ header frames points, readStream? binary.words = some (header, frames) ∧
      EnteredBy frames (moduleScope frames) points ∧
      List.Forall₂ Frame.Enters (framesOf .opEntryPoint (moduleScope frames)) binary.reflection.entryPoints ∧
      (lib.NoneInFunctions (.type entry) (· = .opEntryPoint) → EnteredBy frames frames points) := by
  obtain ⟨past, w, interface, s, collecting, interfaced, fits, words, reflected⟩ :=
    exists_emission_with_interface emitted
  have reaches := collecting.isReachablePart
  let idOf := (numbering w.closure interface s.drafts).word
  have shared : interface = lib.interfaceOf w.closure :=
    Except.ok.inj (interfaced.symm.trans (interface_eq_interfaceOf reaches))
  obtain ⟨points, entered⟩ := s.exists_enteredBy reaches legible collecting.globals_eq shared collecting.consistent
    (s.distinguishes_numbering fits)
  have scope : moduleScope (s.drafts.map (Draft.frame idOf)) = s.moduleScope.map (Draft.frame idOf) :=
    s.moduleScope_frames reaches
  have atScope : framesOf .opEntryPoint (s.moduleScope.map (Draft.frame idOf)) =
      s.entryPoints.map (Draft.frame idOf) := s.framesOf_moduleScope reaches (by decide)
  refine ⟨_, _, points, words ▸ s.readStream?_emitWords reaches _, entered _ ?_, ?_, fun plain => entered _ ?_⟩
  · rw [scope]
    exact atScope
  · rw [scope, atScope]
    exact s.enters_entryPoints reaches legible.functions (reflect_eq_ok reflected).2.2.2.2.1
  · have unlisted := s.filter_functions (s.not_mem_functions reaches (by decide) plain) rfl
    rw [framesOf_map_frame, Sections.drafts, List.filter_append, unlisted, List.append_nil, ← framesOf_map_frame]
    exact atScope

/-- A stage with two entry points that reads an input and writes an output. Between these it declares a variable
of its own. -/
def filterStage : Library where
  types := #[
    { name := "Stage", shape := { kind := .struct }, functions := [⟨0⟩, ⟨1⟩] },
    { name := "void", shape := { kind := .void } },
    { name := "fn() -> void", shape := { kind := .function, component := some ⟨1⟩ } },
    { name := "f32", shape := { kind := .float 32 } },
    { name := "ptr<Input, f32>", shape := { kind := .pointer .input, dereference := some ⟨3⟩ } },
    { name := "ptr<Private, f32>", shape := { kind := .pointer .priv, dereference := some ⟨3⟩ } },
    { name := "ptr<Output, f32>", shape := { kind := .pointer .output, dereference := some ⟨3⟩ } }]
  functions := #[
    { name := "shade", functionType := ⟨2⟩, parameterBlock := ⟨0⟩, blocks := [⟨1⟩], executionModel := some .fragment },
    { name := "place", functionType := ⟨2⟩, parameterBlock := ⟨0⟩, blocks := [⟨2⟩], executionModel := some .vertex }]
  blocks := #[⟨[], []⟩, ⟨[⟨3⟩, ⟨4⟩, ⟨5⟩, ⟨6⟩], []⟩, ⟨[⟨6⟩], []⟩]
  ops := #[
    { opcode := .opVariable, resultType := some ⟨4⟩, args := [.literal ⟨0⟩] },
    { opcode := .opVariable, resultType := some ⟨5⟩, args := [.literal ⟨1⟩] },
    { opcode := .opVariable, resultType := some ⟨6⟩, args := [.literal ⟨2⟩] },
    { opcode := .opLoad, resultType := some ⟨3⟩, args := [.op ⟨0⟩] },
    { opcode := .opStore, resultType := none, args := [.op ⟨1⟩, .op ⟨3⟩] },
    { opcode := .opStore, resultType := none, args := [.op ⟨2⟩, .op ⟨3⟩] },
    { opcode := .opReturn, resultType := none, args := [] }]
  literals := #[.int 1, .int 6, .int 3]

theorem filterStage_opAt {id : OpId} {op : Op} (atId : filterStage.opAt id = .ok op) :
    op.opcode ≠ .opEntryPoint ∧ (op.opcode = .opVariable → op.resultType.isSome = true) := by
  obtain ⟨index⟩ := id
  match index, atId with
  | 0, atId | 1, atId | 2, atId | 3, atId | 4, atId | 5, atId | 6, atId => cases atId; decide
  | _ + 7, atId => cases atId

theorem filterStage_legibleEntries : filterStage.LegibleEntries (.type ⟨0⟩) where
  functions id function _ atId := by
    obtain ⟨index⟩ := id
    match index, atId with
    | 0, atId | 1, atId => cases atId; decide
    | _ + 2, atId => cases atId
  globals id op _ atId declares := (filterStage_opAt atId).2 declares.1

theorem filterStage_entered : filterStage.LegibleEntries (.type ⟨0⟩) ∧
    filterStage.NoneInFunctions (.type ⟨0⟩) (· = .opEntryPoint) ∧
    ∃ binary header frames, filterStage.emitType ⟨0⟩ = .ok binary ∧
      readStream? binary.words = some (header, frames) ∧ interfaceIds frames = [1, 2] ∧
      EnteredBy frames frames [⟨4, 3, "shade", [1, 2]⟩, ⟨0, 4, "place", [1, 2]⟩] := by
  have plain : filterStage.NoneInFunctions (.type ⟨0⟩) (· = .opEntryPoint) :=
    fun _ _ _ _ _ atId => (filterStage_opAt atId).1
  have run : (fun binary => (readStream? binary.words).map fun read =>
      (interfaceIds read.2, (framesOf .opEntryPoint read.2).map Frame.entryPoint?)) <$> filterStage.emitType ⟨0⟩ =
      .ok (some ([1, 2], [some ⟨4, 3, "shade", [1, 2]⟩, some ⟨0, 4, "place", [1, 2]⟩])) := by decide +kernel
  obtain ⟨binary, emitted, shown⟩ := Outcome.map_eq_ok_iff.mp run
  obtain ⟨⟨header, frames⟩, read, shown⟩ := Option.map_eq_some_iff.mp shown
  obtain ⟨ids, decoded⟩ := Prod.mk.inj shown
  obtain ⟨_, _, points, read', _, _, entered⟩ := emitType_entered emitted filterStage_legibleEntries
  cases read.symm.trans read'
  have entered := entered plain
  have same : points = [⟨4, 3, "shade", [1, 2]⟩, ⟨0, 4, "place", [1, 2]⟩] :=
    List.map_injective_iff.mpr (Option.some_injective _) (entered.read.symm.trans decoded)
  exact ⟨filterStage_legibleEntries, plain, binary, header, frames, emitted, read, ids, same ▸ entered⟩

/-- A function lists an instruction that makes it an entry point, with the type that owns it for an interface. -/
def misplacedEntry : Library where
  types := #[
    { name := "S", shape := { kind := .struct }, functions := [⟨0⟩] },
    { name := "void", shape := { kind := .void } },
    { name := "fn() -> void", shape := { kind := .function, component := some ⟨1⟩ } }]
  functions := #[
    { name := "main", functionType := ⟨2⟩, parameterBlock := ⟨0⟩, blocks := [⟨1⟩], executionModel := none }]
  blocks := #[⟨[], []⟩, ⟨[⟨0⟩], []⟩]
  ops := #[{
    opcode := .opEntryPoint, resultType := none,
    args := [.literal ⟨0⟩, .function ⟨0⟩, .literal ⟨1⟩, .type ⟨0⟩] }]
  literals := #[.int 0, .text "main"]

theorem misplacedEntry_legibleEntries : misplacedEntry.LegibleEntries (.type ⟨0⟩) where
  functions id function _ atId := by
    obtain ⟨index⟩ := id
    match index, atId with
    | 0, atId => cases atId; decide
    | _ + 1, atId => cases atId
  globals id op _ atId declares := by
    obtain ⟨index⟩ := id
    match index, atId with
    | 0, atId => cases atId; cases declares.1
    | _ + 1, atId => cases atId

/-- The entry point that the function lists has an interface, though the module has no inputs and outputs. -/
theorem misplacedEntry_not_entered : misplacedEntry.LegibleEntries (.type ⟨0⟩) ∧
    ∃ binary header frames, misplacedEntry.emitType ⟨0⟩ = .ok binary ∧
      readStream? binary.words = some (header, frames) ∧ interfaceIds frames = [] ∧
      (framesOf .opEntryPoint frames).map Frame.entryPoint? = [some ⟨0, 2, "main", [1]⟩] ∧
      ¬∃ points, EnteredBy frames frames points := by
  have run : (fun binary => (readStream? binary.words).map fun read =>
      (interfaceIds read.2, (framesOf .opEntryPoint read.2).map Frame.entryPoint?)) <$> misplacedEntry.emitType ⟨0⟩ =
      .ok (some ([], [some ⟨0, 2, "main", [1]⟩])) := by decide +kernel
  obtain ⟨binary, emitted, shown⟩ := Outcome.map_eq_ok_iff.mp run
  obtain ⟨⟨header, frames⟩, read, shown⟩ := Option.map_eq_some_iff.mp shown
  obtain ⟨ids, decoded⟩ := Prod.mk.inj shown
  refine ⟨misplacedEntry_legibleEntries, binary, header, frames, emitted, read, ids, decoded, ?_⟩
  rintro ⟨points, entered⟩
  have same : points = [⟨0, 2, "main", [1]⟩] :=
    List.map_injective_iff.mpr (Option.some_injective _) (entered.read.symm.trans decoded)
  have interface := entered.interface ⟨0, 2, "main", [1]⟩ (by simp [same])
  rw [ids] at interface
  cases interface

end Library

end ShaderGraph
