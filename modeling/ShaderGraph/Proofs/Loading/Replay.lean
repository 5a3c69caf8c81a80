import Mathlib.Data.List.TakeWhile
import ShaderGraph.Proofs.Decoding.Stream
import ShaderGraph.Spirv.Reader

namespace ShaderGraph.Spirv

/-! What unpacking does to words that are followed by others. -/

/-- A text ends in the word that holds its zero. -/
theorem unpackBytes_take {words rest : List UInt32} {bytes : List UInt8}
    (found : unpackBytes words = some (bytes, rest)) :
    packedLength bytes.length ≤ words.length ∧
      unpackBytes (words.take (packedLength bytes.length)) = some (bytes, []) := by
  obtain ⟨taken, room, _⟩ := unpackBytes_eq_some_iff.mp found
  have inside : packedLength bytes.length ≤ words.length := by
    simp only [packedLength]
    omega
  have length : (words.take (packedLength bytes.length)).length = packedLength bytes.length := by
    rw [List.length_take, Nat.min_eq_left inside]
  have fits : bytes.length < 4 * packedLength bytes.length := by
    simp only [packedLength]
    omega
  have nothing : [] = (words.take (packedLength bytes.length)).drop (packedLength bytes.length) := by
    rw [List.drop_of_length_le (Nat.le_of_eq length)]
  refine ⟨inside, unpackBytes_eq_some_iff.mpr ⟨?_, by rwa [length], nothing⟩⟩
  rw [← List.take_append_drop (packedLength bytes.length) words, List.flatMap_append, List.takeWhile_append] at taken
  split at taken
  · next whole =>
    rw [length_flatMap_bytesOfWord, length] at whole
    have longer := congrArg List.length taken
    rw [List.length_append, length_flatMap_bytesOfWord, length] at longer
    omega
  · exact taken

theorem unpackBytes_append {words rest : List UInt32} {bytes : List UInt8}
    (found : unpackBytes words = some (bytes, rest)) (more : List UInt32) :
    unpackBytes (words ++ more) = some (bytes, rest ++ more) := by
  obtain ⟨taken, room, rfl⟩ := unpackBytes_eq_some_iff.mp found
  have inside : packedLength bytes.length ≤ words.length := by
    simp only [packedLength]
    omega
  refine unpackBytes_eq_some_iff.mpr ⟨?_, ?_, (List.drop_append_of_le_length inside).symm⟩
  · rw [List.flatMap_append, List.takeWhile_append, if_neg ?_, taken]
    rw [taken, length_flatMap_bytesOfWord]
    omega
  · rw [List.length_append]
    omega

/-- What is decoded from bytes has them. -/
theorem textBytes_of_decodeUtf8 {bytes : List UInt8} {s : String}
    (decoded : Text.decodeUtf8 ⟨bytes.toArray⟩ = .ok s) : textBytes s = bytes := by
  unfold Text.decodeUtf8 at decoded
  split at decoded
  · next value found =>
    cases decoded
    unfold String.fromUTF8? at found
    split at found
    · cases found
      rfl
    · cases found
  · cases decoded

theorem zero_notMem_of_unpackBytes {words rest : List UInt32} {bytes : List UInt8}
    (found : unpackBytes words = some (bytes, rest)) : 0 ∉ bytes := by
  obtain ⟨rfl, _, _⟩ := unpackBytes_eq_some_iff.mp found
  intro member
  have other := List.mem_takeWhile_imp member
  simp at other

/-- Whether the texts among words of these kinds are written the usual way, with zeros after their ends. -/
def paddedTexts : List OperandKind → List UInt32 → Bool
  | [], _ => true
  | .text :: kinds, words =>
    match readText? words with
    | some (s, rest) => words = packText s ++ rest && paddedTexts kinds rest
    | none => true
  | kind :: kinds, words => paddedTexts kinds (words.drop (if kind = .idPair then 2 else 1))

theorem paddedTexts_of_notMem {kinds : List OperandKind} (none : .text ∉ kinds) (words : List UInt32) :
    paddedTexts kinds words = true := by
  induction kinds generalizing words with
  | nil => rfl
  | cons kind kinds ih =>
    rw [List.mem_cons, not_or] at none
    rw [paddedTexts.eq_3 _ _ _ fun isText => none.1 isText.symm]
    exact ih none.2 _

/-- Whether what is read under a kind can have no text in it. -/
def OperandKind.isTextFree : OperandKind → Bool
  | .text | .constantOperation | .enumerant .decoration => false
  | _ => true

namespace Reader

theorem bind_eq_ok_iff {α β : Type} {r : Reader α} {f : α → Reader β} {c c' : Cursor} {value : β} :
    (r >>= f) c = .ok (value, c') ↔
      ∃ inner between, r c = .ok (inner, between) ∧ f inner between = .ok (value, c') := by
  cases first : r c with
  | error stop => simp [bind, StateT.bind, Except.bind, first]
  | ok step => simp [bind, StateT.bind, Except.bind, first, Prod.ext_iff, and_assoc]

/-- A reader went from one place to another, past the words `old`. It does so again, and gives the same
value, where `new` stands in their place. -/
structure Goes {α : Type} (again : Reader α) (c : Cursor) (value : α) (c' : Cursor) (old new : List UInt32) :
    Prop where
  rest : c.rest = old ++ c'.rest
  limit : c.limit = old.length + c'.limit
  length : new.length = old.length
  again : ∀ more position, c'.limit ≤ more.length →
    again ⟨new ++ more, position, c.limit⟩ = .ok (value, ⟨more, position + new.length, c'.limit⟩)

/-- Whatever a reader reads, another one reads again from words that may be spelled differently. -/
def Replays {α : Type} (r again : Reader α) (post : α → List UInt32 → List UInt32 → Prop) : Prop :=
  ∀ c value c', r c = .ok (value, c') → ∃ old new, post value old new ∧ Goes again c value c' old new

variable {α β : Type}

theorem Goes.bind {again : Reader α} {f : α → Reader β} {c between c' : Cursor} {inner : α} {value : β}
    {old new old' new' : List UInt32} (first : Goes again c inner between old new)
    (second : Goes (f inner) between value c' old' new') :
    Goes (again >>= f) c value c' (old ++ old') (new ++ new') where
  rest := by rw [first.rest, second.rest, List.append_assoc]
  limit := by rw [first.limit, second.limit, List.length_append, Nat.add_assoc]
  length := by rw [List.length_append, List.length_append, first.length, second.length]
  again more position room := by
    have fits : between.limit ≤ (new' ++ more).length := by
      rw [second.limit, List.length_append, second.length]
      omega
    refine bind_eq_ok_iff.mpr ⟨inner, ⟨new' ++ more, position + new.length, between.limit⟩, ?_, ?_⟩
    · rw [List.append_assoc, first.again (new' ++ more) position fits]
    · rw [second.again more (position + new.length) room, List.length_append, Nat.add_assoc]

theorem Replays.bind {r again : Reader α} {f g : α → Reader β} {first : α → List UInt32 → List UInt32 → Prop}
    {post : β → List UInt32 → List UInt32 → Prop} (replays : Replays r again first)
    (next : ∀ inner old new, first inner old new →
      Replays (f inner) (g inner) fun value old' new' => post value (old ++ old') (new ++ new')) :
    Replays (r >>= f) (again >>= g) post := by
  intro c value c' run
  obtain ⟨inner, between, ran, run⟩ := bind_eq_ok_iff.mp run
  obtain ⟨old, new, known, goes⟩ := replays c inner between ran
  obtain ⟨old', new', done, goes'⟩ := next inner old new known between value c' run
  exact ⟨old ++ old', new ++ new', done, goes.bind goes'⟩

theorem Replays.mono {r again : Reader α} {first post : α → List UInt32 → List UInt32 → Prop}
    (replays : Replays r again first) (weaker : ∀ value old new, first value old new → post value old new) :
    Replays r again post := by
  intro c value c' run
  obtain ⟨old, new, known, goes⟩ := replays c value c' run
  exact ⟨old, new, weaker value old new known, goes⟩

theorem Replays.pure {value : α} {post : α → List UInt32 → List UInt32 → Prop} (holds : post value [] []) :
    Replays (pure value) (pure value) post := by
  intro c _ c' run
  cases run
  exact ⟨[], [], holds, rfl, by simp, rfl, fun more position _ => rfl⟩

theorem Replays.of_never {r again : Reader α} {post : α → List UInt32 → List UInt32 → Prop}
    (never : ∀ c value c', r c ≠ .ok (value, c')) : Replays r again post :=
  fun c value c' run => absurd run (never c value c')

theorem fail_ne_ok {fault : ReadFault} {c c' : Cursor} {value : α} :
    (fail fault : Reader α) c ≠ .ok (value, c') := by
  intro run
  cases run

theorem atLimit_eq (c : Cursor) : atLimit c = .ok (decide (c.limit = 0), c) := rfl

theorem replays_atLimit : Replays atLimit atLimit fun _ old new => old = [] ∧ new = [] := by
  intro c value c' run
  cases run
  exact ⟨[], [], ⟨rfl, rfl⟩, rfl, by simp, rfl, fun more position _ => rfl⟩

/-- A reader may ask how many words its instruction still has. -/
theorem Replays.of_limit {f g : Nat → Reader α} {post : α → List UInt32 → List UInt32 → Prop}
    (replays : ∀ limit, Replays (f limit) (g limit) post) :
    Replays (do f (← get).limit) (do g (← get).limit) post := by
  intro c value c' run
  obtain ⟨old, new, known, goes⟩ := replays c.limit c value c' run
  exact ⟨old, new, known, goes.rest, goes.limit, goes.length, goes.again⟩

/-- One result for each of a list. -/
theorem Replays.mapM {γ : Type} {f g : γ → Reader α} {each : γ → α → List UInt32 → List UInt32 → Prop}
    (post : List γ → List α → List UInt32 → List UInt32 → Prop) (replays : ∀ x, Replays (f x) (g x) (each x))
    (nil : post [] [] [] []) (cons : ∀ x y xs ys old new old' new', each x y old new → post xs ys old' new' →
      post (x :: xs) (y :: ys) (old ++ old') (new ++ new')) (xs : List γ) :
    Replays (xs.mapM f) (xs.mapM g) (post xs) := by
  induction xs with
  | nil =>
    rw [List.mapM_nil, List.mapM_nil]
    exact .pure nil
  | cons x rest ih =>
    rw [List.mapM_cons, List.mapM_cons]
    refine (replays x).bind fun y old new first => ih.bind fun ys old' new' later => .pure ?_
    simpa only [List.append_nil] using cons x y rest ys old new old' new' first later

/-! Words, names and texts. -/

/-- A value is written in one way only. -/
def Exactly (words : α → List UInt32) (value : α) (old new : List UInt32) : Prop :=
  old = words value ∧ new = words value

theorem goes_one {again : Reader α} {c : Cursor} {value : α} {word : UInt32} {rest : List UInt32} {limit : Nat}
    (here : c.rest = word :: rest) (room : c.limit = limit + 1)
    (reads : ∀ more position, again ⟨word :: more, position, limit + 1⟩ = .ok (value, ⟨more, position + 1, limit⟩)) :
    Goes again c value ⟨rest, c.position + 1, limit⟩ [word] [word] where
  rest := here
  limit := by rw [room, List.length_singleton, Nat.add_comm]
  length := rfl
  again more position _ := by
    rw [room]
    exact reads more position

theorem word_eq_ok {c c' : Cursor} {value : UInt32} (run : word c = .ok (value, c')) :
    ∃ rest limit, c.rest = value :: rest ∧ c.limit = limit + 1 ∧ c' = ⟨rest, c.position + 1, limit⟩ := by
  obtain ⟨rest, position, limit⟩ := c
  cases limit with
  | zero => cases run
  | succ limit =>
    cases rest with
    | nil => cases run
    | cons first rest =>
      cases run
      exact ⟨rest, limit, rfl, rfl, rfl⟩

/-- A word for a name differs from others only in what is blamed where there is none. -/
theorem word_of_code {c c' : Cursor} {value : UInt32} (run : code c = .ok (value, c')) : word c = .ok (value, c') := by
  obtain ⟨rest, position, limit⟩ := c
  match limit, rest, run with
  | 0, _, run | _ + 1, [], run => cases run
  | _ + 1, _ :: _, run => exact run

theorem replays_word : Replays word word (Exactly fun value => [value]) := by
  intro c value c' run
  obtain ⟨rest, limit, here, room, rfl⟩ := word_eq_ok run
  exact ⟨[value], [value], ⟨rfl, rfl⟩, goes_one here room fun more position => rfl⟩

theorem enumerant_eq_ok {kind : EnumKind} {c c' : Cursor} {e : Enumerant kind}
    (run : enumerant kind c = .ok (e, c')) : code c = .ok (e.code, c') := by
  obtain ⟨start, _, asked, run⟩ := bind_eq_ok_iff.mp run
  cases asked
  obtain ⟨value, between, read, run⟩ := bind_eq_ok_iff.mp run
  cases known : Enumerant.ofCode? kind value with
  | none =>
    simp only [known] at run
    cases run
  | some found =>
    simp only [known] at run
    cases run
    rwa [Enumerant.code_of_ofCode? known]

theorem replays_enumerant (kind : EnumKind) :
    Replays (enumerant kind) (enumerant kind) (Exactly fun e => [e.code]) := by
  intro c e c' run
  obtain ⟨rest, limit, here, room, rfl⟩ := word_eq_ok (word_of_code (enumerant_eq_ok run))
  refine ⟨[e.code], [e.code], ⟨rfl, rfl⟩, goes_one here room fun more position => ?_⟩
  refine bind_eq_ok_iff.mpr ⟨_, _, rfl, bind_eq_ok_iff.mpr ⟨e.code, _, rfl, ?_⟩⟩
  rw [e.ofCode?_code]
  rfl

theorem replays_mask (kind : MaskKind) : Replays (mask kind) (mask kind) (Exactly fun bits => [bits]) := by
  intro c bits c' run
  obtain ⟨start, _, asked, run⟩ := bind_eq_ok_iff.mp run
  cases asked
  obtain ⟨value, between, read, run⟩ := bind_eq_ok_iff.mp run
  obtain ⟨rest, limit, here, room, rfl⟩ := word_eq_ok (word_of_code read)
  split at run
  · next covered =>
    cases run
    refine ⟨[bits], [bits], ⟨rfl, rfl⟩, goes_one here room fun more position => ?_⟩
    refine bind_eq_ok_iff.mpr ⟨_, _, rfl, bind_eq_ok_iff.mpr ⟨bits, _, rfl, ?_⟩⟩
    rw [if_pos covered]
    rfl
  · cases run

/-- A text that is written the usual way is read, whatever follows it. -/
theorem text_packText {s : String} (free : 0 ∉ textBytes s) (more : List UInt32) (position : Nat) {limit : Nat}
    (room : limit ≤ more.length) : text ⟨packText s ++ more, position, (packText s).length + limit⟩ =
      .ok (s, ⟨more, position + (packText s).length, limit⟩) := by
  have fits : ¬(packText s ++ more).length < (packText s).length + limit := by
    rw [List.length_append]
    omega
  have taken : (packText s ++ more).take ((packText s).length + limit) = packText s ++ more.take limit := by
    rw [List.take_append, List.take_of_length_le (by omega), Nat.add_sub_cancel_left]
  have size : packedLength (textBytes s).length = (packText s).length := by
    rw [length_packText, length_textBytes]
  unfold text
  refine bind_eq_ok_iff.mpr ⟨_, _, rfl, ?_⟩
  simp only [if_neg fits, taken, unpackBytes_packText_of_notMem free, decodeUtf8_textBytes, size]
  refine bind_eq_ok_iff.mpr ⟨_, _, rfl, ?_⟩
  simp only [Cursor.skip, List.drop_left, Nat.add_sub_cancel_left]
  rfl

theorem replays_text : Replays text text fun s old new =>
    new = packText s ∧ unpackBytes old = some (textBytes s, []) := by
  intro c s c' run
  obtain ⟨_, _, got, run⟩ := bind_eq_ok_iff.mp run
  cases got
  split at run
  · cases run
  next fits =>
  cases found : unpackBytes (c.rest.take c.limit) with
  | none =>
    simp only [found] at run
    cases run
  | some unpacked =>
    obtain ⟨bytes, rest⟩ := unpacked
    simp only [found] at run
    cases decoded : Text.decodeUtf8 ⟨bytes.toArray⟩ with
    | error fault =>
      simp only [decoded] at run
      cases run
    | ok value =>
      simp only [decoded] at run
      cases run
      have own := textBytes_of_decodeUtf8 decoded
      obtain ⟨inside, ends⟩ := unpackBytes_take found
      rw [List.length_take] at inside
      have short : packedLength bytes.length ≤ c.limit := by omega
      have present : packedLength bytes.length ≤ c.rest.length := by omega
      rw [List.take_take, Nat.min_eq_left short] at ends
      refine ⟨c.rest.take (packedLength bytes.length), packText s, ⟨rfl, by rw [own, ends]⟩, ?_, ?_, ?_, ?_⟩
      · exact (List.take_append_drop _ _).symm
      · rw [List.length_take, Nat.min_eq_left present]
        exact (Nat.add_sub_of_le short).symm
      · rw [List.length_take, Nat.min_eq_left present, length_packText, ← length_textBytes, own]
      · intro more position room
        have size : c.limit = (packText s).length + (c.limit - packedLength bytes.length) := by
          rw [length_packText, ← length_textBytes, own]
          exact (Nat.add_sub_of_le short).symm
        have free : 0 ∉ textBytes s := by
          rw [own]
          exact zero_notMem_of_unpackBytes found
        have again := text_packText free more position room
        exact size ▸ again

/-! Operands. -/

theorem toUInt32_low (low high : UInt32) : (low.toUInt64 ||| high.toUInt64 <<< 32).toUInt32 = low := by
  apply UInt32.eq_of_toBitVec_eq
  apply BitVec.eq_of_getLsbD_eq
  intro i inside
  simp [inside]

theorem toUInt32_high (low high : UInt32) : ((low.toUInt64 ||| high.toUInt64 <<< 32) >>> 32).toUInt32 = high := by
  apply UInt32.eq_of_toBitVec_eq
  apply BitVec.eq_of_getLsbD_eq
  intro i inside
  simp (disch := omega) [BitVec.getLsbD_of_ge]

theorem replays_wide : Replays wide wide (Exactly fun value => (Operand.wide value).words) := by
  refine replays_word.bind fun low old new first => replays_word.bind fun high old' new' second => .pure ?_
  obtain ⟨rfl, rfl⟩ := first
  obtain ⟨rfl, rfl⟩ := second
  have words : (Operand.wide (low.toUInt64 ||| high.toUInt64 <<< 32)).words = [low, high] := by
    rw [Operand.words, toUInt32_low, toUInt32_high]
  exact ⟨words.symm, words.symm⟩

theorem replays_number (count count' : Nat) (type : Option NumberType) :
    Replays (number count type) (number count' type) (Exactly Operand.words) := by
  have short : Replays (do return .literal (← word)) (do return .literal (← word)) (Exactly Operand.words) := by
    refine replays_word.bind fun value old new first => .pure ?_
    obtain ⟨rfl, rfl⟩ := first
    exact ⟨rfl, rfl⟩
  cases type with
  | none => exact short
  | some type =>
    simp only [number]
    split
    · exact short
    · refine replays_wide.bind fun value old new first => .pure ?_
      obtain ⟨rfl, rfl⟩ := first
      exact ⟨List.append_nil _, List.append_nil _⟩
    · refine .of_never fun c value c' run => ?_
      obtain ⟨_, _, _, run⟩ := bind_eq_ok_iff.mp run
      exact fail_ne_ok run

/-- How operands are spelled that a kind alone says how to read: a text in many ways, all else in one. Only
named values and masks have parameters. -/
structure PlainSpelling (kind : OperandKind) (os : List Operand) (old new : List UInt32) : Prop where
  written : new = os.flatMap Operand.words
  single : kind ≠ .text → old = new ∧ old.length = if kind = .idPair then 2 else 1
  text : kind = .text → ∃ s, os = [.text s] ∧ unpackBytes old = some (textBytes s, [])
  enumerant : ∀ e, kind = .enumerant e → ∃ value, os = [.enumerant e value]
  parameters : (∀ e, kind ≠ .enumerant e) → os.flatMap parametersOf = [] ∨ ∃ m bits, os = [.mask m bits]

theorem replays_plain (kind : OperandKind) : Replays (plain kind) (plain kind) (PlainSpelling kind) := by
  cases kind with
  | id | literal | extInst =>
    refine replays_word.bind fun value old new first => .pure ?_
    obtain ⟨rfl, rfl⟩ := first
    exact ⟨rfl, fun _ => ⟨rfl, rfl⟩, nofun, nofun, fun _ => .inl rfl⟩
  | text =>
    refine replays_text.bind fun s old new first => .pure ⟨?_, nofun, fun _ => ?_, nofun, fun _ => .inl rfl⟩
    · rw [first.1]
      simp [Operand.words]
    · exact ⟨s, rfl, by rw [List.append_nil, first.2]⟩
  | idPair =>
    refine replays_word.bind fun value old new first => replays_word.bind fun other old' new' second => .pure ?_
    obtain ⟨rfl, rfl⟩ := first
    obtain ⟨rfl, rfl⟩ := second
    exact ⟨rfl, fun _ => ⟨rfl, rfl⟩, nofun, nofun, fun _ => .inl rfl⟩
  | enumerant kind =>
    refine (replays_enumerant kind).bind fun e old new first => .pure ?_
    obtain ⟨rfl, rfl⟩ := first
    refine ⟨rfl, fun _ => ⟨rfl, rfl⟩, nofun, ?_, fun other => absurd rfl (other kind)⟩
    rintro _ ⟨⟩
    exact ⟨e, rfl⟩
  | mask kind =>
    refine (replays_mask kind).bind fun bits old new first => .pure ?_
    obtain ⟨rfl, rfl⟩ := first
    exact ⟨rfl, fun _ => ⟨rfl, rfl⟩, nofun, nofun, fun _ => .inr ⟨kind, bits, rfl⟩⟩
  | contextNumber | switchCase | constantOperation =>
    refine .of_never fun c value c' run => ?_
    obtain ⟨_, _, _, run⟩ := bind_eq_ok_iff.mp run
    cases run

/-- How parameters of an operand are spelled. -/
def PartsSpelling (kinds : List OperandKind) (parts : List (List Operand)) (old new : List UInt32) : Prop :=
  new = parts.flatten.flatMap Operand.words ∧ (paddedTexts kinds old = true → old = new)

theorem replays_mapM_plain (kinds : List OperandKind) :
    Replays (kinds.mapM plain) (kinds.mapM plain) (PartsSpelling kinds) := by
  refine Replays.mapM PartsSpelling replays_plain ⟨rfl, fun _ => rfl⟩ ?_ kinds
  intro kind os kinds parts old new old' new' spelled ⟨written, padded⟩
  refine ⟨by rw [spelled.written, written, List.flatten_cons, List.flatMap_append], fun tidy => ?_⟩
  by_cases same : kind = .text
  · subst same
    obtain ⟨s, rfl, unpacked⟩ := spelled.text rfl
    have read : readText? (old ++ old') = some (s, old') := by
      simp [readText?, unpackBytes_append unpacked, decodeUtf8_textBytes, Except.toOption]
    rw [paddedTexts, read] at tidy
    simp only [Bool.and_eq_true, decide_eq_true_eq, List.append_cancel_right_eq] at tidy
    rw [spelled.written, tidy.1, padded tidy.2]
    simp [Operand.words]
  · obtain ⟨rfl, length⟩ := spelled.single same
    rw [paddedTexts.eq_3 _ _ _ same, ← length, List.drop_left] at tidy
    rw [padded tidy]

theorem text_notMem_parameters {kind : EnumKind} (other : kind ≠ .decoration) (code : UInt32) :
    .text ∉ kind.parameters code := by
  cases kind with
  | executionMode =>
    intro member
    cases found : executionModeParameters.lookup code with
    | none => simp [EnumKind.parameters, found] at member
    | some kinds =>
      simp only [EnumKind.parameters, found, Option.getD_some] at member
      have free : ∀ row ∈ executionModeParameters, .text ∉ row.2 := by decide
      obtain ⟨before, after, split, _⟩ := List.lookup_eq_some_iff.mp found
      exact free _ (split ▸ List.mem_append_right _ (List.mem_cons_self ..)) member
  | decoration => exact absurd rfl other
  | _ => exact List.not_mem_nil

theorem text_notMem_flags (kind : MaskKind) (bits : UInt32) : .text ∉ kind.parameters bits := by
  intro member
  obtain ⟨flag, set, inside⟩ := List.mem_flatMap.mp member
  have free : ∀ flag ∈ kind.flags, .text ∉ flag.parameters := by cases kind <;> decide
  exact free flag (List.mem_of_mem_filter set) inside

/-- How an operand and its parameters are spelled: in one way if there is no text among them. -/
structure WholeSpelling (kind : OperandKind) (os : List Operand) (old new : List UInt32) : Prop where
  written : new = os.flatMap Operand.words
  single : kind.isTextFree = true → old = new
  decoration : kind = .enumerant .decoration → ∃ code rest, old = code :: rest ∧
    (paddedTexts (EnumKind.decoration.parameters code) rest = true → old = new)

theorem replays_whole (kind : OperandKind) : Replays (whole kind) (whole kind) (WholeSpelling kind) := by
  refine (replays_plain kind).bind fun head old new first => ?_
  refine (replays_mapM_plain (head.flatMap parametersOf)).bind fun parts old' new' second => .pure ?_
  rw [List.append_nil, List.append_nil]
  refine ⟨by rw [first.written, second.1, List.flatMap_append], fun free => ?_, ?_⟩
  · have noText : kind ≠ .text := by
      rintro rfl
      cases free
    have none : .text ∉ head.flatMap parametersOf := by
      by_cases named : ∃ e, kind = .enumerant e
      · obtain ⟨e, rfl⟩ := named
        obtain ⟨value, rfl⟩ := first.enumerant e rfl
        rw [List.flatMap_singleton]
        refine text_notMem_parameters ?_ value.code
        rintro rfl
        cases free
      · rcases first.parameters (not_exists.mp named) with empty | ⟨m, bits, rfl⟩
        · rw [empty]
          exact List.not_mem_nil
        · rw [List.flatMap_singleton]
          exact text_notMem_flags m bits
    rw [(first.single noText).1, second.2 (paddedTexts_of_notMem none old')]
  · rintro rfl
    obtain ⟨value, rfl⟩ := first.enumerant _ rfl
    rw [List.flatMap_singleton] at second
    obtain ⟨rfl, _⟩ := first.single (by simp)
    rw [first.written]
    exact ⟨value.code, old', rfl, fun padded => congrArg (value.code :: ·) (second.2 padded)⟩

/-- The opcode of an operation on constants. -/
def constantOpcode (count : Nat) : Reader Opcode := do
  let value ← word
  match Opcode.ofCode? (value.toNat % 0x10000) with
  | none => fail (.constantOperationUnknown (← offset) count)
  | some opcode => return opcode

theorem constantOperation_eq (count : Nat) : constantOperation count = (do
    let opcode ← constantOpcode count
    let operands ← opcode.grammar.operands.mapM fun place => whole place.1
    return .opcode opcode :: operands.flatten) := by
  simp only [constantOperation, constantOpcode, bind_assoc]
  congr 1
  funext value
  cases Opcode.ofCode? (value.toNat % 0x10000) with
  | none => rfl
  | some opcode => rfl

/-- The high half of the word that holds an opcode is not looked at, and is not written. -/
theorem replays_constantOpcode (count count' : Nat) :
    Replays (constantOpcode count) (constantOpcode count') fun opcode _ new => new = [.ofNat opcode.code] := by
  intro c opcode c' run
  obtain ⟨value, between, read, run⟩ := bind_eq_ok_iff.mp run
  obtain ⟨rest, limit, here, room, rfl⟩ := word_eq_ok read
  cases known : Opcode.ofCode? (value.toNat % 0x10000) with
  | none =>
    simp only [known] at run
    obtain ⟨_, _, _, run⟩ := bind_eq_ok_iff.mp run
    exact absurd run fail_ne_ok
  | some found =>
    simp only [known] at run
    cases run
    refine ⟨[value], [.ofNat opcode.code], rfl, here, by rw [room, List.length_singleton, Nat.add_comm], rfl, ?_⟩
    intro more position _
    have code : (UInt32.ofNat opcode.code).toNat % 0x10000 = opcode.code := by
      have small := opcode.code_lt
      rw [UInt32.toNat_ofNat_of_lt' (by rw [UInt32.size]; omega)]
      omega
    rw [room]
    refine bind_eq_ok_iff.mpr ⟨.ofNat opcode.code, _, rfl, ?_⟩
    rw [code, Opcode.ofCode?_code]
    rfl

theorem replays_constantOperation (count count' : Nat) :
    Replays (constantOperation count) (constantOperation count') fun os _ new => new = os.flatMap Operand.words := by
  rw [constantOperation_eq, constantOperation_eq]
  refine (replays_constantOpcode count count').bind fun opcode old new first => ?_
  have parts := Replays.mapM (fun _ parts _ new => new = parts.flatten.flatMap Operand.words)
    (fun place : OperandKind × Quantifier => replays_whole place.1) rfl
    (fun _ _ _ _ _ _ _ _ spelled written => by
      rw [spelled.written, written, List.flatten_cons, List.flatMap_append]) opcode.grammar.operands
  refine parts.bind fun operands old' new' second => .pure ?_
  rw [first, second, List.append_nil, List.flatMap_cons]
  rfl

theorem replays_operand (count count' : Nat) (type : Option NumberType) (kind : OperandKind) :
    Replays (operand count type kind) (operand count' type kind) (WholeSpelling kind) := by
  cases kind with
  | contextNumber =>
    refine (replays_number count count' type).bind fun value old new first => .pure ?_
    obtain ⟨rfl, rfl⟩ := first
    exact ⟨by simp, fun _ => rfl, nofun⟩
  | switchCase =>
    refine (replays_number count count' type).bind fun value old new first => ?_
    refine replays_word.bind fun id old' new' second => .pure ?_
    obtain ⟨rfl, rfl⟩ := first
    obtain ⟨rfl, rfl⟩ := second
    exact ⟨by simp [Operand.words], fun _ => rfl, nofun⟩
  | constantOperation =>
    exact (replays_constantOperation count count').mono fun os old new written => ⟨written, nofun, nofun⟩
  | _ => exact replays_whole _

/-- Operands were added to those read before, in one spelling if all their kinds allow no other. -/
def Adds (before : List Operand) (free : Prop) (os : List Operand) (old new : List UInt32) : Prop :=
  ∃ added, os = before ++ added ∧ new = added.flatMap Operand.words ∧ (free → old = new)

theorem Adds.none (before : List Operand) (free : Prop) : Adds before free before [] [] :=
  ⟨[], (List.append_nil _).symm, rfl, fun _ => rfl⟩

theorem Adds.operand {kind : OperandKind} {before os result : List Operand} {free : Prop}
    {old new old' new' : List UInt32} (first : WholeSpelling kind os old new)
    (later : Adds (before ++ os) free result old' new') :
    Adds before (kind.isTextFree = true ∧ free) result (old ++ old') (new ++ new') := by
  obtain ⟨added, rfl, written, single⟩ := later
  refine ⟨os ++ added, List.append_assoc .., ?_, fun both => ?_⟩
  · rw [first.written, written, List.flatMap_append]
  · rw [first.single both.1, single both.2]

theorem Adds.mono {before os : List Operand} {free stronger : Prop} {old new : List UInt32}
    (adds : Adds before free os old new) (implies : stronger → free) : Adds before stronger os old new := by
  obtain ⟨added, same, written, single⟩ := adds
  exact ⟨added, same, written, fun holds => single (implies holds)⟩

theorem replays_many (count count' : Nat) (type : Option NumberType) (kind : OperandKind) (done : List Operand)
    (fuel : Nat) : Replays (many count type kind done fuel) (many count' type kind done fuel)
      (Adds done.reverse (kind.isTextFree = true)) := by
  induction fuel generalizing done with
  | zero => exact .pure (.none _ _)
  | succ fuel ih =>
    refine replays_atLimit.bind fun ends old new first => ?_
    obtain ⟨rfl, rfl⟩ := first
    cases ends with
    | true => exact .pure (.none _ _)
    | false =>
      refine (replays_operand count count' type kind).bind fun os old new first => ?_
      refine (ih (os.reverse ++ done)).mono fun result old' new' later => ?_
      rw [List.reverse_append, List.reverse_reverse] at later
      exact (Adds.operand first later).mono fun free => ⟨free, free⟩

theorem replays_operands (count count' : Nat) (types : NumberTypes) (resultType : Option UInt32)
    (before : List Operand) (places : List (OperandKind × Quantifier)) :
    Replays (operands count types resultType before places) (operands count' types resultType before places)
      (Adds before (∀ place ∈ places, place.1.isTextFree = true)) := by
  induction places generalizing before with
  | nil => exact .pure (.none _ _)
  | cons place places ih =>
    obtain ⟨kind, quantifier⟩ := place
    refine replays_atLimit.bind fun ends old new first => ?_
    obtain ⟨rfl, rfl⟩ := first
    cases ends with
    | true =>
      cases quantifier with
      | one =>
        refine .of_never fun c value c' run => ?_
        obtain ⟨_, _, _, run⟩ := bind_eq_ok_iff.mp run
        exact fail_ne_ok run
      | zeroOrOne | zeroOrMore => exact .pure (.none _ _)
    | false =>
      cases quantifier with
      | zeroOrMore =>
        refine .of_limit fun limit => ?_
        have rest := replays_many count count' (widthType types resultType before) kind before.reverse limit
        rw [List.reverse_reverse] at rest
        exact rest.mono fun os old new adds => adds.mono fun free => free _ (List.mem_cons_self ..)
      | one | zeroOrOne =>
        refine (replays_operand count count' (widthType types resultType before) kind).bind fun os old new first => ?_
        refine (ih (before ++ os)).mono fun result old' new' later => ?_
        exact (Adds.operand first later).mono fun free => List.forall_mem_cons.mp free

theorem replays_leadingId (count count' : Nat) (present : Bool) :
    Replays (leadingId count present) (leadingId count' present) (Exactly Option.toList) := by
  cases present with
  | false => exact .pure ⟨rfl, rfl⟩
  | true =>
    refine replays_atLimit.bind fun ends old new first => ?_
    obtain ⟨rfl, rfl⟩ := first
    cases ends with
    | true =>
      refine .of_never fun c value c' run => ?_
      obtain ⟨_, _, _, run⟩ := bind_eq_ok_iff.mp run
      cases run
    | false =>
      refine replays_word.bind fun value old new first => .pure ?_
      obtain ⟨rfl, rfl⟩ := first
      exact ⟨rfl, rfl⟩

/-- How the operands of an instruction are spelled, the result and its type among them. -/
structure BodySpelling (opcode : Opcode) (i : Instruction) (old new : List UInt32) : Prop where
  opcode_eq : i.opcode = opcode
  written : new = i.frame.operands
  single : (∀ place ∈ opcode.grammar.operands, place.1.isTextFree = true) → old = new

theorem replays_body (count count' : Nat) (types : NumberTypes) (opcode : Opcode) :
    Replays (body count types opcode) (body count' types opcode) (BodySpelling opcode) := by
  refine (replays_leadingId count count' _).bind fun resultType old new first => ?_
  refine (replays_leadingId count count' _).bind fun result old' new' second => ?_
  refine (replays_operands count count' types resultType [] _).bind fun os old'' new'' third => ?_
  refine replays_atLimit.bind fun ends old₄ new₄ fourth => ?_
  obtain ⟨rfl, rfl⟩ := fourth
  obtain ⟨rfl, rfl⟩ := first
  obtain ⟨rfl, rfl⟩ := second
  obtain ⟨added, rfl, written, single⟩ := third
  cases ends with
  | false =>
    refine .of_never fun c value c' run => ?_
    obtain ⟨_, _, _, run⟩ := bind_eq_ok_iff.mp run
    cases run
  | true =>
    refine .pure ⟨rfl, ?_, fun free => ?_⟩
    · simp [Instruction.frame, written]
    · rw [single free]

/-- An instruction is read to its end. -/
theorem body_eq_ok_iff {count : Nat} {types : NumberTypes} {opcode : Opcode} {c c' : Cursor} {i : Instruction} :
    body count types opcode c = .ok (i, c') ↔ ∃ typed named,
      leadingId count opcode.grammar.hasResultType c = .ok (i.resultType, typed) ∧
      leadingId count opcode.grammar.hasResult typed = .ok (i.result, named) ∧
      operands count types i.resultType [] opcode.grammar.operands named = .ok (i.operands, c') ∧
      c'.limit = 0 ∧ i.opcode = opcode := by
  constructor
  · intro run
    obtain ⟨resultType, typed, first, run⟩ := bind_eq_ok_iff.mp run
    obtain ⟨result, named, second, run⟩ := bind_eq_ok_iff.mp run
    obtain ⟨os, last, third, run⟩ := bind_eq_ok_iff.mp run
    obtain ⟨ends, _, asked, run⟩ := bind_eq_ok_iff.mp run
    cases asked
    by_cases done : last.limit = 0
    · simp only [done, decide_true, Bool.not_true, Bool.false_eq_true, if_false] at run
      cases run
      exact ⟨typed, named, first, second, third, done, rfl⟩
    · simp only [done, decide_false, Bool.not_false, if_true] at run
      obtain ⟨_, _, _, run⟩ := bind_eq_ok_iff.mp run
      cases run
  · rintro ⟨typed, named, first, second, third, done, rfl⟩
    refine bind_eq_ok_iff.mpr ⟨_, typed, first, bind_eq_ok_iff.mpr ⟨_, named, second, ?_⟩⟩
    refine bind_eq_ok_iff.mpr ⟨_, c', third, bind_eq_ok_iff.mpr ⟨true, c', ?_, rfl⟩⟩
    rw [atLimit_eq, done]
    rfl

theorem limit_of_body {count : Nat} {types : NumberTypes} {opcode : Opcode} {c c' : Cursor} {i : Instruction}
    (run : body count types opcode c = .ok (i, c')) : c'.limit = 0 := by
  obtain ⟨_, _, _, _, _, done, _⟩ := body_eq_ok_iff.mp run
  exact done

end Reader

end ShaderGraph.Spirv
