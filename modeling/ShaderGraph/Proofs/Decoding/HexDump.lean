import ShaderGraph.Artifact
import ShaderGraph.Toml.Scan

namespace ShaderGraph

/-! Reading a dump. -/

/-- The word that hexadecimal digits stand for. None without digits, or if the number is too large. -/
def readHexWord? (digits : List Char) : Option UInt32 := do
  let values ← digits.mapM Toml.hexDigit?
  let value := Toml.valueOfDigits 16 values
  if digits.isEmpty || UInt32.size ≤ value then none else some (.ofNat value)

/-- The lines of a text. An empty text has none. -/
def linesOf (text : String) : List (List Char) := if text.isEmpty then [] else text.toList.splitOn '\n'

/-- What stands between blanks, line by line. -/
def piecesOf (text : String) : List (List (List Char)) := (linesOf text).map (List.splitOn ' ')

def readHexDump? (text : String) : Option (List UInt32) := (piecesOf text).flatten.mapM readHexWord?

/-! A word in digits. -/

def hexDigits : List Char := "0123456789abcdef".toList

theorem hexDigit?_digitChar {value : Nat} (small : value < 16) : Toml.hexDigit? (Nat.digitChar value) = some value := by
  revert value
  decide

theorem digitChar_mem_hexDigits {value : Nat} (small : value < 16) : Nat.digitChar value ∈ hexDigits := by
  revert value
  decide

theorem toList_hexWord (w : UInt32) : (hexWord w).toList = (List.range 8).reverse.map fun place =>
    Nat.digitChar (w.toNat / Nat.pow 16 place % 16) :=
  String.toList_ofList

theorem length_hexWord (w : UInt32) : (hexWord w).toList.length = 8 := by
  rw [toList_hexWord, List.length_map]
  rfl

theorem mem_hexDigits_of_mem_hexWord {w : UInt32} {c : Char} (member : c ∈ (hexWord w).toList) : c ∈ hexDigits := by
  rw [toList_hexWord] at member
  obtain ⟨place, _, rfl⟩ := List.mem_map.mp member
  exact digitChar_mem_hexDigits (Nat.mod_lt _ (by decide))

theorem mapM_map_eq_some {α β γ : Type} {write : α → β} {read : β → Option γ} {meant : α → γ}
    (each : ∀ item, read (write item) = some (meant item)) (items : List α) :
    (items.map write).mapM read = some (items.map meant) := by
  induction items with
  | nil => rfl
  | cons item rest ih =>
    rw [List.map_cons, List.mapM_cons, each, ih]
    rfl

/-- Digits from the place below `count` down to the last add up to the number, as far as they can hold it. -/
theorem foldl_hexDigits (number count start : Nat) :
    ((List.range count).reverse.map fun place => number / Nat.pow 16 place % 16).foldl
      (fun value digit => 16 * value + digit) start = start * Nat.pow 16 count + number % Nat.pow 16 count := by
  induction count generalizing start with
  | zero =>
    have unit : number % Nat.pow 16 0 = 0 := Nat.mod_one number
    rw [unit]
    exact (Nat.mul_one start).symm
  | succ count ih =>
    have next : Nat.pow 16 (count + 1) = Nat.pow 16 count * 16 := rfl
    rw [List.range_succ, List.reverse_append, List.reverse_singleton, List.singleton_append, List.map_cons,
      List.foldl_cons, ih, next, Nat.mod_mul]
    grind

/-- The digits of a word are read as the word. -/
theorem readHexWord?_hexWord (w : UInt32) : readHexWord? (hexWord w).toList = some w := by
  obtain ⟨values, read, value⟩ : ∃ values, (hexWord w).toList.mapM Toml.hexDigit? = some values ∧
      Toml.valueOfDigits 16 values = w.toNat := by
    refine ⟨(List.range 8).reverse.map fun place => w.toNat / Nat.pow 16 place % 16, ?_, ?_⟩
    · rw [toList_hexWord]
      exact mapM_map_eq_some (fun place => hexDigit?_digitChar (Nat.mod_lt _ (by decide))) _
    · have whole : w.toNat % Nat.pow 16 8 = w.toNat := Nat.mod_eq_of_lt w.toNat_lt
      rw [Toml.valueOfDigits, foldl_hexDigits, whole, Nat.zero_mul, Nat.zero_add]
  have filled : (hexWord w).toList.isEmpty = false := by
    rw [toList_hexWord]
    rfl
  simp [readHexWord?, read, value, filled, w.toNat_lt_size]

/-! Rows of words. -/

theorem flatten_rowsOfWords (words : List UInt32) : (rowsOfWords words).flatten = words := by
  fun_induction rowsOfWords words with
  | case1 => rfl
  | case2 w rest ih => rw [List.flatten_cons, ih, List.cons_append, List.take_append_drop]

theorem rowsOfWords_eq_nil_iff {words : List UInt32} : rowsOfWords words = [] ↔ words = [] := by
  cases words with
  | nil => simp [rowsOfWords]
  | cons => simp [rowsOfWords]

theorem length_of_mem_rowsOfWords {words row : List UInt32} (member : row ∈ rowsOfWords words) :
    1 ≤ row.length ∧ row.length ≤ 8 := by
  fun_induction rowsOfWords words with
  | case1 => cases member
  | case2 w rest ih =>
    rcases List.mem_cons.mp member with rfl | later
    · rw [List.length_cons, List.length_take]
      omega
    · exact ih later

theorem ne_nil_of_mem_rowsOfWords {words row : List UInt32} (member : row ∈ rowsOfWords words) : row ≠ [] :=
  List.length_pos_iff.mp (length_of_mem_rowsOfWords member).1

/-- Only the last row can be short. -/
theorem length_of_mem_dropLast {words row : List UInt32} (member : row ∈ (rowsOfWords words).dropLast) :
    row.length = 8 := by
  fun_induction rowsOfWords words with
  | case1 => cases member
  | case2 w rest ih =>
    by_cases last : rowsOfWords (rest.drop 7) = []
    · rw [last] at member
      cases member
    · rw [List.dropLast_cons_of_ne_nil last] at member
      rcases List.mem_cons.mp member with rfl | later
      · have more := mt rowsOfWords_eq_nil_iff.mpr last
        rw [List.drop_eq_nil_iff] at more
        rw [List.length_cons, List.length_take]
        omega
      · exact ih later

/-! The text of a dump. -/

/-- The characters of a row. -/
def hexRow (row : List UInt32) : List Char := [' '].intercalate (row.map fun w => (hexWord w).toList)

theorem toList_hexDump (words : List UInt32) :
    (hexDump words).toList = ['\n'].intercalate ((rowsOfWords words).map hexRow) := by
  simp only [hexDump, String.toList_intercalate, List.map_map, Function.comp_def]
  rfl

theorem splitOn_hexRow {row : List UInt32} (filled : row ≠ []) :
    (hexRow row).splitOn ' ' = row.map fun w => (hexWord w).toList := by
  refine List.splitOn_intercalate ' ' ?_ (by simpa using filled)
  intro digits member blank
  obtain ⟨w, _, rfl⟩ := List.mem_map.mp member
  exact absurd (mem_hexDigits_of_mem_hexWord blank) (by decide)

theorem mem_intercalate {α : Type} {separator : List α} {lists : List (List α)} {item : α}
    (member : item ∈ separator.intercalate lists) : item ∈ separator ∨ ∃ list ∈ lists, item ∈ list := by
  induction lists with
  | nil => cases member
  | cons list rest ih =>
    cases rest with
    | nil => exact .inr ⟨list, List.mem_singleton_self list, by simpa using member⟩
    | cons next others =>
      rw [List.intercalate_cons_cons, List.append_assoc, List.mem_append, List.mem_append] at member
      rcases member with own | between | later
      · exact .inr ⟨list, List.mem_cons_self, own⟩
      · exact .inl between
      · exact (ih later).imp_right fun ⟨other, inside, found⟩ => ⟨other, List.mem_cons_of_mem _ inside, found⟩

theorem newline_notMem_hexRow (row : List UInt32) : '\n' ∉ hexRow row := by
  intro member
  rcases mem_intercalate member with blank | ⟨digits, inside, newline⟩
  · cases List.mem_singleton.mp blank
  · obtain ⟨w, _, rfl⟩ := List.mem_map.mp inside
    exact absurd (mem_hexDigits_of_mem_hexWord newline) (by decide)

theorem hexRow_ne_nil {row : List UInt32} (filled : row ≠ []) : hexRow row ≠ [] := by
  intro empty
  have pieces := splitOn_hexRow filled
  obtain ⟨w, rest, rfl⟩ := List.exists_cons_of_ne_nil filled
  rw [empty, List.splitOn_nil, List.map_cons] at pieces
  have length := length_hexWord w
  rw [← (List.cons.inj pieces).1] at length
  cases length

theorem hexDump_nil : hexDump [] = "" := by
  rw [hexDump, rowsOfWords]
  rfl

/-- The lines of a dump are its rows. -/
theorem linesOf_hexDump (words : List UInt32) : linesOf (hexDump words) = (rowsOfWords words).map hexRow := by
  by_cases empty : rowsOfWords words = []
  · rw [rowsOfWords_eq_nil_iff.mp empty, hexDump_nil, rowsOfWords]
    rfl
  · have split : (hexDump words).toList.splitOn '\n' = (rowsOfWords words).map hexRow := by
      rw [toList_hexDump]
      refine List.splitOn_intercalate '\n' ?_ (by simpa using empty)
      intro line member
      obtain ⟨row, _, rfl⟩ := List.mem_map.mp member
      exact newline_notMem_hexRow row
    have shown : ¬(hexDump words).isEmpty = true := by
      rw [String.isEmpty_iff, ← String.toList_eq_nil_iff]
      intro blank
      obtain ⟨row, others, rows⟩ := List.exists_cons_of_ne_nil empty
      rw [blank, List.splitOn_nil, rows, List.map_cons] at split
      have inside : row ∈ rowsOfWords words := rows ▸ List.mem_cons_self
      exact hexRow_ne_nil (ne_nil_of_mem_rowsOfWords inside) (List.cons.inj split).1.symm
    rw [linesOf, if_neg shown, split]

theorem piecesOf_hexDump (words : List UInt32) :
    piecesOf (hexDump words) = (rowsOfWords words).map (List.map fun w => (hexWord w).toList) := by
  rw [piecesOf, linesOf_hexDump, List.map_map]
  exact List.map_congr_left fun row member => splitOn_hexRow (ne_nil_of_mem_rowsOfWords member)

theorem readHexDump?_hexDump (words : List UInt32) : readHexDump? (hexDump words) = some words := by
  rw [readHexDump?, piecesOf_hexDump, ← List.map_flatten, flatten_rowsOfWords, mapM_map_eq_some readHexWord?_hexWord,
    List.map_id']

theorem hexDump_inj {words others : List UInt32} : hexDump words = hexDump others ↔ words = others := by
  constructor
  · intro same
    have read := readHexDump?_hexDump words
    rw [same, readHexDump?_hexDump] at read
    exact (Option.some.inj read).symm
  · exact congrArg hexDump

/-- Nothing of a binary is lost when it is presented. The text has eight words on every line but the last,
which has at least one, and each word takes eight digits. So the words can be read from it. -/
theorem display_binary_lossless (b : Binary) :
    readHexDump? (Artifact.binary b).display = some b.words ∧
      (∀ pieces ∈ (piecesOf (Artifact.binary b).display).dropLast, pieces.length = 8) ∧
      (∀ pieces ∈ (piecesOf (Artifact.binary b).display).getLast?, 1 ≤ pieces.length ∧ pieces.length ≤ 8) ∧
      (∀ pieces ∈ piecesOf (Artifact.binary b).display, ∀ piece ∈ pieces,
        piece.length = 8 ∧ ∀ c ∈ piece, c ∈ hexDigits) ∧
      ((Artifact.binary b).display = "" ↔ b.words = []) ∧
      ∀ other, (Artifact.binary b).display = (Artifact.binary other).display ↔ b.words = other.words := by
  simp only [Artifact.display, piecesOf_hexDump, ← List.map_dropLast, List.getLast?_map]
  refine ⟨readHexDump?_hexDump b.words, fun pieces member => ?_, fun pieces member => ?_,
    fun pieces member piece inside => ?_, ?_, fun other => hexDump_inj⟩
  · obtain ⟨row, early, rfl⟩ := List.mem_map.mp member
    rw [List.length_map, length_of_mem_dropLast early]
  · obtain ⟨row, last, rfl⟩ := Option.map_eq_some_iff.mp member
    rw [List.length_map]
    exact length_of_mem_rowsOfWords (List.mem_of_getLast? last)
  · obtain ⟨row, _, rfl⟩ := List.mem_map.mp member
    obtain ⟨w, _, rfl⟩ := List.mem_map.mp inside
    exact ⟨length_hexWord w, fun c => mem_hexDigits_of_mem_hexWord⟩
  · rw [← hexDump_nil, hexDump_inj]

/-- One word is left for a second line. -/
def nineWords : Binary := ⟨[0, 1, 2, 3, 0xDEADBEEF, 5, 6, 7, 0xFFFFFFFF], {}⟩

theorem nineWords_lossless : readHexDump? (Artifact.binary nineWords).display = some nineWords.words ∧
    ∃ first last, piecesOf (Artifact.binary nineWords).display = [first, last] ∧ first.length = 8 ∧
      1 ≤ last.length ∧ last.length ≤ 8 ∧ "deadbeef".toList ∈ first ∧ "deadbeef".toList.length = 8 ∧
      ∀ c ∈ "deadbeef".toList, c ∈ hexDigits := by
  have rows : rowsOfWords nineWords.words = [[0, 1, 2, 3, 0xDEADBEEF, 5, 6, 7], [0xFFFFFFFF]] := by
    simp [nineWords, rowsOfWords]
  have lines : piecesOf (Artifact.binary nineWords).display =
      [[0, 1, 2, 3, 0xDEADBEEF, 5, 6, 7], [0xFFFFFFFF]].map (List.map fun w => (hexWord w).toList) := by
    rw [Artifact.display, piecesOf_hexDump, rows]
  obtain ⟨read, full, rest, digits, _, _⟩ := display_binary_lossless nineWords
  rw [lines] at full rest digits
  have member : "deadbeef".toList ∈ [0, 1, 2, 3, 0xDEADBEEF, 5, 6, 7].map fun w => (hexWord w).toList := by
    decide +kernel
  obtain ⟨low, high⟩ := rest _ rfl
  exact ⟨read, _, _, lines, full _ List.mem_cons_self, low, high, member, digits _ List.mem_cons_self _ member⟩

end ShaderGraph
