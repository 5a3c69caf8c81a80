import ShaderGraph.Toml.Scan

namespace ShaderGraph.Toml

/-- Digits with single underscores between them. -/
def digits? (digit? : Char → Option Nat) : List Char → Option (List Nat × List Char)
  | [] => none
  | c :: '_' :: rest => do
    let first ← digit? c
    let (others, rest) ← digits? digit? rest
    return (first :: others, rest)
  | c :: rest => do
    let first ← digit? c
    match digits? digit? rest with
    | some (others, rest) => return (first :: others, rest)
    | none => return ([first], rest)

def decimalDigit? (c : Char) : Option Nat := if c.isDigit then some (c.toNat - '0'.toNat) else none

/-- A sign, if there is one, and whether it is a minus. -/
def sign : List Char → Bool × List Char
  | '-' :: rest => (true, rest)
  | '+' :: rest => (false, rest)
  | cs => (false, cs)

/-- Decimal digits that do not start with a zero, or a single zero. -/
def wholePart? : List Char → Option (List Nat × List Char)
  | '0' :: rest => some ([0], rest)
  | cs => digits? decimalDigit? cs

/-- Whether digits, of which the last counts `10 ^ exponent`, are too large for a double. -/
def overflows (digits : List Nat) (exponent : Int) : Bool :=
  let value := valueOfDigits 10 digits
  let places := ((Nat.toDigits 10 value).length : Int) + exponent
  if value = 0 || places < 309 then false
  else if 309 < places then true
  else
    -- Half way between the largest double and the next power of two.
    let least := 1 <<< 1024 - 1 <<< 970
    if 0 ≤ exponent then least ≤ value * Nat.pow 10 exponent.toNat
    else least * Nat.pow 10 (-exponent).toNat ≤ value

/-- A fraction, of one digit at least. -/
def fraction? : List Char → Option (List Nat × List Char)
  | '.' :: rest => digits? decimalDigit? rest
  | _ => none

def exponent? : List Char → Option (Int × List Char)
  | c :: rest => do
    if c ≠ 'e' && c ≠ 'E' then none
    let (negative, rest) := sign rest
    let (digits, rest) ← digits? decimalDigit? rest
    let value : Int := valueOfDigits 10 digits
    return (if negative then -value else value, rest)
  | [] => none

/-- Infinity and not-a-number. -/
def specialFloat? : List Char → Option (List Char)
  | 'i' :: 'n' :: 'f' :: rest => some rest
  | 'n' :: 'a' :: 'n' :: rest => some rest
  | _ => none

/-- A number with a fraction, an exponent or both. Too large a positive number is refused. -/
def float? (cs : List Char) : Option (Except Fault (List Char)) := do
  let (negative, rest) := sign cs
  match specialFloat? rest with
  | some rest => return .ok rest
  | none =>
    let (whole, rest) ← wholePart? rest
    let (fraction, rest, isPlainWhole) := match fraction? rest with
      | some (digits, rest) => (digits, rest, false)
      | none => ([], rest, true)
    match exponent? rest with
    | some (exponent, rest) =>
      return if !negative && overflows (whole ++ fraction) (exponent - fraction.length)
        then .error .outOfRange else .ok rest
    | none =>
      if isPlainWhole then none
      else return if !negative && overflows (whole ++ fraction) (-fraction.length)
        then .error .outOfRange else .ok rest

/-- Integers are below this, and not below its negation. -/
def integerLimit : Nat := 0x8000000000000000

/-- An integer of 64 bits. Other bases than ten have no sign. -/
def integer (cs : List Char) : Except Fault (Int × List Char) :=
  let based (base : Nat) (digit? : Char → Option Nat) (rest : List Char) :
      Except Fault (Int × List Char) :=
    match digits? digit? rest with
    | none => .error .malformed
    | some (digits, rest) =>
      let value := valueOfDigits base digits
      if value < integerLimit then .ok (value, rest) else .error .outOfRange
  match cs with
  | '0' :: 'x' :: rest => based 16 hexDigit? rest
  | '0' :: 'o' :: rest => based 8 (fun c => (decimalDigit? c).filter (· < 8)) rest
  | '0' :: 'b' :: rest => based 2 (fun c => (decimalDigit? c).filter (· < 2)) rest
  | _ =>
    let (negative, rest) := sign cs
    match wholePart? rest with
    | none => .error .malformed
    | some (digits, rest) =>
      let value : Int := valueOfDigits 10 digits
      let value := if negative then -value else value
      if -integerLimit ≤ value && value < integerLimit then .ok (value, rest)
      else .error .outOfRange

/-! Dates and times. -/

/-- A number of exactly `count` digits within bounds. -/
def field? (count low high : Nat) (cs : List Char) : Option (Nat × List Char) := do
  let digits ← (cs.take count).mapM decimalDigit?
  let value := valueOfDigits 10 digits
  if digits.length = count && low ≤ value && value ≤ high then some (value, cs.drop count) else none

def skipChar? (c : Char) : List Char → Option (List Char)
  | d :: rest => if d = c then some rest else none
  | [] => none

def isLeapYear (year : Nat) : Bool := year % 4 = 0 && (year % 100 ≠ 0 || year % 400 = 0)

def daysInMonth (year month : Nat) : Nat :=
  if month = 2 then if isLeapYear year then 29 else 28
  else if month ∈ [4, 6, 9, 11] then 30
  else 31

def date? (cs : List Char) : Option (List Char) := do
  let (year, rest) ← field? 4 0 9999 cs
  let (month, rest) ← field? 2 1 12 (← skipChar? '-' rest)
  let (_, rest) ← field? 2 1 (daysInMonth year month) (← skipChar? '-' rest)
  return rest

/-- A time of day, with a second for leap seconds and any fraction. -/
def time? (cs : List Char) : Option (List Char) := do
  let (_, rest) ← field? 2 0 23 cs
  let (_, rest) ← field? 2 0 59 (← skipChar? ':' rest)
  let (_, rest) ← field? 2 0 60 (← skipChar? ':' rest)
  match rest with
  | '.' :: more =>
    if (more.head?.map Char.isDigit).getD false then return more.dropWhile Char.isDigit
    else return rest
  | _ => return rest

/-- A difference from universal time. -/
def zone? : List Char → Option (List Char)
  | c :: rest => do
    if c = 'Z' || c = 'z' then return rest
    if c ≠ '+' && c ≠ '-' then none
    let (_, rest) ← field? 2 0 23 rest
    let (_, rest) ← field? 2 0 59 (← skipChar? ':' rest)
    return rest
  | [] => none

/-- A date, a time or both, with or without a zone. -/
def datetime? (cs : List Char) : Option (List Char) :=
  match date? cs with
  | none => time? cs
  | some rest =>
    match rest with
    | c :: more =>
      if c = 'T' || c = 't' || c = ' ' then
        match time? more with
        | some after => some ((zone? after).getD after)
        | none => some rest
      else some rest
    | [] => some rest

end ShaderGraph.Toml
