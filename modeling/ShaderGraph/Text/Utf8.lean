namespace ShaderGraph.Text

/-- Why bytes are not UTF-8. `start` is the index of the first byte of the offending character. -/
inductive Utf8Fault where
  /-- The `length` bytes from `start` begin no character. -/
  | invalid (start length : Nat)
  /-- The bytes end within a character. -/
  | incomplete (start : Nat)
  deriving DecidableEq, Repr

def Utf8Fault.message : Utf8Fault → String
  | .invalid start length =>
    "invalid utf-8 sequence of " ++ toString length ++ " bytes from index " ++ toString start
  | .incomplete start => "incomplete utf-8 byte sequence from index " ++ toString start

/-- The ranges of the bytes that must follow a first byte, none if no character starts with it. -/
def utf8Tail? (first : UInt8) : Option (List (UInt8 × UInt8)) :=
  if first < 0x80 then some []
  else if first < 0xC2 then none
  else if first < 0xE0 then some [(0x80, 0xBF)]
  else if first = 0xE0 then some [(0xA0, 0xBF), (0x80, 0xBF)]
  else if first = 0xED then some [(0x80, 0x9F), (0x80, 0xBF)]
  else if first < 0xF0 then some [(0x80, 0xBF), (0x80, 0xBF)]
  else if first = 0xF0 then some [(0x90, 0xBF), (0x80, 0xBF), (0x80, 0xBF)]
  else if first < 0xF4 then some [(0x80, 0xBF), (0x80, 0xBF), (0x80, 0xBF)]
  else if first = 0xF4 then some [(0x80, 0x8F), (0x80, 0xBF), (0x80, 0xBF)]
  else none

/-- Scans for the first fault. `start` is where the current character begins, `seen` how many of
its bytes are behind, `owed` what must still follow them. -/
def utf8FaultFrom (start seen : Nat) (owed : List (UInt8 × UInt8)) : List UInt8 → Option Utf8Fault
  | [] => if owed.isEmpty then none else some (.incomplete start)
  | b :: rest =>
    match owed with
    | (low, high) :: later =>
      if low ≤ b && b ≤ high then utf8FaultFrom start (seen + 1) later rest
      else some (.invalid start seen)
    | [] =>
      match utf8Tail? b with
      | none => some (.invalid (start + seen) 1)
      | some tail => utf8FaultFrom (start + seen) 1 tail rest

/-- The first reason why bytes are not UTF-8. -/
def utf8Fault? (bytes : List UInt8) : Option Utf8Fault := utf8FaultFrom 0 0 [] bytes

/-- Reads bytes as UTF-8. -/
def decodeUtf8 (bytes : ByteArray) : Except Utf8Fault String :=
  match String.fromUTF8? bytes with
  | some s => .ok s
  | none => .error ((utf8Fault? bytes.toList).getD (.incomplete 0))

end ShaderGraph.Text
