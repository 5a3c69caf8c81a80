import ShaderGraph.Text.Unprintable

namespace ShaderGraph.Text

/-- A character inside double quotes. Quotes, backslashes and the usual controls have short
escapes, any other character without a visible form is written by its code point. -/
def quotedChar (c : Char) : String :=
  if c = '"' then "\\\""
  else if c = '\\' then "\\\\"
  else if c = '\n' then "\\n"
  else if c = '\r' then "\\r"
  else if c = '\t' then "\\t"
  else if c.toNat = 0 then "\\0"
  else if isUnprintable c then "\\u\x7b" ++ String.ofList (Nat.toDigits 16 c.toNat) ++ "\x7d"
  else c.toString

/-- A text in double quotes, one line whatever it holds. -/
def quoted (s : String) : String :=
  "\"" ++ String.join (s.toList.map quotedChar) ++ "\""

/-- Items between square brackets, as lists are shown in messages. -/
def bracketed (items : List String) : String :=
  "[" ++ ", ".intercalate items ++ "]"

/-- An optional value as messages show it. -/
def optional : Option String → String
  | none => "None"
  | some s => "Some(" ++ s ++ ")"

end ShaderGraph.Text
