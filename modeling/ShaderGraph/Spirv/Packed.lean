namespace ShaderGraph.Spirv

/-- The four bytes of a word, least first. -/
def bytesOfWord (w : UInt32) : List UInt8 :=
  [w.toUInt8, (w >>> 8).toUInt8, (w >>> 16).toUInt8, (w >>> 24).toUInt8]

/-- The word of four bytes, least first. -/
def wordOfBytes (a b c d : UInt8) : UInt32 :=
  a.toUInt32 ||| b.toUInt32 <<< 8 ||| c.toUInt32 <<< 16 ||| d.toUInt32 <<< 24

/-- How many words hold bytes and the zero that ends them. -/
def packedLength (byteCount : Nat) : Nat := byteCount / 4 + 1

/-- A text as words: its bytes, at least one zero, and zeros up to the end of the last word. -/
def packText (s : String) : List UInt32 :=
  let bytes := s.toUTF8
  let byteAt (i : Nat) : UInt8 := bytes[i]?.getD 0
  (List.range (packedLength bytes.size)).map fun i =>
    wordOfBytes (byteAt (4 * i)) (byteAt (4 * i + 1)) (byteAt (4 * i + 2)) (byteAt (4 * i + 3))

/-- The bytes of words up to the first zero, and the words after the one that holds it. None if
there is no zero. -/
def unpackBytes (words : List UInt32) : Option (List UInt8 × List UInt32) :=
  let bytes := (words.flatMap bytesOfWord).takeWhile (· ≠ 0)
  if bytes.length < 4 * words.length then some (bytes, words.drop (packedLength bytes.length))
  else none

end ShaderGraph.Spirv
