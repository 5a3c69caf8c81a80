namespace ShaderGraph.Spirv

/-- The longest instruction, in words: the count of words has sixteen bits. -/
def maxWordCount : Nat := 0xFFFF

def magicNumber : UInt32 := 0x07230203

/-- An instruction of a stream: the number of its opcode and the words after the first. -/
structure Frame where
  code : Nat
  operands : List UInt32
  deriving DecidableEq, Repr

namespace Frame

/-- The first word holds the count of words in its high half and the opcode in its low half. -/
def words (f : Frame) : List UInt32 :=
  UInt32.ofNat ((f.operands.length + 1) * 0x10000 + f.code) :: f.operands

/-- The count of words a first word states. -/
def countOf (first : UInt32) : Nat := first.toNat / 0x10000

def codeOf (first : UInt32) : Nat := first.toNat % 0x10000

end Frame

/-- The five words in front of the instructions. -/
structure Header where
  version : UInt32
  generator : UInt32
  /-- Greater than every id. -/
  bound : UInt32
  deriving DecidableEq, Repr

def Header.words (h : Header) : List UInt32 := [magicNumber, h.version, h.generator, h.bound, 0]

end ShaderGraph.Spirv
