import ShaderGraph.Emission.Draft

namespace ShaderGraph

/-- The nodes of a module in the order in which they get their ids, the first of which is one. -/
structure Numbering where
  nodes : List NodeRef
  deriving Repr

namespace Numbering

/-- Numbers nodes by their first mention. -/
def ofMentions (mentions : List NodeRef) : Numbering := ⟨mentions.eraseDups⟩

def id (n : Numbering) (node : NodeRef) : Nat := n.nodes.idxOf node + 1

/-- One more than the greatest id. -/
def bound (n : Numbering) : Nat := n.nodes.length + 1

/-- Accepts a numbering whose bound still fits a word. -/
def checked (n : Numbering) : Except Abort Numbering :=
  if n.bound < UInt32.size then .ok n else .error .idsExhausted

end Numbering

end ShaderGraph
