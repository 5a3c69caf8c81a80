import Mathlib.Data.List.Nodup
import ShaderGraph.Emission.Numbering

namespace ShaderGraph

theorem nodup_eraseDups {α : Type} [DecidableEq α] (xs : List α) : xs.eraseDups.Nodup := by
  induction size : xs.length using Nat.strongRecOn generalizing xs with
  | ind n ih =>
    cases xs with
    | nil => simp
    | cons x rest =>
      have shorter : (rest.filter fun other => !other == x).length < n := by
        have bound := List.length_filter_le (fun other => !other == x) rest
        simp only [List.length_cons] at size
        omega
      rw [List.eraseDups_cons, List.nodup_cons]
      refine ⟨?_, ih _ shorter _ rfl⟩
      simp [List.mem_eraseDups]

theorem eraseDups_of_nodup {α : Type} [DecidableEq α] {xs : List α} (nodup : xs.Nodup) : xs.eraseDups = xs := by
  induction xs with
  | nil => rfl
  | cons x rest ih =>
    rw [List.nodup_cons] at nodup
    have others : rest.filter (fun other => !other == x) = rest := by
      refine List.filter_eq_self.mpr fun other member => ?_
      simpa using fun same : other = x => nodup.1 (same ▸ member)
    rw [List.eraseDups_cons, others, ih nodup.2]

theorem eraseDups_append_eraseDups {α : Type} [DecidableEq α] (xs ys : List α) :
    (xs.eraseDups ++ ys).eraseDups = (xs ++ ys).eraseDups := by
  have others : ys.removeAll xs.eraseDups = ys.removeAll xs := by
    refine List.filter_congr fun y _ => ?_
    simp [List.mem_eraseDups]
  rw [List.eraseDups_append, List.eraseDups_append, eraseDups_of_nodup (nodup_eraseDups xs), others]

namespace Numbering

/-- The id of a node, as it stands in an instruction. -/
def word (n : Numbering) (node : NodeRef) : UInt32 := .ofNat (n.id node)

variable (mentions : List NodeRef)

theorem nodup_ofMentions : (ofMentions mentions).nodes.Nodup :=
  nodup_eraseDups mentions

theorem mem_ofMentions {node : NodeRef} : node ∈ (ofMentions mentions).nodes ↔ node ∈ mentions :=
  List.mem_eraseDups

theorem checked_eq_ok_iff {n m : Numbering} : n.checked = .ok m ↔ n.bound < UInt32.size ∧ n = m := by
  unfold checked
  split
  · next fits => simp [fits]
  · next tooLarge => simp [tooLarge]

/-- The ids of the nodes, in order, are the numbers from one up to the bound. -/
theorem map_id_nodes {n : Numbering} (once : n.nodes.Nodup) :
    n.nodes.map n.id = List.range' 1 (n.bound - 1) := by
  refine List.ext_getElem (by simp [bound]) fun i inside _ => ?_
  have place : i < n.nodes.length := by simpa using inside
  rw [List.getElem_map, List.getElem_range', id, once.idxOf_getElem i place]
  omega

theorem toNat_ofNat_id {n : Numbering} (fits : n.bound < UInt32.size) {node : NodeRef} (inside : node ∈ n.nodes) :
    (UInt32.ofNat (n.id node)).toNat = n.nodes.idxOf node + 1 := by
  have place := List.idxOf_lt_length_iff.mpr inside
  have small : n.nodes.idxOf node + 1 < UInt32.size := by
    simp only [bound] at fits
    omega
  exact UInt32.toNat_ofNat_of_lt' small

/-- Different nodes have different ids, also once the ids are words. -/
theorem ofNat_id_inj {n : Numbering} (fits : n.bound < UInt32.size) {node other : NodeRef} (inside : node ∈ n.nodes)
    (otherInside : other ∈ n.nodes) (same : UInt32.ofNat (n.id node) = UInt32.ofNat (n.id other)) :
    node = other := by
  have equal := congrArg UInt32.toNat same
  rw [toNat_ofNat_id fits inside, toNat_ofNat_id fits otherInside] at equal
  exact (List.idxOf_inj inside).mp (Nat.succ.inj equal)

end Numbering

end ShaderGraph
