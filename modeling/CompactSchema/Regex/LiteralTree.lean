import CompactSchema.Regex.Automaton

/-
Trees of literals.

A choice among literals is read byte by byte, literals that begin alike sharing their
nodes.  Where a literal ends at a node, the edges known until then and the edges added
later are kept apart, because the earlier literals are preferred.
-/

namespace CompactSchema
namespace Regex

/-- A node of a tree of literals.  Every list of `earlier` holds the edges that stood
before a literal ended at the node, the last list first. -/
inductive LiteralTree where
  | node (earlier : List (List (Nat × LiteralTree))) (edges : List (Nat × LiteralTree))

namespace LiteralTree

def leaf : LiteralTree := .node [] []

def isLeaf : LiteralTree → Bool
  | .node earlier edges => earlier.all List.isEmpty && edges.isEmpty

/-- A literal ends at the node.  A node without edges has to be told only once. -/
def endHere : LiteralTree → LiteralTree
  | .node earlier edges =>
      if (LiteralTree.node earlier edges).isLeaf && !earlier.isEmpty then .node earlier edges
      else .node (edges :: earlier) []

def putEdge (byte : Nat) (tree : LiteralTree) : List (Nat × LiteralTree) → List (Nat × LiteralTree)
  | [] => [(byte, tree)]
  | (other, held) :: rest =>
      if other = byte then (byte, tree) :: rest else (other, held) :: putEdge byte tree rest

def insert : List Nat → LiteralTree → LiteralTree
  | [], tree => tree.endHere
  | byte :: rest, .node earlier edges =>
      .node earlier (putEdge byte (insert rest ((edges.lookup byte).getD leaf)) edges)

def ofLiterals (literals : List (List Nat)) : LiteralTree :=
  literals.foldl (fun tree bytes => tree.insert bytes) leaf

def listStates (edges : List (Nat × LiteralTree)) : Nat := if edges.isEmpty then 0 else 1

/-- What a list of edges takes beside its state; a single edge fits into the state. -/
def listOctets (edges : List (Nat × LiteralTree)) : Nat :=
  if 1 < edges.length then edges.length * Automaton.transitionSize else 0

mutual

/-- The states of a tree and what they hold, without those of its leaves: a state that
chooses for every node, and one for every list of edges. -/
def extent : LiteralTree → Nat × Nat
  | .node earlier edges =>
      let (states, octets) := listsExtent earlier
      let (edgeStates, edgeOctets) := edgesExtent edges
      let branches := (edges :: earlier).countP (!·.isEmpty) + earlier.length
      (states + edgeStates + listStates edges + 1,
        octets + edgeOctets + listOctets edges + branches * Automaton.branchSize)

def listsExtent : List (List (Nat × LiteralTree)) → Nat × Nat
  | [] => (0, 0)
  | edges :: rest =>
      let (states, octets) := listsExtent rest
      let (edgeStates, edgeOctets) := edgesExtent edges
      (states + edgeStates + listStates edges, octets + edgeOctets + listOctets edges)

def edgesExtent : List (Nat × LiteralTree) → Nat × Nat
  | [] => (0, 0)
  | (_, tree) :: rest =>
      let (states, octets) := edgesExtent rest
      if tree.isLeaf then (states, octets)
      else
        let (treeStates, treeOctets) := tree.extent
        (states + treeStates, octets + treeOctets)

end

end LiteralTree

def Fragment.ofLiterals (literals : List (List Nat)) : Fragment :=
  let (states, octets) := (LiteralTree.ofLiterals literals).extent
  .fixed (states + 1) octets

end Regex
end CompactSchema
