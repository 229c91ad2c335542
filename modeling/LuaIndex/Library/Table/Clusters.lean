import LuaIndex.Library.Table.Cells

namespace LuaIndex.Text

/-- Characters that are shown as one, and the cells they take. -/
structure Cluster where
  text : Text
  width : Nat

/-- The clusters of the first part of a text, the last one first. `last` and `joined` are as in
`cellsFrom`. -/
structure Clustering where
  clusters : List Cluster
  last : Option Char
  joined : Bool

namespace Clustering

def empty : Clustering :=
  ⟨[], none, false⟩

/-- The clusters with a character added to the last one, which grows by `width`. A first character
starts a cluster anyway. -/
def extend (c : Char) (width : Nat) : List Cluster → List Cluster
  | [] => [⟨[c], 0⟩]
  | k :: ks => ⟨k.text ++ [c], k.width + width⟩ :: ks

def step (s : Clustering) (c : Char) : Clustering :=
  if s.joined then { s with clusters := extend c 0 s.clusters, joined := false }
  else if c = joiner then
    { s with clusters := extend c 0 s.clusters, joined := !s.clusters.isEmpty }
  else if c = pictureSelector then
    if s.last.any hasPicture then { s with clusters := extend c 1 s.clusters, last := none }
    else { s with clusters := extend c 0 s.clusters }
  else if cellWidth c = 0 then { s with clusters := extend c 0 s.clusters }
  else ⟨⟨[c], cellWidth c⟩ :: s.clusters, some c, false⟩

end Clustering

/-- The clusters of a text. -/
def clusters (t : Text) : List Cluster :=
  (t.foldl Clustering.step .empty).clusters.reverse

/-- The first clusters, as many as `width` cells hold. Half of a wide one is shown as a space. -/
def cropClusters (width : Nat) : List Cluster → Text
  | [] => []
  | k :: ks =>
    if width = 0 then []
    else if k.width ≤ width then k.text ++ cropClusters (width - k.width) ks
    else [' ']

/-- The beginning of a text that takes `width` cells. -/
def crop (width : Nat) (t : Text) : Text :=
  cropClusters width (clusters t)

end LuaIndex.Text
