import RecordFilter.Screen.CellWidth

/-!
Clusters: the characters of a text that are shown as one sign, which a line break cannot separate.

A cluster begins with a character that has cells. Marks without cells, selectors and joined
characters belong to the cluster before them. Main statement: the clusters of a text are the whole
text (`flatMap_clusters`).
-/

namespace RecordFilter.Screen

/-- Characters that are shown as one sign, and the cells that it takes up. -/
structure Cluster where
  text : Text
  cells : Nat

/-- The cluster with further characters. -/
def Cluster.extend (cluster : Cluster) (more : Text) (cells : Nat) : Cluster :=
  ⟨cluster.text ++ more, cluster.cells + cells⟩

/-- The clusters from `current` on, to which the first characters may still belong; `last` is the
    character that a selector acts on. -/
def clustersFrom (current : Cluster) (last : Option Char) : Text → List Cluster
  | [] => [current]
  | c :: rest =>
    if c = joiner then
      match rest with
      | [] => [current.extend [c] 0]
      | d :: rest => clustersFrom (current.extend [c, d] 0) last rest
    else if c = selector then
      clustersFrom (current.extend [c] (widening last)) (if widening last = 0 then last else none)
        rest
    else if charCells c = 0 then clustersFrom (current.extend [c] 0) last rest
    else current :: clustersFrom ⟨[c], charCells c⟩ (some c) rest

/-- The clusters of a text. Characters at its beginning that belong to no cluster are one. -/
def clusters : Text → List Cluster
  | [] => []
  | c :: rest => clustersFrom ⟨[c], charCells c⟩ (if charCells c = 0 then none else some c) rest

theorem flatMap_clustersFrom (current : Cluster) (last : Option Char) (text : Text) :
    (clustersFrom current last text).flatMap Cluster.text = current.text ++ text := by
  fun_induction clustersFrom current last text <;> simp_all [Cluster.extend]

/-- Nothing is lost between the clusters of a text. -/
theorem flatMap_clusters (text : Text) : (clusters text).flatMap Cluster.text = text := by
  cases text with
  | nil => rfl
  | cons c rest => simp [clusters, flatMap_clustersFrom]

/-- The clusters at the beginning that are within a width. Half of a cluster is made up for by a
    blank. -/
def within : Nat → List Cluster → Text
  | _, [] => []
  | width, cluster :: rest =>
    if cluster.cells ≤ width then cluster.text ++ within (width - cluster.cells) rest
    else List.replicate width ' '

/-- The text cut off at a width, or followed by blanks up to it. -/
def fit (width : Nat) (text : Text) : Text :=
  if cells text ≤ width then text ++ List.replicate (width - cells text) ' '
  else if width = 0 then [] else within width (clusters text)

/-- The pieces of clusters that fit a width, with the current piece and the cells it takes up. -/
def chop (width : Nat) (current : Text) (used : Nat) : List Cluster → List Text
  | [] => if used = 0 then [] else [current]
  | cluster :: rest =>
    if used + cluster.cells ≤ width then
      chop width (current ++ cluster.text) (used + cluster.cells) rest
    else current :: chop width cluster.text cluster.cells rest

end RecordFilter.Screen
