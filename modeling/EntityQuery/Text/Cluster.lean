import EntityQuery.Text.ClusterData

/-!
# Character clusters

Cuts a text into user-perceived characters.  A mark stays with the character that it modifies, a
prepended sign with the one that follows, and pictographs tied by a joiner are one; controls stand
alone.
-/

namespace EntityQuery.Text

abbrev Cluster := List Char

def isControl (c : Char) : Bool :=
  inRanges controlRanges c.toNat

def isAttaching (c : Char) : Bool :=
  0x300 ≤ c.toNat && inRanges attachingRanges c.toNat

def isPrepending (c : Char) : Bool :=
  0x600 ≤ c.toNat && inRanges prependingRanges c.toNat

def isPictograph (c : Char) : Bool :=
  0xA9 ≤ c.toNat && inRanges pictographRanges c.toNat

def joiner : Char := '\u200d'

/-- Whether two neighbours belong to one cluster, where `tied` says that the left one ends a
pictograph with its marks. -/
def staysJoined (tied : Bool) (left right : Char) : Bool :=
  !isControl left && !isControl right &&
    (isAttaching right || isPrepending left || (tied && left = joiner && isPictograph right))

/-- `cluster` is the current cluster, latest character first. -/
def clustersFrom (tied : Bool) (last : Char) (cluster : Cluster) : List Char → List Cluster
  | [] => [cluster.reverse]
  | c :: rest =>
      let stillTied := isPictograph c || (tied && isAttaching c)
      if staysJoined tied last c then clustersFrom stillTied c (c :: cluster) rest
      else cluster.reverse :: clustersFrom stillTied c [c] rest

def clusters : List Char → List Cluster
  | [] => []
  | c :: rest => clustersFrom (isPictograph c) c [c] rest

end EntityQuery.Text
