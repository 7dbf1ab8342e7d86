import ClassScaffold.Text.ClusterTable

/-! Texts cut into clusters, which are what a reader takes for one character. -/
namespace ClassScaffold.Text

/-- What a character does to its neighbours. Parts of a Korean syllable are an initial, a medial or
a final, and a whole syllable is open or closed. -/
inductive ClusterClass where
  | carriageReturn
  | lineFeed
  | control
  | prepended
  | extending
  | spacing
  | joiner
  | regional
  | initial
  | medial
  | final
  | openSyllable
  | closedSyllable
  | body
  | person
  | skinTone
  | glued
  | other
  deriving DecidableEq

/-- Codes of people, who take a tone of skin like bodies and can be joined like things. -/
def personRange : Nat × Nat := (0x1f466, 0x1f469)

namespace ClusterClass

def ofCode (n : Nat) : ClusterClass :=
  if n = 0x0d then .carriageReturn
  else if n = 0x0a then .lineFeed
  else if n = 0x200d then .joiner
  else if inRanges n [(0x1100, 0x115f), (0xa960, 0xa97c)] then .initial
  else if inRanges n [(0x1160, 0x11a7), (0xd7b0, 0xd7c6)] then .medial
  else if inRanges n [(0x11a8, 0x11ff), (0xd7cb, 0xd7fb)] then .final
  else if inRanges n [(0xac00, 0xd7a3)] then
    if (n - 0xac00) % 28 = 0 then .openSyllable else .closedSyllable
  else if inRanges n [(0x1f1e6, 0x1f1ff)] then .regional
  else if inRanges n [(0x1f3fb, 0x1f3ff)] then .skinTone
  else if inRanges n [personRange] then .person
  else if inRanges n bodyRanges then .body
  else if inRanges n gluedRanges then .glued
  else if inRanges n controlRanges then .control
  else if inRanges n extendRanges then .extending
  else if inRanges n spacingRanges then .spacing
  else if inRanges n prependRanges then .prepended
  else .other

/-- Whether the class ends every cluster before and after it. -/
def standsAlone (c : ClusterClass) : Bool :=
  c = .carriageReturn || c = .lineFeed || c = .control

/-- Whether two parts of a Korean syllable belong together. -/
def joinsSyllable : ClusterClass → ClusterClass → Bool
  | .initial, next =>
    next = .initial || next = .medial || next = .openSyllable || next = .closedSyllable
  | .openSyllable, next | .medial, next => next = .medial || next = .final
  | .closedSyllable, next | .final, next => next = .final
  | _, _ => false

def takesSkinTone (c : ClusterClass) : Bool :=
  c = .body || c = .person

/-- Whether `next` goes on with a cluster whose classes so far are the reversed list. Regional
letters go together in pairs; a tone of skin goes with a body; a joiner ties on people and things. -/
def goesOn : List ClusterClass → ClusterClass → Bool
  | [], _ => false
  | last :: before, next =>
    if standsAlone last || standsAlone next then last = .carriageReturn && next = .lineFeed
    else
      joinsSyllable last next || next = .extending || next = .joiner || next = .spacing ||
        last = .prepended ||
        (next = .skinTone && ((last :: before).dropWhile (· = .extending)).head?.any takesSkinTone) ||
        (last = .joiner && (next = .glued || next = .person)) ||
        (last = .regional && next = .regional && before.head? != some .regional)

end ClusterClass

/-- Clusters of the text, where `cluster` is the reversed start of the current one, each character
with its class. -/
def clustersFrom : List (Char × ClusterClass) → List Char → List (List Char)
  | cluster, [] => if cluster.isEmpty then [] else [(cluster.map (·.1)).reverse]
  | cluster, c :: rest =>
    let next := ClusterClass.ofCode c.toNat
    if cluster.isEmpty || ClusterClass.goesOn (cluster.map (·.2)) next then
      clustersFrom ((c, next) :: cluster) rest
    else (cluster.map (·.1)).reverse :: clustersFrom [(c, next)] rest

def clusters (cs : List Char) : List (List Char) :=
  clustersFrom [] cs

/-- No character is lost, and none changes its place. -/
theorem flatten_clustersFrom (cluster : List (Char × ClusterClass)) (cs : List Char) :
    (clustersFrom cluster cs).flatten = (cluster.map (·.1)).reverse ++ cs := by
  induction cs generalizing cluster with
  | nil =>
    simp only [clustersFrom]
    split <;> simp_all
  | cons c rest ih =>
    simp only [clustersFrom]
    split <;> simp [ih]

theorem flatten_clusters (cs : List Char) : (clusters cs).flatten = cs := by
  simp [clusters, flatten_clustersFrom]

end ClassScaffold.Text
