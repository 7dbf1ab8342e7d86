import ClassScaffold.Registry
import ClassScaffold.Validation

/-! Package paths: a walk from the root packages that comes to the packages nearest to the roots
first, and gives every package and every class on its way a path. -/
namespace ClassScaffold

namespace Diagram

/-- Ids of what a package holds: the listed children, and the classes that name it as theirs. -/
def childrenOf (d : Diagram) (p : PackageNode) : List String :=
  let listed := p.body.children.eraseDups
  listed ++ ((d.classes.filter (fun c => c.packageId == some p.id)).map (·.id)).filter
    (fun id => !listed.contains id)

def roots (d : Diagram) : List PackageNode :=
  d.packages.filter (·.isRoot)

end Diagram

namespace PackageNode

def parentViolations (registry : Registry) (p : PackageNode) : List Rejection :=
  require (p.isRoot || (registry.package? p.parentId).isSome)
    (.reference (.unknownParentPackage p.name p.parentId))

end PackageNode

namespace ClassNode

def ownerViolations (registry : Registry) (node : ClassNode) : List Rejection :=
  node.packageId.toList.flatMap fun id =>
    require (registry.package? id).isSome (.reference (.unknownOwningPackage node.name id))

end ClassNode

/-- Paths given so far, by id, and the packages that have none yet. -/
structure Placement where
  packages : List (String × String)
  classes : List (String × String)
  unplaced : List PackageNode

namespace Placement

/-- Every root has its name as its path. -/
def start (d : Diagram) : Placement where
  packages := d.roots.map (fun p => (p.id, p.name))
  classes := []
  unplaced := d.packages.filter (fun p => !p.isRoot)

/-- Gives one child of the package at `path` its place. A package that has one has another parent,
and a class that has one has another package. Answers with the packages to go on with. -/
def place (registry : Registry) (parent : PackageNode) (path : String) (s : Placement)
    (child : String) : Except Rejection (Placement × List (PackageNode × String)) :=
  match registry.get? child with
  | none => .error (.reference (.unknownChild parent.name child))
  | some (.cls _) =>
    if (s.classes.lookup child).isSome then
      .error (.structural (.classInSeveralPackages ((registry.class? child).elim "" ClassNode.name)))
    else .ok ({ s with classes := s.classes ++ [(child, path)] }, [])
  | some (.package _) =>
    match s.unplaced.find? (fun p => p.id == child) with
    | none => .error (.structural (.packageRevisited ((registry.package? child).elim "" PackageNode.name)))
    | some p =>
      let inner := path ++ registry.diagram.target.separator ++ p.name
      .ok ({ s with
          packages := s.packages ++ [(child, inner)]
          unplaced := s.unplaced.filter (fun other => other.id != child) }, [(p, inner)])

def placeAll (registry : Registry) (parent : PackageNode) (path : String) (s : Placement) :
    List String → Except Rejection (Placement × List (PackageNode × String))
  | [] => .ok (s, [])
  | child :: rest => do
    let (s, next) ← s.place registry parent path child
    let (s, later) ← s.placeAll registry parent path rest
    return (s, next ++ later)

theorem place_size {registry : Registry} {parent : PackageNode} {path : String} {s t : Placement}
    {child : String} {next : List (PackageNode × String)}
    (h : s.place registry parent path child = .ok (t, next)) :
    t.unplaced.length + next.length ≤ s.unplaced.length := by
  unfold place at h
  split at h
  · cases h
  · split at h
    · cases h
    · cases h
      simp
  · split at h
    · cases h
    · rename_i p hp
      cases h
      have : (s.unplaced.filter (fun other => other.id != child)).length < s.unplaced.length :=
        List.length_filter_lt_length_iff_exists.mpr
          ⟨p, List.mem_of_find?_eq_some hp, by simpa using List.find?_some hp⟩
      exact this

theorem placeAll_size {registry : Registry} {parent : PackageNode} {path : String}
    {s t : Placement} {children : List String} {next : List (PackageNode × String)}
    (h : s.placeAll registry parent path children = .ok (t, next)) :
    t.unplaced.length + next.length ≤ s.unplaced.length := by
  induction children generalizing s t next with
  | nil =>
    cases h
    simp
  | cons child rest ih =>
    rw [placeAll] at h
    match hp : s.place registry parent path child with
    | .error e => rw [hp] at h; cases h
    | .ok (u, first) =>
      rw [hp] at h
      change (do let (s, later) ← u.placeAll registry parent path rest; pure (s, first ++ later)) = _ at h
      match hr : u.placeAll registry parent path rest with
      | .error e => rw [hr] at h; cases h
      | .ok (v, later) =>
        rw [hr] at h
        cases h
        have h₁ := place_size hp
        have h₂ := ih hr
        simp only [List.length_append]
        omega

/-- Goes on with the packages that wait, in the order in which they were found. -/
def walk (registry : Registry) (s : Placement) :
    List (PackageNode × String) → Except Rejection Placement
  | [] => .ok s
  | (p, path) :: waiting =>
    match _h : s.placeAll registry p path (registry.diagram.childrenOf p) with
    | .error e => .error e
    | .ok (t, next) => walk registry t (waiting ++ next)
termination_by waiting => s.unplaced.length + waiting.length
decreasing_by
  have := placeAll_size _h
  simp only [List.length_append, List.length_cons]
  omega

/-- The paths of all packages and classes that a root reaches. -/
def ofRegistry (registry : Registry) : Except Rejection Placement := do
  let d := registry.diagram
  verdict (d.packages.flatMap (PackageNode.parentViolations registry) ++
    d.classes.flatMap (ClassNode.ownerViolations registry))
  walk registry (start d) (d.roots.map (fun p => (p, p.name)))

end Placement

end ClassScaffold
