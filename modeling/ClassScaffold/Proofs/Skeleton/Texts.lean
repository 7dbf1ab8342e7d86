import ClassScaffold.Proofs.Basic
import ClassScaffold.Skeleton.Choice
import ClassScaffold.Skeleton.Templates

namespace ClassScaffold

namespace Skeleton

theorem parse?_ofList (cs : List Char) : parse? (String.ofList cs) = ofChars? cs := by
  rw [parse?, String.toList_ofList]

section Bundled

-- A text is told apart from the list of its characters by unification, one character a step.
set_option maxRecDepth 100000

theorem parse?_bundledText (target : Target) :
    parse? target.bundledText = some target.bundledSkeleton := by
  cases target with
  | cpp | csharp | java =>
    refine (parse?_ofList _).trans ?_
    decide +kernel

theorem parse?_memory : parse? Memory.text = some Memory.skeleton := by
  refine (parse?_ofList _).trans ?_
  decide +kernel

end Bundled

namespace Group
variable {name text : String} {instances : List String} {skeleton : Skeleton}

/-- A text that spells a skeleton gives its group, if the parts have names that entries can call. -/
theorem ofText_eq_ofSkeleton (hs : parse? text = some skeleton)
    (he : ∀ part ∈ instances, Templates.readEntry name (entryText name part) = some (entry part)) :
    ofText engine name text instances = .ok (ofSkeleton name instances skeleton) := by
  have hentries : (instances.map fun part => (entryName name part, entryText name part)).mapM
      (Templates.buildEntry name) =
        .ok (instances.map fun part => (entryName name part, entry part)) := by
    rw [mapM_eq_ok_iff, List.forall₂_map_left_iff, List.forall₂_map_right_iff, List.forall₂_same]
    intro part hpart
    rw [Templates.buildEntry, he part hpart]
    rfl
  have hbuild : engine.build (texts name text instances) =
      .ok ⟨skeleton, instances.map fun part => (entryName name part, entry part)⟩ := by
    change Templates.build (texts name text instances) = _
    rw [texts, Templates.build, hs, hentries]
    rfl
  rw [ofText, hbuild]
  rfl

end Group

theorem classGroup_bundled (target : Target) :
    SkeletonChoice.bundled.classGroup engine target =
      .ok (.ofSkeleton target.groupName target.instances target.bundledSkeleton) := by
  refine Group.ofText_eq_ofSkeleton (parse?_bundledText target) ?_
  cases target <;> decide +kernel

theorem memoryGroup_bundled :
    SkeletonChoice.bundled.memoryGroup engine =
      .ok (.ofSkeleton memoryGroupName memoryInstances Memory.skeleton) :=
  Group.ofText_eq_ofSkeleton parse?_memory (by decide +kernel)

end Skeleton

end ClassScaffold
