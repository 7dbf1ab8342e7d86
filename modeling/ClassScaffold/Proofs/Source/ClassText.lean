import ClassScaffold.Proofs.Skeleton.Bundled
import ClassScaffold.Source.ClassText

/-! Writing a class: what skeletons are given has the shapes that they rely on, so that every class
has a source. -/
namespace ClassScaffold

open Shape

theorem ParameterText.fits (v : ParameterText) : Shape.parameter.Fits v.toJson :=
  fits_plainRecord (by decide) rfl

theorem Initializer.fits (v : Initializer) : Shape.initializer.Fits v.toJson :=
  fits_plainRecord (by decide) rfl

theorem PropertyText.fits (v : PropertyText) : Shape.property.Fits v.toJson := by
  have hp := fits_list ParameterText.fits v.setterParameters
  refine fits_record (by decide) ?_
  simp [FieldFits, fits_plain, hp]

theorem MethodText.fits (v : MethodText) : Shape.method.Fits v.toJson := by
  have hp := fits_list ParameterText.fits v.parameters
  refine fits_record (by decide) ?_
  simp [FieldFits, fits_plain, hp]

theorem ConstructorText.fits (v : ConstructorText) : Shape.constructor.Fits v.toJson := by
  have hp := fits_list ParameterText.fits v.parameters
  have hi := fits_list Initializer.fits v.initializers
  have hb := fits_texts v.body
  refine fits_record (by decide) ?_
  simp [FieldFits, fits_plain, hp, hi, hb]

namespace ModelClass

theorem memberAttributes_fit (target : Target) (c : ModelClass) :
    List.Forall₂ FieldFits memberFields (c.memberAttributes target) := by
  simp [memberFields, memberAttributes, FieldFits, fits_plain, fits_texts,
    fits_list PropertyText.fits, fits_list MethodText.fits]

theorem parentAttributes_fit (target : Target) (c : ModelClass) :
    List.Forall₂ FieldFits (parentFields target) (c.parentAttributes target) := by
  cases target <;> simp [parentFields, parentAttributes, FieldFits, fits_texts]

theorem constructorAttribute_fits (constructors : List ConstructorText) :
    FieldFits ("Constructors", .list Shape.constructor) (constructorAttribute constructors) :=
  ⟨rfl, fits_list ConstructorText.fits constructors⟩

end ModelClass

namespace Fragment

private theorem idiom_ok {group : Skeleton.Group Skeleton.engine} (hg : group.Suits memoryParts)
    {name : String} {attributes : List (String × Json)}
    (hm : (name, Shape.plainRecord (attributes.map Prod.fst)) ∈ memoryParts)
    (hn : (attributes.map Prod.fst).Nodup) : ∃ text, idiom group name attributes = .ok text := by
  obtain ⟨text, ht⟩ := hg.render hm (fits_plainRecord hn rfl)
  have hs := hg.start (List.mem_map_of_mem hm)
  exact ⟨Text.closed text, by simp only [idiom, hs, ht, bind, Except.bind]; rfl⟩

mutual

theorem code_ok {group : Skeleton.Group Skeleton.engine} (hg : group.Suits memoryParts) :
    ∀ f : Fragment, ∃ text, code group f = .ok text
  | .assign target source => ⟨_, rfl⟩
  | .allocate pointer type => idiom_ok hg (by simp [memoryParts]) (by simp)
  | .allocateThenIterate pointer type index length body => by
    have hs : group.start "allocateThenIterate" = .ok ⟨group, _, []⟩ := hg.start (by decide)
    obtain ⟨contents, hc⟩ := codeOf_ok hg body
    simp only [code, hs, hc, bind, Except.bind]
    exact idiom_ok hg (by simp [memoryParts]) (by simp)
  | .iterate index length body => by
    have hs : group.start "iterateArray" = .ok ⟨group, _, []⟩ := hg.start (by decide)
    obtain ⟨contents, hc⟩ := codeOf_ok hg body
    simp only [code, hs, hc, bind, Except.bind]
    exact idiom_ok hg (by simp [memoryParts]) (by simp)
  | .iterateThenDelete pointer index length body => by
    have hs : group.start "iterateThenDelete" = .ok ⟨group, _, []⟩ := hg.start (by decide)
    obtain ⟨contents, hc⟩ := codeOf_ok hg body
    simp only [code, hs, hc, bind, Except.bind]
    exact idiom_ok hg (by simp [memoryParts]) (by simp)
  | .delete pointer isArray => idiom_ok hg (by simp [memoryParts]) (by simp)

theorem codeOf_ok {group : Skeleton.Group Skeleton.engine} (hg : group.Suits memoryParts) :
    ∀ fs : List Fragment, ∃ text, codeOf group fs = .ok text
  | [] => ⟨_, rfl⟩
  | f :: rest => by
    obtain ⟨first, hf⟩ := code_ok hg f
    obtain ⟨others, ho⟩ := codeOf_ok hg rest
    exact ⟨first ++ others, by simp only [codeOf, hf, ho, bind, Except.bind]; rfl⟩

end

end Fragment

namespace ModelClass

section Native
variable {classes memory : Skeleton.Group Skeleton.engine} (hc : classes.Suits (classParts .cpp))
  (hm : memory.Suits memoryParts) (c : ModelClass)

include hm in
private theorem nativeConstructors_ok : ∃ texts, c.nativeConstructors memory = .ok texts := by
  unfold nativeConstructors
  split
  · obtain ⟨body, hb⟩ := Fragment.codeOf_ok hm c.copyBody
    exact ⟨_, by rw [hb]; rfl⟩
  · exact ⟨_, rfl⟩

include hc hm in
private theorem copyAssignOperator_ok (release : String) :
    ∃ text, c.copyAssignOperator classes memory release = .ok text := by
  unfold copyAssignOperator
  split
  · have hp : ("copyAssignOperator", Shape.copyAssignOperator) ∈ classParts .cpp := by
      simp [classParts, Target.managesMemory]
    have hs := hc.start (List.mem_map_of_mem hp)
    obtain ⟨body, hb⟩ := Fragment.codeOf_ok hm c.copyBody
    simp only [hs, hb, bind, Except.bind]
    refine hc.render hp (fits_record (by decide) ?_)
    simp [FieldFits, fits_plain, fits_texts]
  · exact ⟨_, rfl⟩

include hc hm in
private theorem ownershipAttributes_ok :
    ∃ own, c.ownershipAttributes classes memory = .ok own ∧
      List.Forall₂ FieldFits (ownFields .cpp) own := by
  obtain ⟨release, hr⟩ := Fragment.codeOf_ok hm c.releaseBody
  obtain ⟨constructors, hk⟩ := c.nativeConstructors_ok hm
  obtain ⟨assignment, ha⟩ := c.copyAssignOperator_ok hc hm release
  refine ⟨_, by simp only [ownershipAttributes, hr, hk, ha, bind, Except.bind]; rfl, ?_⟩
  exact .cons (constructorAttribute_fits constructors) (by simp [FieldFits, fits_plain, fits_texts])

end Native

private theorem inNamespace_ok {target : Target} {classes : Skeleton.Group Skeleton.engine}
    (hc : classes.Suits (classParts target)) (c : ModelClass) (code : String) :
    ∃ text, c.inNamespace classes code = .ok text := by
  have hp : ("namespace", Shape.namespacePart) ∈ classParts target := by simp [classParts]
  have hs := hc.start (List.mem_map_of_mem hp)
  unfold inNamespace
  split
  · exact ⟨_, rfl⟩
  · simp only [hs, bind, Except.bind]
    exact hc.render hp (fits_plainRecord (by decide) rfl)

/-- The part of a class renders with the attributes of an interface, or with more of them. -/
private theorem render_class {target : Target} {classes : Skeleton.Group Skeleton.engine}
    (hc : classes.Suits (classParts target)) (c : ModelClass) {own : List (String × Json)}
    (ho : List.Forall₂ FieldFits (if c.isInterface then [] else ownFields target) own) :
    ∃ part code, classes.start c.instanceName = .ok part ∧
      (part.bindAll (c.memberAttributes target ++ c.parentAttributes target ++ own)).render =
        .ok code := by
  have hshared : List.Forall₂ FieldFits (memberFields ++ parentFields target)
      (c.memberAttributes target ++ c.parentAttributes target) :=
    List.rel_append (c.memberAttributes_fit target) (c.parentAttributes_fit target)
  cases hi : c.isInterface with
  | true =>
    have hp : (c.instanceName, Shape.interface target) ∈ classParts target := by
      simp [instanceName, hi, classParts]
    rw [hi, if_pos rfl, List.forall₂_nil_left_iff] at ho
    subst ho
    obtain ⟨code, hcode⟩ := hc.render hp (fits_record (by cases target <;> decide) hshared)
    exact ⟨_, code, hc.start (List.mem_map_of_mem hp), by rwa [List.append_nil]⟩
  | false =>
    have hp : (c.instanceName, Shape.cls target) ∈ classParts target := by
      simp [instanceName, hi, classParts]
    rw [hi, if_neg Bool.false_ne_true] at ho
    obtain ⟨code, hcode⟩ := hc.render hp
      (fits_record (by cases target <;> decide) (List.rel_append hshared ho))
    exact ⟨_, code, hc.start (List.mem_map_of_mem hp), hcode⟩

theorem writeNative_ok {classes memory : Skeleton.Group Skeleton.engine}
    (hc : classes.Suits (classParts .cpp)) (hm : memory.Suits memoryParts) (c : ModelClass) :
    ∃ text, c.writeNative classes memory = .ok text := by
  obtain ⟨own, hown, hfit⟩ : ∃ own,
      (if c.isInterface then pure [] else c.ownershipAttributes classes memory) = .ok own ∧
        List.Forall₂ FieldFits (if c.isInterface then [] else ownFields .cpp) own := by
    split
    · exact ⟨[], rfl, .nil⟩
    · exact c.ownershipAttributes_ok hc hm
  obtain ⟨part, code, hp, hcode⟩ := render_class hc c hfit
  obtain ⟨text, ht⟩ := inNamespace_ok hc c code
  refine ⟨text, ?_⟩
  cases hi : c.isInterface with
  | true =>
    rw [hi] at hown
    cases hown
    simpa only [writeNative, hp, hi, if_true, hcode, bind, Except.bind, pure, Except.pure] using ht
  | false =>
    rw [hi, if_neg Bool.false_ne_true] at hown
    simpa only [writeNative, hp, hi, Bool.false_eq_true, if_false, hown, hcode, bind, Except.bind]
      using ht

theorem writeManaged_ok {target : Target} {classes : Skeleton.Group Skeleton.engine}
    (hc : classes.Suits (classParts target)) (ht : ¬ target.managesMemory) (c : ModelClass) :
    ∃ text, c.writeManaged target classes = .ok text := by
  have hfit : List.Forall₂ FieldFits (if c.isInterface then [] else ownFields target)
      (c.managedAttributes target) := by
    unfold managedAttributes
    split
    · exact .nil
    · cases target with
      | cpp => exact absurd rfl ht
      | csharp | java => exact .cons (constructorAttribute_fits _) .nil
  obtain ⟨part, code, hp, hcode⟩ := render_class hc c hfit
  obtain ⟨text, ht⟩ := inNamespace_ok hc c code
  exact ⟨text, by simp only [writeManaged, hp, hcode, ht, bind, Except.bind]⟩

end ModelClass

namespace Target

/-- The writer of a target for other skeletons than the bundled ones. -/
def writerOf (target : Target) (classes memory : Skeleton) :
    ClassWriter Skeleton.engine :=
  let group := Skeleton.Group.ofSkeleton target.groupName target.instances classes
  match target with
  | .cpp => .native group (.ofSkeleton Skeleton.memoryGroupName Skeleton.memoryInstances memory)
  | .csharp => .csharp group
  | .java => .java group

/-- With skeletons that suit what they are given, every class can be written. -/
theorem write_writerOf_ok (target : Target) {classes memory : Skeleton}
    (hc : classes.suits (classParts target)) (hm : memory.suits memoryParts) (c : ModelClass) :
    ∃ text, (target.writerOf classes memory).write c = .ok text := by
  have hgroup : (Skeleton.Group.ofSkeleton target.groupName target.instances classes).Suits
      (classParts target) :=
    Skeleton.Group.suits_ofSkeleton (by cases target <;> rfl) hc _
  cases target with
  | cpp => exact c.writeNative_ok hgroup (Skeleton.Group.suits_ofSkeleton rfl hm _)
  | csharp | java => exact c.writeManaged_ok hgroup (by decide)

end Target

end ClassScaffold
