import ClassScaffold.Proofs.Generation

/-! Sources of a diagram: one for every class, or none. -/
namespace ClassScaffold

namespace Sources

theorem perm_ofPairs (pairs : List (String × String)) : (ofPairs pairs).Perm pairs :=
  List.mergeSort_perm _ _

theorem pairwise_ofPairs (pairs : List (String × String)) :
    (ofPairs pairs).Pairwise fun a b => a.1 ≤ b.1 := by
  have h : (ofPairs pairs).Pairwise fun a b => decide (a.1 ≤ b.1) = true := by
    refine List.pairwise_mergeSort (fun a b c hab hbc => ?_) (fun a b => ?_) pairs
    · simp only [decide_eq_true_eq] at hab hbc ⊢
      exact String.le_trans hab hbc
    · simpa using String.le_total a.1 b.1
  exact h.imp of_decide_eq_true

/-- The sources have the ids of the classes as their keys, each once, and under each id the text that
is written for its class. -/
structure Covers {engine : TemplateEngine} (sources : Sources) (writer : ClassWriter engine)
    (d : Diagram) (m : Model) : Prop where
  distinct : (sources.map Prod.fst).Nodup
  keys : (sources.map Prod.fst).Perm (d.classes.map (·.id))
  texts : List.Forall₂ (fun node c => c.id = node.id ∧ c.name = node.name ∧
    ∃ text, writer.write c = .ok text ∧ sources.lookup node.id = some text) d.classes m.classes

end Sources

namespace ModelClass
variable {engine : TemplateEngine} {writer : ClassWriter engine} {c : ModelClass}

theorem source_eq_ok_iff {pair : String × String} :
    c.source writer = .ok pair ↔ pair.1 = c.id ∧ writer.write c = .ok pair.2 := by
  obtain ⟨id, text⟩ := pair
  unfold source
  cases writer.write c <;> simp [eq_comm]

theorem source_eq_error_iff {g : GenerationFault} :
    c.source writer = .error g ↔
      ∃ fault, writer.write c = .error fault ∧ g = .unrendered c.name fault := by
  unfold source
  cases writer.write c <;> simp [eq_comm]

/-- Sources go by the ids of the classes. -/
theorem ids_of_sources {classes : List ModelClass} {pairs : List (String × String)}
    (h : classes.mapM (source writer) = .ok pairs) : pairs.map Prod.fst = classes.map (·.id) :=
  (map_eq_of_forall₂ (mapM_eq_ok_iff.mp h) fun _ _ hc => (source_eq_ok_iff.mp hc).1.symm).symm

end ModelClass

namespace Model
variable {engine : TemplateEngine} {skeletons : SkeletonSet} {writer : ClassWriter engine} {m : Model}

theorem sources_eq_ok_iff (hw : skeletons.writer engine m.target = .ok writer) {s : Sources} :
    m.sources engine skeletons = .ok s ↔
      ∃ pairs, m.classes.mapM (ModelClass.source writer) = .ok pairs ∧ s = .ofPairs pairs := by
  rw [sources, hw]
  change (do return Sources.ofPairs (← m.classes.mapM (ModelClass.source writer))) = _ ↔ _
  rw [bind_eq_ok_iff]
  refine exists_congr fun pairs => and_congr_right fun _ => ?_
  exact ⟨fun h => (Except.ok.inj h).symm, fun h => congrArg _ h.symm⟩

theorem sources_eq_error_iff (hw : skeletons.writer engine m.target = .ok writer) {g : GenerationFault} :
    m.sources engine skeletons = .error g ↔ ∃ i c fault, m.classes[i]? = some c ∧
      (∀ b ∈ m.classes.take i, ∃ text, writer.write b = .ok text) ∧
      writer.write c = .error fault ∧ g = .unrendered c.name fault := by
  have hok (b : ModelClass) : (∃ pair, b.source writer = .ok pair) ↔
      ∃ text, writer.write b = .ok text := by
    simp only [ModelClass.source_eq_ok_iff]
    exact ⟨fun ⟨pair, _, ht⟩ => ⟨pair.2, ht⟩, fun ⟨text, ht⟩ => ⟨(b.id, text), rfl, ht⟩⟩
  have hsources : m.sources engine skeletons = .error g ↔
      m.classes.mapM (ModelClass.source writer) = .error g := by
    rw [sources, hw]
    change (do return Sources.ofPairs (← m.classes.mapM (ModelClass.source writer))) = _ ↔ _
    rw [bind_eq_error_iff]
    exact or_iff_left fun ⟨_, _, h⟩ => nomatch h
  rw [hsources, mapM_eq_error_iff]
  simp only [hok, ModelClass.source_eq_error_iff]
  constructor
  · rintro ⟨i, c, hc, hbefore, fault, hf, hg⟩
    exact ⟨i, c, fault, hc, hbefore, hf, hg⟩
  · rintro ⟨i, c, fault, hc, hbefore, hf, hg⟩
    exact ⟨i, c, hc, hbefore, fault, hf, hg⟩

end Model

namespace Diagram
variable {d : Diagram} {m : Model} {engine : TemplateEngine} {skeletons : SkeletonSet}

/-- A model has the classes of its diagram, in their order and under their ids and names. -/
theorem classes_of_accept (h : d.accept = .ok m) :
    ∃ resolved : ClassNode → ModelClass, m.classes = d.classes.map resolved ∧
      ∀ node, (resolved node).id = node.id ∧ (resolved node).name = node.name := by
  obtain ⟨_, _, placement, _, rfl⟩ := resolve_eq_ok_iff.mp (accept_eq_ok_iff.mp h).2
  exact ⟨ClassNode.toModel d.registry placement, rfl, fun _ => ⟨rfl, rfl⟩⟩

theorem generate_eq_of_accept (h : d.accept = .ok m) :
    d.generate engine skeletons = m.sources engine skeletons := by
  rw [generate, h]
  rfl

theorem exists_writer_of_generate {sources : Sources} (h : d.generate engine skeletons = .ok sources) :
    ∃ m writer, d.accept = .ok m ∧ skeletons.writer engine d.target = .ok writer := by
  obtain ⟨m, ha, hs⟩ := bind_eq_ok_iff.mp h
  have ha := mapError_eq_ok_iff.mp ha
  obtain ⟨writer, hw, _⟩ := bind_eq_ok_iff.mp hs
  exact ⟨m, writer, ha, target_of_accept ha ▸ hw⟩

section Covers
variable {writer : ClassWriter engine} (ha : d.accept = .ok m)
  (hw : skeletons.writer engine d.target = .ok writer)
include ha hw

theorem covers_of_generate {sources : Sources} (h : d.generate engine skeletons = .ok sources) :
    sources.Covers writer d m := by
  rw [← target_of_accept ha] at hw
  rw [generate_eq_of_accept ha, Model.sources_eq_ok_iff hw] at h
  obtain ⟨pairs, hpairs, rfl⟩ := h
  obtain ⟨resolved, hclasses, hsame⟩ := classes_of_accept ha
  have hkeys : pairs.map Prod.fst = d.classes.map (·.id) := by
    rw [ModelClass.ids_of_sources hpairs, hclasses, List.map_map]
    exact List.map_congr_left fun node _ => (hsame node).1
  have hperm := Sources.perm_ofPairs pairs
  have hn := (resolve_eq_ok_iff.mp (accept_eq_ok_iff.mp ha).2).1
  have hdistinct : ((Sources.ofPairs pairs).map Prod.fst).Nodup :=
    (hperm.map _).nodup_iff.mpr (hkeys ▸ (List.nodup_append.mp hn).1)
  refine ⟨hdistinct, hkeys ▸ hperm.map _, ?_⟩
  rw [hclasses, List.forall₂_map_right_iff]
  refine List.forall₂_same.mpr fun node hnode => ⟨(hsame node).1, (hsame node).2, ?_⟩
  have hm : resolved node ∈ m.classes := hclasses ▸ List.mem_map_of_mem hnode
  obtain ⟨⟨id, text⟩, hpair, hs⟩ := exists_of_forall₂ (mapM_eq_ok_iff.mp hpairs) hm
  obtain ⟨hid, ht⟩ := ModelClass.source_eq_ok_iff.mp hs
  refine ⟨text, ht, (lookup_eq_some_iff_mem hdistinct).mpr (hperm.mem_iff.mpr ?_)⟩
  rwa [← (hsame node).1, ← hid]

theorem generate_eq_error_iff {g : GenerationFault} :
    d.generate engine skeletons = .error g ↔ ∃ i node c fault, d.classes[i]? = some node ∧
      m.classes[i]? = some c ∧ (∀ b ∈ m.classes.take i, ∃ text, writer.write b = .ok text) ∧
      writer.write c = .error fault ∧ g = .unrendered node.name fault := by
  rw [← target_of_accept ha] at hw
  obtain ⟨resolved, hclasses, hsame⟩ := classes_of_accept ha
  rw [generate_eq_of_accept ha, Model.sources_eq_error_iff hw]
  constructor
  · rintro ⟨i, c, fault, hc, hbefore, hf, rfl⟩
    rw [hclasses, List.getElem?_map, Option.map_eq_some_iff] at hc
    obtain ⟨node, hnode, rfl⟩ := hc
    refine ⟨i, node, resolved node, fault, hnode, ?_, hbefore, hf, by rw [(hsame node).2]⟩
    rw [hclasses, List.getElem?_map, hnode, Option.map_some]
  · rintro ⟨i, node, c, fault, hnode, hc, hbefore, hf, rfl⟩
    refine ⟨i, c, fault, hc, hbefore, hf, ?_⟩
    rw [hclasses, List.getElem?_map, hnode, Option.map_some] at hc
    cases hc
    rw [(hsame node).2]

end Covers

theorem ids_ascending {sources : Sources} (h : d.generate engine skeletons = .ok sources) :
    (sources.map Prod.fst).Pairwise (· < ·) := by
  obtain ⟨m, writer, ha, hw⟩ := exists_writer_of_generate h
  have hdistinct := (covers_of_generate ha hw h).distinct
  rw [← target_of_accept ha] at hw
  rw [generate_eq_of_accept ha, Model.sources_eq_ok_iff hw] at h
  obtain ⟨pairs, -, rfl⟩ := h
  have hsorted := List.pairwise_map.mpr (Sources.pairwise_ofPairs pairs)
  refine (hsorted.and hdistinct).imp fun ⟨hle, hne⟩ => ?_
  exact Decidable.not_not.mp fun hlt => hne (String.le_antisymm hle (String.not_lt.mp hlt))

/-- The sources hold, under the id of a class, what is written for it as a walk placed it. -/
theorem lookup_of_generate {sources : Sources} (h : d.generate engine skeletons = .ok sources) :
    ∃ all writer, d.nodeIds.Nodup ∧ d.Walked all [] ∧ skeletons.writer engine d.target = .ok writer ∧
      ∀ node ∈ d.classes, ∃ text,
        writer.write (node.toModel d.registry (d.placementAfter (d.encountersOf all))) = .ok text ∧
          sources.lookup node.id = some text := by
  obtain ⟨m, writer, ha, hw⟩ := exists_writer_of_generate h
  have hcovers := covers_of_generate ha hw h
  obtain ⟨hn, _, all, hd, rfl⟩ := walked_of_resolve (accept_eq_ok_iff.mp ha).2
  have htexts := hcovers.texts
  rw [Registry.toModel, List.forall₂_map_right_iff] at htexts
  exact ⟨all, writer, hn, hd, hw, fun node hnode => (List.forall₂_same.mp htexts node hnode).2.2⟩

/-- Generating gives a source for every class of a diagram, or gives none. Where the diagram is accepted
and its skeletons can be read, there are sources exactly if all classes can be written. Otherwise the
fault is the one of the first class that cannot, and tells its name. -/
theorem generate_all_or_nothing (engine : TemplateEngine) (skeletons : SkeletonSet) (d : Diagram) :
    (∀ sources, d.generate engine skeletons = .ok sources → ∃ m writer, d.accept = .ok m ∧
        skeletons.writer engine d.target = .ok writer ∧ sources.Covers writer d m) ∧
      ∀ m writer, d.accept = .ok m → skeletons.writer engine d.target = .ok writer →
        ((∃ sources, d.generate engine skeletons = .ok sources) ↔
            ∀ c ∈ m.classes, ∃ text, writer.write c = .ok text) ∧
          ∀ g, d.generate engine skeletons = .error g ↔ ∃ i node c fault, d.classes[i]? = some node ∧
            m.classes[i]? = some c ∧ (∀ b ∈ m.classes.take i, ∃ text, writer.write b = .ok text) ∧
            writer.write c = .error fault ∧ g = .unrendered node.name fault := by
  refine ⟨fun sources h => ?_, fun m writer ha hw => ⟨⟨?_, fun hall => ?_⟩, fun g => ?_⟩⟩
  · obtain ⟨m, writer, ha, hw⟩ := exists_writer_of_generate h
    exact ⟨m, writer, ha, hw, covers_of_generate ha hw h⟩
  · rintro ⟨sources, h⟩ c hc
    obtain ⟨_, _, _, _, text, ht, _⟩ := exists_of_forall₂ (covers_of_generate ha hw h).texts.flip hc
    exact ⟨text, ht⟩
  · -- Nothing but a class that cannot be written is left to fail.
    cases hg : d.generate engine skeletons with
    | ok sources => exact ⟨sources, rfl⟩
    | error g =>
      obtain ⟨i, _, c, fault, _, hc, _, hf, _⟩ := (generate_eq_error_iff ha hw).mp hg
      obtain ⟨text, ht⟩ := hall c (List.mem_of_getElem? hc)
      cases ht.symm.trans hf
  · exact generate_eq_error_iff ha hw

/-- A class, an interface, and a class that implements it. -/
def figures : Diagram where
  target := .java
  classes := [{ id := "c", body := { name := "Circle" } },
    { id := "s", isInterface := true, body := { name := "Shape" } },
    { id := "a", parents := [{ id := "s" }], body := { name := "Square" } }]

/-- A skeleton that writes a class as its name, and has no part for interfaces. -/
def classNames : String :=
  "\x7b% macro class(a) %\x7d\x7b\x7b a.ClassName \x7d\x7d\x7b% endmacro %\x7d"

theorem generate_all_or_nothing_figures :
    (∃ sources, figures.generate Skeleton.engine Target.java.bundledSkeletons = .ok sources ∧
        (sources.map Prod.fst).Perm ["c", "s", "a"]) ∧
      ∃ reason, figures.generate Skeleton.engine ⟨.text classNames, none⟩ =
        .error (.unrendered "Shape" (.failedInstance "java" "interface" reason)) := by
  constructor
  · have hok : figures.accept.toBool = true := by decide +kernel
    obtain ⟨m, ha⟩ := exists_ok_of_toBool hok
    obtain ⟨sources, hs⟩ := generate_bundled_ok ha
    obtain ⟨_, _, _, _, hcovers⟩ := (generate_all_or_nothing _ _ figures).1 sources hs
    exact ⟨sources, hs, hcovers.keys⟩
  · -- What the group writes is evaluated together with reading it, so that no group is spelled out.
    obtain ⟨group, hgroup, hwritten⟩ := exists_ok_of_any
      (x := Skeleton.Group.ofText Skeleton.engine "java" classNames Target.java.instances)
      (p := fun group => decide ((figures.accept.map fun m =>
        m.classes.map (ClassWriter.java group).write) =
          .ok [.ok "Circle", .error (.failedInstance "java" "interface"
            "Failed to render 'java/interface'"), .ok "Square"])) (by decide +kernel)
    have hw : SkeletonSet.writer Skeleton.engine .java ⟨.text classNames, none⟩ =
        .ok (.java group) := by
      have hc : SkeletonChoice.classGroup Skeleton.engine .java (.text classNames) = .ok group :=
        hgroup
      simp only [SkeletonSet.writer, hc]
      rfl
    cases ha : figures.accept with
    | error rejection =>
      rw [ha] at hwritten
      cases of_decide_eq_true hwritten
    | ok m =>
      rw [ha] at hwritten
      have hm := Except.ok.inj (of_decide_eq_true hwritten)
      simp only [List.map_eq_cons_iff] at hm
      obtain ⟨circle, _, hclasses, hcircle, shape, _, rfl, hshape, _⟩ := hm
      refine ⟨_, (((generate_all_or_nothing _ _ figures).2 m _ ha hw).2 _).mpr
        ⟨1, figures.classes[1], shape, _, rfl, by rw [hclasses]; rfl, ?_, hshape, rfl⟩⟩
      rw [hclasses]
      exact List.forall_mem_singleton.mpr ⟨_, hcircle⟩

end Diagram

end ClassScaffold
