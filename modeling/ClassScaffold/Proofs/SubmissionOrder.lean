import ClassScaffold.Proofs.Sources
import ClassScaffold.Proofs.Resolution.Reordering

/-! The order in which classes, packages and children are submitted decides neither whether sources
are generated nor what they are. -/
namespace ClassScaffold

/-- Pairs with distinct ids are put in order in one way. -/
theorem Sources.ofPairs_of_perm {pairs others : List (String × String)} (hp : pairs.Perm others)
    (hn : (pairs.map Prod.fst).Nodup) : Sources.ofPairs pairs = Sources.ofPairs others := by
  have hperm : (Sources.ofPairs pairs).Perm (Sources.ofPairs others) :=
    (perm_ofPairs pairs).trans (hp.trans (perm_ofPairs others).symm)
  refine List.Perm.eq_of_pairwise (fun a b ha hb hab hba => ?_) (pairwise_ofPairs pairs)
    (pairwise_ofPairs others) hperm
  have ham : a ∈ pairs := (perm_ofPairs pairs).mem_iff.mp ha
  have hbm : b ∈ pairs := hp.mem_iff.mpr ((perm_ofPairs others).mem_iff.mp hb)
  exact List.inj_on_of_nodup_map hn ham hbm (String.le_antisymm hab hba)

/-- A model of the same classes in another order has the same sources. -/
theorem Model.sources_of_perm {engine : TemplateEngine} {skeletons : SkeletonSet} {m m' : Model}
    {sources : Sources} (ht : m'.target = m.target) (hp : m.classes.Perm m'.classes)
    (hn : (m.classes.map (·.id)).Nodup) (h : m.sources engine skeletons = .ok sources) :
    m'.sources engine skeletons = .ok sources := by
  obtain ⟨writer, hw, h⟩ := bind_eq_ok_iff.mp h
  obtain ⟨pairs, hpairs, h⟩ := bind_eq_ok_iff.mp h
  cases h
  obtain ⟨pairs', hpairs', hperm⟩ := mapM_ok_of_perm hp hpairs
  have hids : (pairs.map Prod.fst).Nodup := ModelClass.ids_of_sources hpairs ▸ hn
  rw [Sources.ofPairs_of_perm hperm.symm hids]
  exact bind_eq_ok_iff.mpr ⟨writer, ht ▸ hw, bind_eq_ok_iff.mpr ⟨pairs', hpairs', rfl⟩⟩

namespace Diagram

theorem Reordered.generate_ok {d e : Diagram} (h : d.Reordered e) {engine : TemplateEngine}
    {skeletons : SkeletonSet} {sources : Sources} (hg : d.generate engine skeletons = .ok sources) :
    e.generate engine skeletons = .ok sources := by
  obtain ⟨m, ha, hs⟩ := bind_eq_ok_iff.mp hg
  obtain ⟨hn, m', ha', ht, hp⟩ := h.accept (mapError_eq_ok_iff.mp ha)
  exact bind_eq_ok_iff.mpr ⟨m', mapError_eq_ok_iff.mpr ha', m.sources_of_perm ht hp hn hs⟩

/-- Whatever the template engine and the skeletons are, diagrams that differ in order only fail
together, and where they do not fail they have the same sources. -/
theorem generate_of_reordered {d e : Diagram} (h : d.Reordered e) (engine : TemplateEngine)
    (skeletons : SkeletonSet) :
    ((∃ fault, d.generate engine skeletons = .error fault) ↔
        ∃ fault, e.generate engine skeletons = .error fault) ∧
      ∀ sources others, d.generate engine skeletons = .ok sources →
        e.generate engine skeletons = .ok others → sources = others := by
  refine ⟨⟨fun ⟨fault, hd⟩ => ?_, fun ⟨fault, he⟩ => ?_⟩, fun sources others hd he => ?_⟩
  · cases hg : e.generate engine skeletons with
    | error fault' => exact ⟨fault', rfl⟩
    | ok sources => cases hd.symm.trans (h.symm.generate_ok hg)
  · cases hg : d.generate engine skeletons with
    | error fault' => exact ⟨fault', rfl⟩
    | ok sources => cases he.symm.trans (h.generate_ok hg)
  · exact Except.ok.inj ((h.generate_ok hd).symm.trans he)

/-- Two packages and two classes, one of which implements the other. -/
def shelf : Diagram where
  target := .java
  classes := [{ id := "c", parents := [{ id := "i" }], body := { name := "Book" } },
    { id := "i", isInterface := true, body := { name := "Item" } }]
  packages := [{ id := "o", body := { name := "outer", children := ["p", "c"] } },
    { id := "p", parentId := "o", body := { name := "inner", children := ["i"] } }]

/-- The same shelf from its other end. -/
def turnedShelf : Diagram where
  target := .java
  classes := [{ id := "i", isInterface := true, body := { name := "Item" } },
    { id := "c", parents := [{ id := "i" }], body := { name := "Book" } }]
  packages := [{ id := "p", parentId := "o", body := { name := "inner", children := ["i"] } },
    { id := "o", body := { name := "outer", children := ["c", "p"] } }]

theorem generate_turnedShelf :
    shelf.Reordered turnedShelf ∧
      ∃ sources, shelf.generate Skeleton.engine Target.java.bundledSkeletons = .ok sources ∧
        turnedShelf.generate Skeleton.engine Target.java.bundledSkeletons = .ok sources := by
  have hr : shelf.Reordered turnedShelf := by
    refine ⟨rfl, by decide, [shelf.packages[1], shelf.packages[0]], by decide, ?_⟩
    exact .cons ⟨["i"], by decide, rfl⟩ (.cons ⟨["c", "p"], by decide, rfl⟩ .nil)
  have hok : shelf.accept.toBool = true ∧ turnedShelf.accept.toBool = true := by decide +kernel
  obtain ⟨m, hm⟩ := exists_ok_of_toBool hok.1
  obtain ⟨m', hm'⟩ := exists_ok_of_toBool hok.2
  obtain ⟨sources, hs⟩ := generate_bundled_ok hm
  obtain ⟨others, ho⟩ := generate_bundled_ok hm'
  obtain rfl :=
    (generate_of_reordered hr Skeleton.engine Target.java.bundledSkeletons).2 sources others hs ho
  exact ⟨hr, sources, hs, ho⟩

end Diagram

end ClassScaffold
