import Mathlib
import ClassScaffold.Proofs.Resolution.Paths

/-! Packages that claim a class. At most one of those that a root reaches does, and from it the class
has its path. Packages that no root reaches are not compared with others. -/
namespace ClassScaffold

namespace ClassNode

/-- A package claims the classes that it lists, and those that name it as theirs. -/
def ClaimedBy (c : ClassNode) (p : PackageNode) : Prop :=
  c.id ∈ p.body.children ∨ c.packageId = some p.id

instance (c : ClassNode) (p : PackageNode) : Decidable (c.ClaimedBy p) :=
  inferInstanceAs (Decidable (_ ∨ _))

end ClassNode

namespace Diagram
variable {d : Diagram} {c : ClassNode} {p q : PackageNode}

/-- The packages that claim a class. One that lists a class and is named by it claims it once. -/
def claimants (d : Diagram) (c : ClassNode) : List PackageNode :=
  d.packages.filter fun p => decide (c.ClaimedBy p)

@[simp] theorem mem_claimants : p ∈ d.claimants c ↔ p ∈ d.packages ∧ c.ClaimedBy p := by
  simp [claimants]

section Ids
variable (hn : d.nodeIds.Nodup)
include hn

theorem isChild_iff_claimedBy (hc : c ∈ d.classes) : d.IsChild p c.id ↔ c.ClaimedBy p := by
  apply or_congr Iff.rfl
  constructor
  · rintro ⟨e, he, hid, hp⟩
    rwa [class_eq_of_id hn he hc hid] at hp
  · intro hp
    exact ⟨c, hc, rfl, hp⟩

theorem nodup_claimants (c : ClassNode) : (d.claimants c).Nodup := by
  have hids : (d.packages.map (·.id)).Nodup := (List.nodup_append.mp hn).2.1
  exact (List.Nodup.of_map _ hids).filter _

/-- In a forest a class has one claimant that a root reaches. -/
theorem IsForest.claimant_eq (hf : d.IsForest) (hc : c ∈ d.classes) (hp : c.ClaimedBy p)
    (hq : c.ClaimedBy q) (hr : d.Reachable p) (hs : d.Reachable q) : p = q := by
  have hid : c.id ∈ d.nodeIds := mem_nodeIds.mpr (.inl ⟨c, hc, rfl⟩)
  apply hf.single p q hr hs c.id hid
  · exact (isChild_iff_claimedBy hn hc).mpr hp
  · exact (isChild_iff_claimedBy hn hc).mpr hq

/-- No rival is left exactly if no claimant that no root reaches has one. -/
theorem IsForest.length_claimants_le_one_iff (hf : d.IsForest) (hc : c ∈ d.classes) :
    (d.claimants c).length ≤ 1 ↔ ∀ p ∈ d.claimants c, ¬ d.Reachable p → d.claimants c = [p] := by
  constructor
  · intro hlength p hp _
    obtain ⟨q, hq⟩ := List.length_eq_one_iff.mp
      (Nat.le_antisymm hlength (List.length_pos_of_mem hp))
    rw [hq] at hp ⊢
    rw [List.mem_singleton.mp hp]
  · intro hrest
    by_contra hlength
    obtain ⟨p, hp, q, hq, hne⟩ : ∃ p ∈ d.claimants c, ∃ q ∈ d.claimants c, p ≠ q := by
      match hl : d.claimants c, nodup_claimants hn c with
      | [], _ | [_], _ => simp [hl] at hlength
      | p :: q :: rest, hnd =>
        refine ⟨p, List.mem_cons_self, q, by simp, ?_⟩
        rintro rfl
        simp at hnd
    -- of two claimants a root reaches not both, and the other one stands alone
    have hreached : ∀ r ∈ d.claimants c, d.Reachable r := by
      intro r hr
      by_contra hstray
      rw [hrest r hr hstray, List.length_singleton] at hlength
      exact hlength (Nat.le_refl 1)
    exact hne (hf.claimant_eq hn hc (mem_claimants.mp hp).2 (mem_claimants.mp hq).2
      (hreached p hp) (hreached q hq))

end Ids

/-- At most one of the packages that claim a class has a path of its own, and the class has a path
exactly if one of them does. At most one package in all claims each class exactly if none without a
path claims a class together with another one. -/
theorem claimants_of_resolve {m : Model} (h : d.resolve = .ok m) :
    List.Forall₂ (fun p q => q.id = p.id ∧ (q.path.isSome ↔ d.Reachable p))
        d.packages m.packages ∧
      List.Forall₂ (fun c e => e.id = c.id ∧
        (e.packagePath.isSome ↔ ∃ p ∈ d.claimants c, d.Reachable p)) d.classes m.classes ∧
      (∀ c ∈ d.classes, ∀ p ∈ d.claimants c, ∀ q ∈ d.claimants c,
        d.Reachable p → d.Reachable q → p = q) ∧
      ((∀ c ∈ d.classes, (d.claimants c).length ≤ 1) ↔
        ∀ c ∈ d.classes, ∀ p ∈ d.claimants c, ¬ d.Reachable p → d.claimants c = [p]) := by
  obtain ⟨hn, hf, all, hw, rfl⟩ := walked_of_resolve h
  refine ⟨?_, ?_, ?_, ?_⟩
  · apply forall₂_map_self
    intro p hp
    refine ⟨rfl, ?_, ?_⟩
    · intro hpath
      by_contra hr
      rw [hw.path_of_not_reachable hn hp hr] at hpath
      cases hpath
    · rintro ⟨ps, hc⟩
      rw [hw.path_of_chain hn hc, Option.isSome_some]
  · apply forall₂_map_self
    intro c hc
    rw [Option.isSome_iff_exists]
    simp only [hw.packagePath_eq_some_iff hn hc]
    refine ⟨rfl, ?_, ?_⟩
    · rintro ⟨path, ps, p, hchain, hch, _⟩
      exact ⟨p, mem_claimants.mpr ⟨hchain.mem, (isChild_iff_claimedBy hn hc).mp hch⟩, ps, hchain⟩
    · rintro ⟨p, hp, ps, hchain⟩
      exact ⟨_, ps, p, hchain, (isChild_iff_claimedBy hn hc).mpr (mem_claimants.mp hp).2, rfl⟩
  · intro c hc p hp q hq
    exact hf.claimant_eq hn hc (mem_claimants.mp hp).2 (mem_claimants.mp hq).2
  · exact forall₂_congr fun c hc => hf.length_claimants_le_one_iff hn hc

/-- A class that the package lists that it names, and another one in a package that no root reaches. -/
def annex : Diagram where
  target := .cpp
  packages := [{ id := "o", body := { name := "outer", children := ["c"] } },
    { id := "s", parentId := "o", body := { name := "annex", children := ["e"] } }]
  classes := [{ id := "c", packageId := some "o", body := { name := "Widget" } },
    { id := "e", body := { name := "Spare" } }]

theorem claimants_of_resolve_annex :
    ∃ m, annex.resolve = .ok m ∧ (m.classes.map (·.packagePath)) = [some "outer", none] ∧
      ∀ c ∈ annex.classes, (annex.claimants c).length ≤ 1 := by
  obtain ⟨m, hm, hpaths⟩ : ∃ m, annex.resolve = .ok m ∧
      (m.classes.map (·.packagePath)) = [some "outer", none] :=
    ⟨_, by cbv, by cbv⟩
  obtain ⟨-, -, -, hunique⟩ := claimants_of_resolve hm
  have halone : ∀ c ∈ annex.classes, ∀ p ∈ annex.claimants c, annex.claimants c = [p] := by decide
  exact ⟨m, hm, hpaths, hunique.mpr fun c hc p hp _ => halone c hc p hp⟩

/-- A class that one package lists and that names another one, which no root reaches. -/
def strayOwner : Diagram where
  target := .java
  packages := [{ id := "o", body := { name := "outer", children := ["c"] } },
    { id := "s", parentId := "o", body := { name := "stray" } }]
  classes := [{ id := "c", packageId := some "s", body := { name := "Widget" } }]

/-- Two packages claim the class, and nothing is refused. -/
theorem strayOwner_shares :
    ¬ ∀ (d : Diagram) (m : Model), d.resolve = .ok m →
      ∀ c ∈ d.classes, (d.claimants c).length ≤ 1 := by
  intro hall
  have hok : strayOwner.resolve.toBool = true := by decide +kernel
  obtain ⟨m, hm⟩ := exists_ok_of_toBool hok
  have hlength := hall strayOwner m hm _ List.mem_cons_self
  exact absurd hlength (by decide)

end Diagram

end ClassScaffold
