import Mathlib.Logic.Relation
import ClassScaffold.Proofs.Resolution.Lookup
import ClassScaffold.Resolution

/-! Interfaces of a class by recursive depth-first search. The walk with its list of waiting ids
meets the same interfaces in the same order: those that a chain of parent edges through interfaces
leads to, each once. -/
namespace ClassScaffold

namespace Diagram

abbrev Interface (d : Diagram) : Type :=
  {i : ClassNode // i ∈ d.interfaces}

def interface? (d : Diagram) (id : String) : Option d.Interface :=
  d.interfaces.attach.find? (fun i => i.1.id == id)

/-- The interfaces among the parents of a class, in the order of the parents. -/
def interfaceParents (d : Diagram) (node : ClassNode) : List d.Interface :=
  node.parentIds.filterMap d.interface?

def ExtendsInterface (d : Diagram) (node i : ClassNode) : Prop :=
  i ∈ d.interfaces ∧ i.id ∈ node.parentIds

def unseen (d : Diagram) (seen : List d.Interface) : List d.Interface :=
  d.interfaces.attach.filter (fun i => decide (i ∉ seen))

theorem length_unseen_lt {d : Diagram} {seen more : List d.Interface} {i : d.Interface}
    (hi : i ∉ seen) (hs : seen ++ [i] ⊆ more) : (d.unseen more).length < (d.unseen seen).length := by
  have hu : d.unseen more = (d.unseen seen).filter (fun j => decide (j ∉ more)) := by
    rw [unseen, unseen, List.filter_filter]
    refine List.filter_congr fun j _ => ?_
    have hj : j ∉ more → j ∉ seen := fun hm h => hm (hs (List.mem_append_left _ h))
    simpa using hj
  rw [hu]
  refine List.length_filter_lt_length_iff_exists.mpr ⟨i, ?_, ?_⟩
  · exact List.mem_filter.mpr ⟨List.mem_attach _ _, by simpa using hi⟩
  · simpa using hs (by simp)

/-- The interfaces that were seen, then those that a recursive search comes to from the given ones:
an interface before its parents, and its parents before the next one that is given. -/
def searchFrom (d : Diagram) (seen : List d.Interface) :
    List d.Interface → {found : List d.Interface // seen ⊆ found}
  | [] => ⟨seen, List.Subset.refl seen⟩
  | i :: rest =>
    if _h : i ∈ seen then d.searchFrom seen rest
    else
      match d.searchFrom (seen ++ [i]) (d.interfaceParents i.1) with
      | ⟨inner, _hi⟩ =>
        match d.searchFrom inner rest with
        | ⟨outer, ho⟩ => ⟨outer, fun _ hj => ho (_hi (List.mem_append_left _ hj))⟩
termination_by waiting => ((d.unseen seen).length, waiting.length)
decreasing_by
  · exact Prod.Lex.right _ (Nat.lt_succ_self _)
  · exact Prod.Lex.left _ _ (length_unseen_lt _h (List.Subset.refl _))
  · exact Prod.Lex.left _ _ (length_unseen_lt _h _hi)

def search (d : Diagram) (seen waiting : List d.Interface) : List d.Interface :=
  (d.searchFrom seen waiting).1

section Search
variable {d : Diagram} {seen : List d.Interface}

@[simp] theorem search_nil : d.search seen [] = seen := by
  rw [search, searchFrom]

theorem search_of_mem {i : d.Interface} (h : i ∈ seen) (rest : List d.Interface) :
    d.search seen (i :: rest) = d.search seen rest := by
  rw [search, searchFrom, dif_pos h]
  rfl

theorem search_of_not_mem {i : d.Interface} (h : i ∉ seen) (rest : List d.Interface) :
    d.search seen (i :: rest) =
      d.search (d.search (seen ++ [i]) (d.interfaceParents i.1)) rest := by
  rw [search, searchFrom, dif_neg h]
  rfl

/-- What holds of every step of a search holds of the search. -/
theorem search_induction {motive : List d.Interface → List d.Interface → List d.Interface → Prop}
    (done : ∀ seen, motive seen [] seen)
    (skip : ∀ seen i rest found, i ∈ seen → motive seen rest found → motive seen (i :: rest) found)
    (visit : ∀ seen i rest inner outer, i ∉ seen →
      motive (seen ++ [i]) (d.interfaceParents i.1) inner → motive inner rest outer →
      motive seen (i :: rest) outer)
    (seen waiting : List d.Interface) : motive seen waiting (d.search seen waiting) := by
  fun_induction searchFrom d seen waiting with
  | case1 seen =>
    rw [search_nil]
    exact done seen
  | case2 seen i rest h ih =>
    rw [search_of_mem h]
    exact skip seen i rest _ h ih
  | case3 seen i rest h inner hi hinner outer ho houter ihi iho =>
    have he : d.search (seen ++ [i]) (d.interfaceParents i.1) = inner := congrArg Subtype.val hinner
    rw [search_of_not_mem h, he]
    exact visit seen i rest inner _ h (he ▸ ihi) iho

end Search

section Lookup
variable {d : Diagram} (hn : d.nodeIds.Nodup)
include hn

private theorem interface_eq_of_id {i j : d.Interface} (h : i.1.id = j.1.id) : i = j :=
  Subtype.ext (class_eq_of_id hn (List.mem_of_mem_filter i.2) (List.mem_of_mem_filter j.2) h)

theorem interface?_eq_some_iff {id : String} {i : d.Interface} :
    d.interface? id = some i ↔ i.1.id = id := by
  have hids : (d.interfaces.attach.map (fun i => i.1.id)).Nodup := by
    rw [List.attach_map_val]
    exact nodup_interfaceIds hn
  rw [interface?, find?_key_eq_some_iff hids]
  exact and_iff_right (List.mem_attach _ i)

theorem mem_interfaceParents {node : ClassNode} {i : d.Interface} :
    i ∈ d.interfaceParents node ↔ d.ExtendsInterface node i.1 := by
  simp [interfaceParents, ExtendsInterface, interface?_eq_some_iff hn, i.2]

end Lookup

/-- What a search comes to: everything it is given and the parents of what is new, without
repetition, and nothing that chains of parents do not lead to. -/
structure Searched (d : Diagram) (seen waiting found : List d.Interface) : Prop where
  keeps : seen ⊆ found
  visits : waiting ⊆ found
  closed : ∀ i ∈ found, i ∈ seen ∨ d.interfaceParents i.1 ⊆ found
  led : ∀ i ∈ found, i ∈ seen ∨
    ∃ j ∈ waiting, Relation.ReflTransGen (fun a b => b ∈ d.interfaceParents a.1) j i
  nodup : seen.Nodup → found.Nodup

namespace Searched
variable {d : Diagram} {seen rest inner outer : List d.Interface} {i : d.Interface}

theorem visit (hi : i ∉ seen) (h : d.Searched (seen ++ [i]) (d.interfaceParents i.1) inner)
    (h' : d.Searched inner rest outer) : d.Searched seen (i :: rest) outer := by
  have hseen : seen ++ [i] ⊆ outer := fun _ hj => h'.keeps (h.keeps hj)
  exact {
    keeps := fun _ hj => hseen (List.mem_append_left _ hj)
    visits := List.cons_subset.mpr ⟨hseen (by simp), h'.visits⟩
    closed := by
      intro j hj
      rcases h'.closed j hj with hj | hj
      · rcases h.closed j hj with hj | hj
        · rcases List.mem_append.mp hj with hj | hj
          · exact .inl hj
          · rw [List.mem_singleton.mp hj]
            exact .inr fun _ hk => h'.keeps (h.visits hk)
        · exact .inr fun _ hk => h'.keeps (hj hk)
      · exact .inr hj
    led := by
      intro j hj
      rcases h'.led j hj with hj | ⟨k, hk, hchain⟩
      · rcases h.led j hj with hj | ⟨k, hk, hchain⟩
        · rcases List.mem_append.mp hj with hj | hj
          · exact .inl hj
          · exact .inr ⟨i, by simp, List.mem_singleton.mp hj ▸ .refl⟩
        · exact .inr ⟨i, by simp, .head hk hchain⟩
      · exact .inr ⟨k, List.mem_cons_of_mem _ hk, hchain⟩
    nodup := by
      intro hs
      refine h'.nodup (h.nodup (List.nodup_append.mpr ⟨hs, List.nodup_singleton i, ?_⟩))
      rintro j hj k hk rfl
      exact hi (List.mem_singleton.mp hk ▸ hj) }

theorem of_search (seen waiting : List d.Interface) :
    d.Searched seen waiting (d.search seen waiting) := by
  refine search_induction (motive := d.Searched) (fun seen => ?_) (fun seen i rest found hi h => ?_)
    (fun _ _ _ _ _ hi h h' => h.visit hi h') seen waiting
  · exact ⟨List.Subset.refl _, List.nil_subset _, fun _ => .inl, fun _ => .inl, id⟩
  · refine ⟨h.keeps, List.cons_subset.mpr ⟨h.keeps hi, h.visits⟩, h.closed, fun j hj => ?_, h.nodup⟩
    rcases h.led j hj with hj | ⟨k, hk, hchain⟩
    · exact .inl hj
    · exact .inr ⟨k, List.mem_cons_of_mem _ hk, hchain⟩

end Searched

/-- The interfaces of a class in the order in which a search from its parents comes to them. -/
def searchedInterfaces (d : Diagram) (node : ClassNode) : List ClassNode :=
  (d.search [] (d.interfaceParents node)).map Subtype.val

theorem nodup_searchedInterfaces (d : Diagram) (node : ClassNode) :
    (d.searchedInterfaces node).Nodup :=
  ((Searched.of_search [] _).nodup List.nodup_nil).map Subtype.val_injective

/-- A search comes to what a chain of one or more parent edges leads to. -/
theorem mem_searchedInterfaces {d : Diagram} (hn : d.nodeIds.Nodup) {node i : ClassNode} :
    i ∈ d.searchedInterfaces node ↔ Relation.TransGen d.ExtendsInterface node i := by
  have hs := Searched.of_search [] (d.interfaceParents node)
  constructor
  · intro h
    obtain ⟨i, hi, rfl⟩ := List.mem_map.mp h
    obtain ⟨j, hj, hchain⟩ := (hs.led i hi).resolve_left List.not_mem_nil
    have hlift := hchain.lift Subtype.val fun a b hb => (mem_interfaceParents hn).mp hb
    exact .head' ((mem_interfaceParents hn).mp hj) hlift
  · intro h
    induction h with
    | single h =>
      exact List.mem_map.mpr ⟨⟨_, h.1⟩, hs.visits ((mem_interfaceParents hn).mpr h), rfl⟩
    | tail _ h ih =>
      obtain ⟨j, hj, rfl⟩ := List.mem_map.mp ih
      have hp := (hs.closed j hj).resolve_left List.not_mem_nil
      exact List.mem_map.mpr ⟨⟨_, h.1⟩, hp ((mem_interfaceParents hn).mpr h), rfl⟩

section Walk
variable {d : Diagram}

/-- The interfaces that a walk has not met when a search has seen these. -/
def unmet (d : Diagram) (seen : List d.Interface) : List ClassNode :=
  d.interfaces.filter (fun i => !(seen.map Subtype.val).contains i)

private theorem mem_unmet {seen : List d.Interface} {i : d.Interface} :
    i.1 ∈ d.unmet seen ↔ i ∉ seen := by
  simp [unmet, i.2]

private theorem walk_skip {ids : List String} (h : ∀ id ∈ ids, d.interface? id = none)
    (seen : List d.Interface) (waiting : List String) :
    walkInterfaces (d.unmet seen) (ids ++ waiting) = walkInterfaces (d.unmet seen) waiting := by
  induction ids with
  | nil => rfl
  | cons id rest ih =>
    have hnone : (d.unmet seen).find? (fun node => node.id == id) = none := by
      refine List.find?_eq_none.mpr fun i hi => ?_
      have hmem : i ∈ d.interfaces := List.mem_of_mem_filter hi
      exact List.find?_eq_none.mp (h id List.mem_cons_self) ⟨i, hmem⟩ (List.mem_attach _ _)
    rw [List.cons_append, walkInterfaces_of_none hnone]
    exact ih fun other ho => h other (List.mem_cons_of_mem _ ho)

variable (hn : d.nodeIds.Nodup) {seen : List d.Interface} {i : d.Interface}
include hn

private theorem find?_unmet_of_mem (hi : i ∈ seen) :
    (d.unmet seen).find? (fun j => j.id == i.1.id) = none := by
  refine List.find?_eq_none.mpr fun j hj => ?_
  have hmem : j ∈ d.interfaces := List.mem_of_mem_filter hj
  intro hid
  have he : (⟨j, hmem⟩ : d.Interface) = i := interface_eq_of_id hn (by simpa using hid)
  exact mem_unmet.mp hj (he ▸ hi)

private theorem find?_unmet_of_not_mem (hi : i ∉ seen) :
    (d.unmet seen).find? (fun j => j.id == i.1.id) = some i.1 := by
  have hids : ((d.unmet seen).map (·.id)).Nodup :=
    (nodup_interfaceIds hn).sublist (List.filter_sublist.map _)
  exact (find?_key_eq_some_iff hids).mpr ⟨mem_unmet.mpr hi, rfl⟩

private theorem withoutId_unmet : withoutId i.1.id (d.unmet seen) = d.unmet (seen ++ [i]) := by
  rw [withoutId, unmet, unmet, List.filter_filter]
  refine List.filter_congr fun j hj => ?_
  have hid : j.id = i.1.id ↔ j = i.1 :=
    ⟨fun h => congrArg Subtype.val (interface_eq_of_id hn (i := ⟨j, hj⟩) h), fun h => h ▸ rfl⟩
  rw [Bool.eq_iff_iff]
  simp [hid, and_comm]

/-- What a walk has met when it comes to the ids behind the given ones is what a search has seen. -/
private theorem walk_eq_search (seen nodes : List d.Interface) :
    ∀ ids : List String, ids.filterMap d.interface? = nodes → ∀ waiting,
      seen.map Subtype.val ++ walkInterfaces (d.unmet seen) (ids ++ waiting) =
        (d.search seen nodes).map Subtype.val ++
          walkInterfaces (d.unmet (d.search seen nodes)) waiting := by
  -- the ids may name other things between the interfaces, so they are not fixed by the nodes
  refine search_induction (motive := fun seen nodes found =>
    ∀ ids : List String, ids.filterMap d.interface? = nodes → ∀ waiting,
      seen.map Subtype.val ++ walkInterfaces (d.unmet seen) (ids ++ waiting) =
        found.map Subtype.val ++ walkInterfaces (d.unmet found) waiting) ?done ?skip ?visit seen nodes
  case done =>
    intro seen ids hids waiting
    rw [walk_skip (List.filterMap_eq_nil_iff.mp hids)]
  case skip =>
    intro seen i rest found hi ih ids hids waiting
    obtain ⟨before, id, after, rfl, hb, hid, ha⟩ := List.filterMap_eq_cons_iff.mp hids
    obtain rfl := (interface?_eq_some_iff hn).mp hid
    rw [List.append_assoc, walk_skip hb, List.cons_append, walkInterfaces_of_none (find?_unmet_of_mem hn hi)]
    exact ih after ha waiting
  case visit =>
    intro seen i rest inner outer hi ihi iho ids hids waiting
    obtain ⟨before, id, after, rfl, hb, hid, ha⟩ := List.filterMap_eq_cons_iff.mp hids
    obtain rfl := (interface?_eq_some_iff hn).mp hid
    rw [List.append_assoc, walk_skip hb, List.cons_append,
      walkInterfaces_of_some (find?_unmet_of_not_mem hn hi), withoutId_unmet hn]
    have hi := ihi i.1.parentIds rfl (after ++ waiting)
    rw [List.map_append, List.append_assoc] at hi
    exact hi.trans (iho after ha waiting)

theorem implemented_eq_searched {node : ClassNode} (hc : ¬ node.isInterface) :
    d.implemented node = d.searchedInterfaces node := by
  have hw := walk_eq_search hn [] (d.interfaceParents node) node.parentIds rfl []
  have hu : d.unmet [] = d.interfaces := by simp [unmet]
  rw [List.append_nil, hu, walkInterfaces, List.append_nil] at hw
  rw [implemented, if_neg hc, searchedInterfaces]
  exact hw

end Walk

/-- A class takes over the members of its interfaces in the order of a recursive search, which comes
once to every interface that a chain of parent edges through interfaces leads to. It overrides their
public methods on every target and repeats their properties in C# only. An interface takes over
nothing. -/
theorem toModel_flattens_searched {d : Diagram} {registry : Registry}
    (hb : Registry.build d = .ok registry) (placement : Placement) (node : ClassNode) :
    (¬ node.isInterface →
      (node.toModel registry placement).overriddenMethods =
          (d.searchedInterfaces node).flatMap ClassNode.publicMethods ∧
        (d.target = .csharp → (node.toModel registry placement).fields =
          (node.body.properties.map (Field.ofProperty .declared) ++
            (d.searchedInterfaces node).flatMap fun i =>
              i.body.properties.map (Field.ofProperty .flattened)).flatMap (Field.expand d.target)) ∧
        (d.target ≠ .csharp → (node.toModel registry placement).fields =
          (node.body.properties.map (Field.ofProperty .declared)).flatMap (Field.expand d.target))) ∧
      (node.isInterface →
        (node.toModel registry placement).overriddenMethods = [] ∧
          (node.toModel registry placement).fields =
            (node.body.properties.map (Field.ofProperty .declared)).flatMap
              (Field.expand d.target)) ∧
      (d.searchedInterfaces node).Nodup ∧
      ∀ i, i ∈ d.searchedInterfaces node ↔ Relation.TransGen d.ExtendsInterface node i := by
  obtain ⟨hn, rfl⟩ := build_eq_ok_iff.mp hb
  refine ⟨fun hc => ⟨?_, fun ht => ?_, fun ht => ?_⟩, fun hi => ?_,
    d.nodup_searchedInterfaces node, fun i => mem_searchedInterfaces hn⟩
  · change d.overriddenMethods node = _
    rw [overriddenMethods, implemented_eq_searched hn hc]
  · change d.fields node = _
    rw [fields, memberFields, implemented_eq_searched hn hc, ht]
    rfl
  · have hf : d.target.flattensProperties = false := by
      cases h : d.target with
      | csharp => exact absurd h ht
      | cpp | java => rfl
    change d.fields node = _
    rw [fields, memberFields, hf]
    simp
  · have himp : d.implemented node = [] := by rw [implemented, if_pos hi]
    refine ⟨?_, ?_⟩
    · change d.overriddenMethods node = _
      rw [overriddenMethods, himp, List.flatMap_nil]
    · change d.fields node = _
      rw [fields, memberFields, himp]
      simp

/-- A class of two interfaces that share a third one, which extends the first of them again. -/
def sharedInterface : Diagram where
  target := .csharp
  classes := [
    { id := "a", isInterface := true, parents := [{ id := "t" }],
      body := { name := "First", methods := [{ name := "first", returnType := .named "void" }] } },
    { id := "b", isInterface := true, parents := [{ id := "t" }],
      body := { name := "Second", methods := [{ name := "second", returnType := .named "void" }] } },
    { id := "t", isInterface := true, parents := [{ id := "a" }],
      body := { name := "Shared", methods := [{ name := "shared", returnType := .named "void" }],
                properties := [{ id := "p", name := "size", type := .named "int" }] } },
    { id := "c", parents := [{ id := "a" }, { id := "b" }], body := { name := "Widget" } }]

theorem toModel_sharedInterface :
    ∃ registry, Registry.build sharedInterface = .ok registry ∧ ∀ placement,
      ((sharedInterface.classes[3].toModel registry placement).overriddenMethods.map (·.name) =
          ["first", "shared", "second"]) ∧
        ((sharedInterface.classes[3].toModel registry placement).fields.map fun f =>
          (f.name, f.origin)) = [("size", .flattened)] ∧
        Relation.TransGen sharedInterface.ExtendsInterface sharedInterface.classes[3]
          sharedInterface.classes[2] := by
  have hb : Registry.build sharedInterface = .ok sharedInterface.registry :=
    build_eq_ok_iff.mpr ⟨by decide, rfl⟩
  refine ⟨_, hb, fun placement => ?_⟩
  obtain ⟨hcls, -, -, hmem⟩ := toModel_flattens_searched hb placement sharedInterface.classes[3]
  obtain ⟨ho, hf, -⟩ := hcls (by decide)
  have hs : sharedInterface.searchedInterfaces sharedInterface.classes[3] =
      [sharedInterface.classes[0], sharedInterface.classes[2], sharedInterface.classes[1]] := by
    cbv
  rw [ho, hf rfl, ← hmem, hs]
  decide

end Diagram

end ClassScaffold
