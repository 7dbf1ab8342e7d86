import ClassScaffold.Proofs.Resolution.LengthFields
import ClassScaffold.Proofs.Source.TypeText

/-! A type is read in several places, each in its own way. All of them see the same levels in it. -/
namespace ClassScaffold

namespace DataType

/-- However a type is read, its levels are the same. The native text, its two parts put together, is the
signature, and the levels have the length fields in their order. A managed language writes as many
pairs of brackets as there are length fields. In a resolved diagram as many lengths stand directly
behind a field of the type, and its setter takes these besides the field. -/
theorem spellings_agree (t : DataType) :
    (Target.cpp.spell t).type ++ (Target.cpp.spell t).suffix = t.signature ∧
      t.levels.filterMap Level.lengthField? = t.lengthFields ∧
      (∀ target ≠ Target.cpp, target.spell t =
        ⟨t.name ++ String.join (List.replicate t.lengthFields.length "[]"), ""⟩) ∧
      ∀ d m, Diagram.resolve d = .ok m → ∀ c ∈ m.classes, ∀ before owner after,
        c.fields = before ++ owner :: after → owner.isSynthetic = false → owner.type = t →
          List.Forall₂ (owner.HoldsLength d.target) (after.takeWhile Field.isSynthetic)
            t.lengthFields ∧
          owner.setterParameters = owner.asParameter ::
            if owner.hasSetter then (after.takeWhile Field.isSynthetic).map Field.asParameter
            else [] := by
  refine ⟨t.nativeText_eq_signature, t.filterMap_lengthField?_levels, ?_, ?_⟩
  · intro target ht
    cases target with
    | cpp => exact absurd rfl ht
    | csharp | java => exact t.managedText_eq
  · rintro d m h c hc before owner after he ho rfl
    obtain ⟨hn, _, placement, _, rfl⟩ := Diagram.resolve_eq_ok_iff.mp h
    obtain ⟨node, _, rfl⟩ := List.mem_map.mp hc
    exact (Diagram.laidOut_fields hn node).held_behind he ho

/-- A static array of arrays, which stand behind pointers. -/
def shelves : DataType where
  name := "int"
  isConst := true
  pointers := [⟨true, true, "rows"⟩, ⟨false, false, ""⟩]
  dimensions := [⟨4, "used"⟩]

/-- A class with such an array, and with a field behind it. -/
def shelfDiagram : Diagram where
  target := .csharp
  classes := [{ id := "c", body :=
    { name := "Shelf", properties := [
        { id := "s", name := "shelves", type := shelves, hasSetter := true },
        { id := "n", name := "names", type := .withPointer (.named "string") ⟨false, true, "count"⟩ }] } }]

theorem spellings_agree_shelves : shelves.signature = "const int* const*[4]" ∧
    (Target.java.spell shelves).type = "int[][]" ∧
    ∃ m, shelfDiagram.resolve = .ok m ∧ ∃ c ∈ m.classes, ∃ owner after,
      c.fields = owner :: after ∧ owner.isSynthetic = false ∧ owner.type = shelves ∧
      (after.takeWhile Field.isSynthetic).length = 2 ∧ owner.setterParameters.length = 3 := by
  obtain ⟨hnative, _, hmanaged, hfields⟩ := spellings_agree shelves
  have hm : ∃ m, shelfDiagram.resolve = .ok m ∧ ∃ c ∈ m.classes, ∃ owner after,
      c.fields = owner :: after ∧ owner.isSynthetic = false ∧ owner.type = shelves ∧
        owner.hasSetter = true :=
    ⟨_, by cbv, _, List.mem_singleton.mpr rfl, _, _, rfl, rfl, rfl, rfl⟩
  obtain ⟨m, hr, c, hc, owner, after, he, ho, ht, hs⟩ := hm
  obtain ⟨hheld, hsetter⟩ := hfields shelfDiagram m hr c hc [] owner after he ho ht
  refine ⟨hnative.symm.trans (by decide), ?_, m, hr, c, hc, owner, after, he, ho, ht, ?_, ?_⟩
  · rw [hmanaged .java (by decide)]
    decide
  · exact hheld.length_eq
  · rw [hsetter, hs, if_pos rfl, List.length_cons, List.length_map, hheld.length_eq]
    rfl

end DataType

end ClassScaffold
