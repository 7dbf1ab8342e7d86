import ClassScaffold.Ownership.Code
import ClassScaffold.Proofs.Ownership.Spelling
import ClassScaffold.Proofs.Skeleton.Balance
import ClassScaffold.Proofs.Text.Names

/-! Code that copies and releases is balanced: places close their brackets, and so do the idioms that
they are put into, at every depth. -/
namespace ClassScaffold

open Skeleton Text

namespace Fragment

private theorem balanced_idiom {group : Skeleton.Group Skeleton.engine} (hg : group.Tame)
    {name text : String} {attributes : List (String × Json)} (h : idiom group name attributes = .ok text)
    (ha : ∀ member ∈ attributes, TameMember member) : Balanced text := by
  obtain ⟨part, hp, h⟩ := bind_eq_ok_iff.mp h
  obtain ⟨code, hc, h⟩ := bind_eq_ok_iff.mp h
  cases h
  exact (hg.balanced_render hp hc ha).closed

private theorem balanced_loop {group : Skeleton.Group Skeleton.engine} (hg : group.Tame)
    {name text : String} {body : List Fragment} (attributes : List (String × Json))
    (ha : ∀ member ∈ attributes, TameMember member)
    (hb : ∀ contents, codeOf group body = .ok contents → Balanced contents)
    (h : (do
      let _ ← group.start name
      let contents ← codeOf group body
      idiom group name (attributes ++ [("LoopContents", Json.text (indented contents))])) = .ok text) :
    Balanced text := by
  obtain ⟨_, _, h⟩ := bind_eq_ok_iff.mp h
  obtain ⟨contents, hc, h⟩ := bind_eq_ok_iff.mp h
  exact balanced_idiom hg h (List.forall_mem_append.mpr
    ⟨ha, List.forall_mem_singleton.mpr (.text (hb contents hc).indented)⟩)

mutual

/-- Code is balanced if all that its fragments are spelled with is. -/
theorem balanced_code {group : Skeleton.Group Skeleton.engine} (hg : group.Tame) :
    ∀ (f : Fragment) {text : String}, (∀ s ∈ f.texts, Balanced s) →
      code group f = .ok text → Balanced text
  | .assign target source, text, hf, h => by
    cases h
    simp only [texts, List.forall_mem_cons] at hf
    exact .closed (.append (.append (.append hf.1 (by decide)) hf.2.1) (by decide))
  | .allocate pointer type, text, hf, h => by
    simp only [texts, List.forall_mem_cons] at hf
    rw [code] at h
    exact balanced_idiom hg h (forall_tameMember ⟨.text hf.1, .text hf.2.1, .bool⟩)
  | .allocateThenIterate pointer type index length body, text, hf, h => by
    simp only [texts, List.forall_mem_append, List.forall_mem_cons] at hf
    rw [code] at h
    obtain ⟨⟨hp, ht, hi, hl, -⟩, hb⟩ := hf
    exact balanced_loop hg [("PointerName", .text pointer.spell), ("DataType", .text type),
      ("IndexName", .text index), ("LengthVariableName", .text length)]
      (forall_tameMember ⟨.text hp, .text ht, .text hi, .text hl⟩)
      (fun _ => balanced_codeOf hg body hb) h
  | .iterate index length body, text, hf, h => by
    simp only [texts, List.forall_mem_append, List.forall_mem_cons] at hf
    rw [code] at h
    obtain ⟨⟨hi, hl, -⟩, hb⟩ := hf
    exact balanced_loop hg [("IndexName", .text index), ("LengthVariableName", .text length)]
      (forall_tameMember ⟨.text hi, .text hl⟩) (fun _ => balanced_codeOf hg body hb) h
  | .iterateThenDelete pointer index length body, text, hf, h => by
    simp only [texts, List.forall_mem_append, List.forall_mem_cons] at hf
    rw [code] at h
    obtain ⟨⟨hp, hi, hl, -⟩, hb⟩ := hf
    exact balanced_loop hg [("PointerName", .text pointer.spell), ("IndexName", .text index),
      ("LengthVariableName", .text length)]
      (forall_tameMember ⟨.text hp, .text hi, .text hl⟩) (fun _ => balanced_codeOf hg body hb) h
  | .delete pointer isArray, text, hf, h => by
    simp only [texts, List.forall_mem_cons] at hf
    rw [code] at h
    exact balanced_idiom hg h (forall_tameMember ⟨.text hf.1, .bool⟩)

theorem balanced_codeOf {group : Skeleton.Group Skeleton.engine} (hg : group.Tame) :
    ∀ (fs : List Fragment) {text : String}, (∀ s ∈ textsOf fs, Balanced s) →
      codeOf group fs = .ok text → Balanced text
  | [], text, _, h => by
    cases h
    exact .nil
  | f :: rest, text, hf, h => by
    rw [textsOf, List.forall_mem_append] at hf
    obtain ⟨first, hfirst, h⟩ := bind_eq_ok_iff.mp h
    obtain ⟨others, hothers, h⟩ := bind_eq_ok_iff.mp h
    cases h
    exact .append (balanced_code hg f hf.1 hfirst) (balanced_codeOf hg rest hf.2 hothers)

end

theorem balanced_spells : Spells Balanced where
  deref h := .insert (by decide) h
  element := by
    intro p index h hi
    refine .insert ?_ hi
    rw [String.append_assoc]
    exact h.append (by decide)
  index h := h.append (by decide)
  starred := by
    intro base depth h
    refine h.append (balanced_of_plain fun c hc => ?_)
    rw [String.toList_ofList] at hc
    rw [List.eq_of_mem_replicate hc]
    decide

end Fragment

end ClassScaffold
