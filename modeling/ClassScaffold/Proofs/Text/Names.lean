import ClassScaffold.Proofs.Naming
import ClassScaffold.Proofs.Text.Balance
import ClassScaffold.Proofs.Text.Lines
import ClassScaffold.Text.WordCase

/-! Names in texts. In capitals and small letters they stay within the characters of names, of which
none is a bracket or a line feed. -/
namespace ClassScaffold

namespace Text

/-- Only characters that a name may have. -/
def InName (cs : List Char) : Prop :=
  ∀ c ∈ cs, isIdentifierRest c = true

private theorem lt_of_isIdentifierRest {c : Char} (h : isIdentifierRest c = true) :
    c.toNat < 128 := by
  have hle {d : Char} (hc : c ≤ d) (hd : d.toNat < 128) : c.toNat < 128 :=
    Nat.lt_of_le_of_lt (UInt32.le_iff_toNat_le.mp hc) hd
  rcases isIdentifierRest_iff.mp h with (⟨-, hc⟩ | ⟨-, hc⟩) | ⟨-, hc⟩ | rfl
  · exact hle hc (by decide)
  · exact hle hc (by decide)
  · exact hle hc (by decide)
  · decide

/-- What changes a letter of the English alphabet into another one keeps to names. -/
private theorem inName_changed {change : Char → List Char} {image : Char → Char}
    (hchange : ∀ n < 128, change (Char.ofNat n) = [image (Char.ofNat n)])
    (himage : ∀ n < 128, isIdentifierRest (Char.ofNat n) = true →
      isIdentifierRest (image (Char.ofNat n)) = true)
    {c : Char} (h : isIdentifierRest c = true) : InName (change c) := by
  have hc := lt_of_isIdentifierRest h
  rw [← Char.ofNat_toNat c] at h ⊢
  rw [hchange _ hc]
  exact List.forall_mem_singleton.mpr (himage _ hc h)

theorem inName_upper {c : Char} (h : isIdentifierRest c = true) : InName (upper c) :=
  inName_changed upper_ofNat (by decide) h

theorem inName_lower {c : Char} (h : isIdentifierRest c = true) : InName (lower c) :=
  inName_changed lower_ofNat (by decide) h

private theorem inName_lowerFrom (before : List Char) {cs : List Char} (h : InName cs) :
    InName (lowerFrom before cs) := by
  induction cs generalizing before with
  | nil => exact h
  | cons c rest ih =>
    obtain ⟨hc, hrest⟩ := List.forall_mem_cons.mp h
    have hsigma : isCapitalSigma c = false := by
      have := lt_of_isIdentifierRest hc
      simp only [isCapitalSigma, beq_eq_false_iff_ne]
      omega
    rw [lowerFrom, hsigma]
    exact List.forall_mem_append.mpr ⟨inName_lower hc, ih _ hrest⟩

theorem inName_capitalized {cs : List Char} (h : InName cs) : InName (capitalized cs) := by
  cases cs with
  | nil => exact h
  | cons c rest =>
    obtain ⟨hc, hrest⟩ := List.forall_mem_cons.mp h
    exact List.forall_mem_append.mpr ⟨inName_upper hc, inName_lowerFrom [] hrest⟩

private theorem inName_nil : InName [] :=
  List.forall_mem_nil _

/-- Words are made of the characters they are cut from. -/
private theorem inName_wordsFrom {word cs : List (List Char)} (hw : InName word.flatten)
    (hc : InName cs.flatten) : ∀ w ∈ wordsFrom word cs, InName w := by
  have hreverse {word : List (List Char)} (hw : InName word.flatten) :
      InName word.reverse.flatten := by
    simpa [InName] using hw
  induction cs generalizing word with
  | nil => exact List.forall_mem_singleton.mpr (hreverse hw)
  | cons c rest ih =>
    obtain ⟨hc, hrest⟩ := List.forall_mem_append.mp hc
    have hnext : ∀ w ∈ wordsFrom [] rest, InName w := ih inName_nil hrest
    have hfirst : InName [c].flatten := by simpa [InName] using hc
    unfold wordsFrom
    split
    · exact List.forall_mem_cons.mpr ⟨hreverse hw, hnext⟩
    · split
      · split
        · exact List.forall_mem_cons.mpr ⟨hreverse hw, ih hfirst hrest⟩
        · exact ih (List.forall_mem_append.mpr ⟨hc, hw⟩) hrest
      · exact ih hfirst hrest

theorem inName_pascalCase {s : String} (h : InName s.toList) : InName (pascalCase s).toList := by
  rw [pascalCase, String.toList_ofList]
  intro c hc
  obtain ⟨word, hword, hc⟩ := List.mem_flatMap.mp hc
  have hclusters : InName (clusters s.toList).flatten := (flatten_clusters s.toList).symm ▸ h
  have hwords : ∀ w ∈ wordsFrom [] (clusters s.toList), InName w :=
    inName_wordsFrom inName_nil hclusters
  exact inName_capitalized (hwords word hword) c hc

end Text

open Text

private theorem balanced_of_inName {s : String} (h : InName s.toList) : Balanced s :=
  balanced_of_plain fun c hc => isBracket_eq_false (by decide) (h c hc)

private theorem IsName.inName {s : String} (h : IsName s) : InName s.toList :=
  (isIdentifier_iff.mp (isIdentifier_iff_isName.mpr h)).2

theorem IsName.balanced {s : String} (h : IsName s) : Balanced s :=
  balanced_of_inName h.inName

theorem IsName.balanced_pascalCase {s : String} (h : IsName s) : Balanced (pascalCase s) :=
  balanced_of_inName (inName_pascalCase h.inName)

theorem IsName.single {s : String} (h : IsName s) : IsSingle s :=
  isSingle_of_forall (by decide) h.inName

theorem IsName.single_pascalCase {s : String} (h : IsName s) : IsSingle (pascalCase s) :=
  isSingle_of_forall (by decide) (inName_pascalCase h.inName)

theorem Target.single_typeName {target : Target} {s : String} (h : target.isTypeName s = true) :
    IsSingle s :=
  isSingle_of_forall (by decide) (typeSpelled_of_isTypeName h).chars

theorem Target.balanced_typeName {target : Target} {s : String} (h : target.isTypeName s = true) :
    Balanced s :=
  balanced_of_plain fun c hc =>
    isBracket_eq_false (by decide) ((typeSpelled_of_isTypeName h).chars c hc)

end ClassScaffold
