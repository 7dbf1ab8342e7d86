import ClassScaffold.Naming

/-! What legal names are made of. A type is read off its spelling by the characters that no name has. -/
namespace ClassScaffold

/-- Identifiers have letters, digits and underscores, and built-in types have words of them with
blanks or colons between. -/
def isTypeNameChar (c : Char) : Bool :=
  isIdentifierRest c || c == ' ' || c == ':'

theorem isIdentifier_iff {s : String} :
    isIdentifier s = true ↔
      (∃ c rest, s.toList = c :: rest ∧ isIdentifierStart c = true) ∧
        ∀ c ∈ s.toList, isIdentifierRest c = true := by
  have hstart {c : Char} (h : isIdentifierStart c = true) : isIdentifierRest c = true := by
    simp [isIdentifierRest, Char.isAlphanum, show c.isAlpha = true from h]
  unfold isIdentifier
  cases s.toList with
  | nil => simp
  | cons c rest =>
    rw [Bool.and_eq_true, List.all_eq_true]
    constructor
    · rintro ⟨hc, hr⟩
      exact ⟨⟨c, rest, rfl, hc⟩, List.forall_mem_cons.mpr ⟨hstart hc, hr⟩⟩
    · rintro ⟨⟨_, _, he, hc⟩, hr⟩
      cases he
      exact ⟨hc, (List.forall_mem_cons.mp hr).2⟩

def IsLetter (c : Char) : Prop :=
  ('A' ≤ c ∧ c ≤ 'Z') ∨ ('a' ≤ c ∧ c ≤ 'z')

def IsDigit (c : Char) : Prop :=
  '0' ≤ c ∧ c ≤ '9'

/-- A letter of the English alphabet, and from there to the end of the text letters, digits and
underscores. -/
def IsName (s : String) : Prop :=
  ∃ first rest, s.toList = first :: rest ∧ IsLetter first ∧
    ∀ c ∈ rest, IsLetter c ∨ IsDigit c ∨ c = '_'

private theorem isIdentifierStart_iff {c : Char} : isIdentifierStart c = true ↔ IsLetter c := by
  have hupper : c.isUpper = true ↔ 'A' ≤ c ∧ c ≤ 'Z' := decide_eq_true_iff
  have hlower : c.isLower = true ↔ 'a' ≤ c ∧ c ≤ 'z' :=
    Bool.and_eq_true_iff.trans (and_congr decide_eq_true_iff decide_eq_true_iff)
  exact Bool.or_eq_true_iff.trans (or_congr hupper hlower)

theorem isIdentifierRest_iff {c : Char} :
    isIdentifierRest c = true ↔ IsLetter c ∨ IsDigit c ∨ c = '_' := by
  rw [← isIdentifierStart_iff]
  simp [isIdentifierStart, isIdentifierRest, Char.isAlphanum, Char.isDigit, IsDigit, Char.le_def,
    or_assoc]

theorem isIdentifier_iff_isName {s : String} : isIdentifier s = true ↔ IsName s := by
  unfold isIdentifier IsName
  cases s.toList with
  | nil => simp
  | cons c rest =>
    simp only [Bool.and_eq_true, List.all_eq_true, isIdentifierStart_iff, isIdentifierRest_iff]
    exact ⟨fun ⟨hc, hr⟩ => ⟨c, rest, rfl, hc, hr⟩, fun ⟨_, _, he, hc, hr⟩ => by cases he; exact ⟨hc, hr⟩⟩

/-- How the name of a type can be spelled: it says by no prefix that the type is constant. -/
structure TypeSpelled (s : String) : Prop where
  nonempty : s.toList ≠ []
  chars : ∀ c ∈ s.toList, isTypeNameChar c = true
  notConst : ¬ "const ".toList <+: s.toList

theorem TypeSpelled.of_identifier {s : String} (h : isIdentifier s = true) : TypeSpelled s := by
  obtain ⟨⟨c, rest, hs, _⟩, hr⟩ := isIdentifier_iff.mp h
  refine ⟨by simp [hs], fun c hc => by simp [isTypeNameChar, hr c hc], fun hp => ?_⟩
  have hblank : isIdentifierRest ' ' = true := hr ' ' (hp.subset (by decide))
  exact absurd hblank (by decide)

theorem TypeSpelled.of_builtin {s : String} (h : s ∈ builtinTypes) : TypeSpelled s := by
  have hall : ∀ s ∈ builtinTypes, s.toList ≠ [] ∧ s.toList.all isTypeNameChar = true ∧
      "const ".toList.isPrefixOf s.toList = false := by
    decide +kernel
  obtain ⟨hn, hc, hp⟩ := hall s h
  refine ⟨hn, List.all_eq_true.mp hc, fun hpre => ?_⟩
  rw [List.isPrefixOf_iff_prefix.mpr hpre] at hp
  cases hp

namespace Target
variable {target : Target} {s : String}

theorem typeSpelled_of_isTypeName (h : target.isTypeName s = true) : TypeSpelled s := by
  rw [isTypeName, Bool.or_eq_true, Bool.and_eq_true] at h
  rcases h with h | ⟨_, h⟩
  · exact .of_identifier h
  · exact .of_builtin (List.contains_iff_mem.mp h)

theorem isTypeName_lengthType (target : Target) : target.isTypeName target.lengthType = true := by
  cases target <;> decide +kernel

end Target

end ClassScaffold
