import ClassScaffold.Text.CaseTable

namespace ClassScaffold.Text

/-- The counterpart of a code by the runs, which are in ascending order. -/
def counterpart? (n : Nat) : List CaseRun → Option Nat
  | [] => none
  | run :: rest =>
    if n < run.first then none
    else if n ≤ run.last then
      if (n - run.first) % run.step = 0 then some (n + run.offset).toNat else none
    else counterpart? n rest

/-- The capital form of a letter, which may take several letters; anything else is left alone. -/
def upper (c : Char) : List Char :=
  match longUppers.lookup c.toNat with
  | some codes => codes.map Char.ofNat
  | none => [((counterpart? c.toNat upperRuns).map Char.ofNat).getD c]

def isDottedCapital (c : Char) : Bool :=
  c.toNat == 0x130

/-- The small form of a letter. The dot on a capital `i` stays as a mark of its own. -/
def lower (c : Char) : List Char :=
  if isDottedCapital c then ['i', Char.ofNat 0x307]
  else [((counterpart? c.toNat lowerRuns).map Char.ofNat).getD c]

/-- On letters of the English alphabet the tables agree with the small one of `Char`. -/
theorem upper_ofNat : ∀ n < 128, upper (Char.ofNat n) = [(Char.ofNat n).toUpper] := by
  decide +kernel

theorem lower_ofNat : ∀ n < 128, lower (Char.ofNat n) = [(Char.ofNat n).toLower] := by
  decide +kernel

def upperText (cs : List Char) : List Char :=
  cs.flatMap upper

def isCased (c : Char) : Bool :=
  inRanges c.toNat casedRanges

def isCaseIgnorable (c : Char) : Bool :=
  inRanges c.toNat caseIgnorableRanges

/-- Whether a letter comes first, once the characters that do not separate letters are left out. -/
def startsCased (cs : List Char) : Bool :=
  (cs.dropWhile isCaseIgnorable).head?.any isCased

def isCapitalSigma (c : Char) : Bool :=
  c.toNat == 0x3a3

/-- The small form of a sigma, which is another one at the end of a word. -/
def smallSigma (final : Bool) : Char :=
  Char.ofNat (if final then 0x3c2 else 0x3c3)

/-- The small form of a text that follows the reversed characters `before`. -/
def lowerFrom : List Char → List Char → List Char
  | _, [] => []
  | before, c :: rest =>
    (if isCapitalSigma c then [smallSigma (startsCased before && !startsCased rest)] else lower c) ++
      lowerFrom (c :: before) rest

def lowerText (cs : List Char) : List Char :=
  lowerFrom [] cs

end ClassScaffold.Text
