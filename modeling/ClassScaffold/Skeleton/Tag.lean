import ClassScaffold.Skeleton.Expression
import ClassScaffold.Text.Blank

namespace ClassScaffold.Skeleton

inductive Tag where
  | comment
  | output (e : Expr)
  | branch (condition : Expr)
  | otherBranch (condition : Expr)
  | otherwise
  | branchEnd
  | loop (item : String) (values : Expr)
  | loopEnd
  | part (name : String) (parameters : List String)
  | partEnd

/-- Plain text, or a tag and whether it takes away the white space before and after it. -/
inductive Item where
  | text (s : String)
  | tag (tag : Tag) (trimBefore trimAfter : Bool)

inductive TagKind where
  | output
  | statement
  | comment

def TagKind.closing : TagKind → String
  | .output => "\x7d\x7d"
  | .statement => "%\x7d"
  | .comment => "#\x7d"

/-- The kind of a tag by the character after its brace. -/
def TagKind.ofOpener? (c : Char) : Option TagKind :=
  if c = '\x7b' then some .output
  else if c = '%' then some .statement
  else if c = '#' then some .comment
  else none

/-- The end of a tag: whether it trims the text after it, and the rest behind it. -/
def TagKind.readEnd (kind : TagKind) (cs : List Char) : Option (Bool × List Char) :=
  match after? ("-" ++ kind.closing) cs with
  | some rest => some (true, rest)
  | none => (after? kind.closing cs).map (false, ·)

/-- The end of a comment that has begun. -/
def readCommentEnd : List Char → Option (Bool × List Char)
  | [] => none
  | c :: rest =>
    match TagKind.comment.readEnd (c :: rest) with
    | some found => some found
    | none => readCommentEnd rest

/-- A comment, which holds at least one character. -/
def readComment : List Char → Option (Bool × List Char)
  | [] => none
  | c :: rest => if (TagKind.comment.readEnd (c :: rest)).isSome then none else readCommentEnd rest

/-- The name of an item, and the values that it goes through. -/
def readLoop (steps : Nat) (cs : List Char) : Option (Tag × List Char) := do
  let (item, rest) ← readName cs
  guard (rest.head?.any isTagSpace)
  let rest ← afterWord? "in" (skipTagSpace rest)
  let (values, rest) ← readLoopValues steps rest
  return (.loop item values, rest)

/-- The name of a part, and its parameters in brackets. -/
def readPartHead (steps : Nat) (cs : List Char) : Option (Tag × List Char) := do
  let (name, rest) ← readName cs
  let rest ← afterSign? "(" rest
  match afterSign? ")" rest with
  | some rest => return (.part name [], rest)
  | none =>
    let (parameters, rest) ← readParameters steps (skipTagSpace rest)
    return (.part name parameters, rest)

/-- The statement that ends a part may repeat a name. -/
def readPartEnd (cs : List Char) : Tag × List Char :=
  match readName (skipTagSpace cs) with
  | some (_, rest) => (.partEnd, rest)
  | none => (.partEnd, cs)

/-- A statement by its first word. -/
def readStatement (steps : Nat) (cs : List Char) : Option (Tag × List Char) :=
  if let some rest := afterWord? "if" cs then
    (readEither steps rest).map fun (e, rest) => (.branch e, rest)
  else if let some rest := afterWord? "elif" cs then
    (readEither steps rest).map fun (e, rest) => (.otherBranch e, rest)
  else if let some rest := after? "else" cs then some (.otherwise, rest)
  else if let some rest := after? "endif" cs then some (.branchEnd, rest)
  else if let some rest := afterWord? "for" cs then readLoop steps rest
  else if let some rest := after? "endfor" cs then some (.loopEnd, rest)
  else if let some rest := afterWord? "macro" cs then readPartHead steps rest
  else if let some rest := after? "endmacro" cs then some (readPartEnd rest)
  else none

/-- A tag after its opening: what it says, whether it trims the text after it, and the rest. Its
expressions may nest `steps` deep. -/
def TagKind.read (steps : Nat) : TagKind → List Char → Option (Tag × Bool × List Char)
  | .comment, cs => (readComment cs).map (.comment, ·)
  | .output, cs => do
    let (e, rest) ← readEither steps (skipTagSpace cs)
    return (.output e, ← TagKind.output.readEnd (skipTagSpace rest))
  | .statement, cs => do
    let (tag, rest) ← readStatement steps (skipTagSpace cs)
    return (tag, ← TagKind.statement.readEnd (skipTagSpace rest))

/-- Plain text up to the next tag; the kind of that tag; and what follows its opening. -/
def readText : List Char → List Char × Option (TagKind × List Char)
  | [] => ([], none)
  | [c] => ([c], none)
  | c :: d :: rest =>
    match (if c = '\x7b' then TagKind.ofOpener? d else none) with
    | some kind => ([], some (kind, rest))
    | none =>
      let (text, tag) := readText (d :: rest)
      (c :: text, tag)

def textItem (cs : List Char) : List Item :=
  if cs.isEmpty then [] else [.text (String.ofList cs)]

/-- The sign that a tag trims the text before it. -/
def readTrim : List Char → Bool × List Char
  | '-' :: rest => (true, rest)
  | cs => (false, cs)

/-- The items of a text of fewer characters than the first argument. -/
def readItems : Nat → List Char → Option (List Item)
  | 0, _ => none
  | fuel + 1, cs =>
    match readText cs with
    | (text, none) => some (textItem text)
    | (text, some (kind, rest)) => do
      let (trimBefore, rest) := readTrim rest
      let (tag, trimAfter, rest) ← kind.read (readingSteps fuel) rest
      let items ← readItems fuel rest
      return textItem text ++ .tag tag trimBefore trimAfter :: items

/-- Whether the next item takes away white space before it. -/
def trimsBefore : List Item → Bool
  | .tag _ trimBefore _ :: _ => trimBefore
  | _ => false

/-- Takes away the white space that tags next to a text do not want, and texts of nothing else. -/
def trimItems (trimStart : Bool) : List Item → List Item
  | [] => []
  | .text s :: rest =>
    let s := if trimStart then Text.trimStart s else s
    let s := if trimsBefore rest then Text.trimEnd s else s
    if s.isEmpty then trimItems false rest else .text s :: trimItems false rest
  | .tag tag trimBefore trimAfter :: rest =>
    .tag tag trimBefore trimAfter :: trimItems trimAfter rest

/-- The items of a text, or `none` where a tag cannot be read. -/
def scan (cs : List Char) : Option (List Item) :=
  (readItems (cs.length + 1) cs).map (trimItems false)

end ClassScaffold.Skeleton
