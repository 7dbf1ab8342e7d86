import ClassScaffold.Skeleton.Basic
import ClassScaffold.Text.Decimal

/-! Expressions as they are written inside tags. Every reader takes what it reads from the start of
the characters and leaves the rest. An alternative that has been chosen is not given up for a later
one, and white space is skipped in front of every sign. -/
namespace ClassScaffold.Skeleton

def isTagSpace (c : Char) : Bool :=
  c == ' ' || c == '\t' || c == '\n' || c == '\r'

def skipTagSpace (cs : List Char) : List Char :=
  cs.dropWhile isTagSpace

def isNameStart (c : Char) : Bool :=
  c.isAlpha || c == '_'

def isNameRest (c : Char) : Bool :=
  c.isAlphanum || c == '_'

def isQuote (c : Char) : Bool :=
  c == '"' || c == '\x27' || c == '\x60'

def after? (word : String) (cs : List Char) : Option (List Char) :=
  if word.toList.isPrefixOf cs then some (cs.drop word.length) else none

/-- The rest after a word and the white space that has to follow it. -/
def afterWord? (word : String) (cs : List Char) : Option (List Char) := do
  let rest ← after? word cs
  if rest.head?.any isTagSpace then some (skipTagSpace rest) else none

/-- The rest after a sign, which may have white space in front. -/
def afterSign? (sign : String) (cs : List Char) : Option (List Char) :=
  after? sign (skipTagSpace cs)

def readName : List Char → Option (String × List Char)
  | [] => none
  | c :: rest =>
    if isNameStart c then
      some (String.ofList (c :: rest.takeWhile isNameRest), rest.dropWhile isNameRest)
    else none

/-- The steps of a path, each after a dot. A step may start with a digit. -/
def readSteps : Nat → List Char → List String × List Char
  | 0, cs => ([], cs)
  | fuel + 1, cs =>
    match cs with
    | '.' :: rest =>
      if rest.head?.any isNameRest then
        let (steps, left) := readSteps fuel (rest.dropWhile isNameRest)
        (String.ofList (rest.takeWhile isNameRest) :: steps, left)
      else ([], cs)
    | _ => ([], cs)

/-- The words for truth and falsehood, which count even where a name goes on after them. -/
def readBool (cs : List Char) : Option (Bool × List Char) :=
  [("true", true), ("false", false), ("True", true), ("False", false)].findSome?
    fun (word, b) => (after? word cs).map (b, ·)

def readDigits : List Char → Option (Nat × List Char)
  | [] => none
  | c :: rest =>
    if c == '0' then some (0, rest)
    else if c.isDigit then
      some (Text.decimalNumber (c :: rest.takeWhile Char.isDigit), rest.dropWhile Char.isDigit)
    else none

/-- A whole number of 64 bits. -/
def readInt (cs : List Char) : Option (Int × List Char) := do
  let (n, rest) ←
    match cs with
    | '-' :: rest => (readDigits rest).map fun (n, rest) => (-(n : Int), rest)
    | cs => (readDigits cs).map fun (n, rest) => ((n : Int), rest)
  guard (Int64.minValue.toInt ≤ n ∧ n ≤ Int64.maxValue.toInt)
  return (n, rest)

/-- A text between two quotes of the same kind. -/
def readQuoted : List Char → Option (String × List Char)
  | [] => none
  | c :: rest =>
    if isQuote c then
      match rest.dropWhile (· != c) with
      | _ :: left => some (String.ofList (rest.takeWhile (· != c)), left)
      | [] => none
    else none

/-- Puts an argument in front of others. Of equal names the last one counts. -/
def consArgument (name : String) (e : Expr) (arguments : List (String × Expr)) :
    List (String × Expr) :=
  if arguments.any (·.1 == name) then arguments else (name, e) :: arguments

mutual

/-- Conditions between which `or` stands, which binds weaker than `and`. -/
def readEither : Nat → List Char → Option (Expr × List Char)
  | 0, _ => none
  | fuel + 1, cs => do
    let (left, rest) ← readBoth fuel cs
    match afterWord? "or" (skipTagSpace rest) with
    | some rest =>
      let (right, rest) ← readEither fuel rest
      return (.either left right, rest)
    | none => return (left, rest)

def readBoth : Nat → List Char → Option (Expr × List Char)
  | 0, _ => none
  | fuel + 1, cs => do
    let (left, rest) ← readNegation fuel cs
    match afterWord? "and" (skipTagSpace rest) with
    | some rest =>
      let (right, rest) ← readBoth fuel rest
      return (.both left right, rest)
    | none => return (left, rest)

/-- A value that may be negated, or a condition in brackets, which lose a negation that covers all
that is inside them. -/
def readNegation : Nat → List Char → Option (Expr × List Char)
  | 0, _ => none
  | fuel + 1, cs =>
    match afterWord? "not" cs with
    | some rest => do
      let (e, rest) ← readFiltered fuel rest
      return (.negation e, rest)
    | none =>
      match readFiltered fuel cs with
      | some found => some found
      | none => do
        let rest ← after? "(" cs
        let (e, rest) ← readEither fuel (skipTagSpace rest)
        let rest ← afterSign? ")" rest
        return (e.affirmed, rest)

/-- A text or a value with its filters. -/
def readFiltered : Nat → List Char → Option (Expr × List Char)
  | 0, _ => none
  | fuel + 1, cs => do
    let (e, rest) ←
      match readQuoted cs with
      | some (s, rest) => some (.text s, rest)
      | none => readValue fuel cs
    readFilters fuel e rest

def readFilters : Nat → Expr → List Char → Option (Expr × List Char)
  | 0, _, _ => none
  | fuel + 1, e, cs =>
    match afterSign? "|" cs with
    | none => some (e, cs)
    | some rest => do
      let (filter, rest) ← readName (skipTagSpace rest)
      match afterSign? "(" rest with
      | some rest =>
        let (arguments, rest) ← readArguments fuel (skipTagSpace rest)
        readFilters fuel (.filtered e filter arguments) rest
      | none => readFilters fuel (.filtered e filter []) rest

/-- A value without filters, which may stand in brackets. -/
def readValue : Nat → List Char → Option (Expr × List Char)
  | 0, _ => none
  | fuel + 1, cs =>
    match after? "(" cs with
    | some rest => do
      let (e, rest) ← readValue fuel (skipTagSpace rest)
      return (e, ← afterSign? ")" rest)
    | none =>
      match readBool cs with
      | some (b, rest) => some (.bool b, rest)
      | none =>
        match readName cs with
        | some (name, rest) => readNamed fuel name rest
        | none => (readInt cs).map fun (n, rest) => (.int n, rest)

/-- A call or a path after its first name. -/
def readNamed : Nat → String → List Char → Option (Expr × List Char)
  | 0, _, _ => none
  | fuel + 1, name, cs =>
    match afterSign? "::" cs with
    | some rest => do
      let (part, rest) ← readName (skipTagSpace rest)
      let rest ← afterSign? "(" rest
      let (arguments, rest) ← readArguments fuel (skipTagSpace rest)
      return (.call name part arguments, rest)
    | none =>
      match afterSign? "(" cs with
      | some rest => do
        let (_, rest) ← readArguments fuel (skipTagSpace rest)
        return (.function, rest)
      | none =>
        let (steps, rest) := readSteps fuel cs
        some (.path name steps, rest)

/-- Arguments by name, after the opening bracket and up to the closing one. A comma may follow the
last one. -/
def readArguments : Nat → List Char → Option (List (String × Expr) × List Char)
  | 0, _ => none
  | fuel + 1, cs =>
    match after? ")" cs with
    | some rest => some ([], rest)
    | none => do
      let (name, rest) ← readName cs
      let rest ← afterSign? "=" rest
      let (e, rest) ← readEither fuel (skipTagSpace rest)
      match afterSign? "," rest with
      | some rest =>
        let (arguments, rest) ← readArguments fuel (skipTagSpace rest)
        return (consArgument name e arguments, rest)
      | none => return ([(name, e)], ← afterSign? ")" rest)

end

/-- Enough nested steps to read an expression from so many characters. -/
def readingSteps (length : Nat) : Nat :=
  7 * length + 7

/-- What a loop goes through: a value with its filters, which is not negated and no text. -/
def readLoopValues (steps : Nat) (cs : List Char) : Option (Expr × List Char) := do
  let (e, rest) ← readValue steps cs
  readFilters steps e rest

/-- The parameters of a part, after the opening bracket and up to the closing one. -/
def readParameters : Nat → List Char → Option (List String × List Char)
  | 0, _ => none
  | fuel + 1, cs => do
    let (name, rest) ← readName cs
    match afterSign? "," rest with
    | some rest =>
      let (names, rest) ← readParameters fuel (skipTagSpace rest)
      return (name :: names, rest)
    | none => return ([name], ← afterSign? ")" rest)

end ClassScaffold.Skeleton
