import ClassScaffold.Text.Hexadecimal

namespace ClassScaffold.Toml

def isGap (c : Char) : Bool :=
  c == ' ' || c == '\t'

def skipGap (cs : List Char) : List Char :=
  cs.dropWhile isGap

/-- Characters that stand neither in strings nor in comments. -/
def isControl (c : Char) : Bool :=
  (c.toNat < 0x20 && c != '\t') || c.toNat == 0x7f

/-- The rest after the end of a line, where the line ends here. -/
def readLineEnd : List Char → Option (List Char)
  | [] => some []
  | '\n' :: rest => some rest
  | '\r' :: '\n' :: rest => some rest
  | _ => none

def skipComment : List Char → List Char
  | '#' :: rest => rest.dropWhile (fun c => !isControl c)
  | cs => cs

/-- The rest after a line on which nothing but a comment is left. -/
def endLine (cs : List Char) : Option (List Char) :=
  readLineEnd (skipComment (skipGap cs))

def skipLines : Nat → List Char → List Char
  | 0, cs => cs
  | fuel + 1, cs =>
    match skipComment (skipGap cs) with
    | '\n' :: rest | '\r' :: '\n' :: rest => skipLines fuel rest
    | rest => rest

/-- The character with the code that so many hexadecimal digits spell, and the rest. -/
def readCode (count : Nat) (cs : List Char) : Option (Char × List Char) := do
  let digits := cs.take count
  guard (digits.length = count)
  let n ← Text.hexNumber? digits
  guard (n.isValidChar)
  return (Char.ofNat n, cs.drop count)

/-- A character by its escape, after the backslash. -/
def readEscape : List Char → Option (Char × List Char)
  | 'b' :: rest => some ('\x08', rest)
  | 't' :: rest => some ('\t', rest)
  | 'n' :: rest => some ('\n', rest)
  | 'f' :: rest => some ('\x0c', rest)
  | 'r' :: rest => some ('\r', rest)
  | 'e' :: rest => some ('\x1b', rest)
  | '"' :: rest => some ('"', rest)
  | '\\' :: rest => some ('\\', rest)
  | 'x' :: rest => readCode 2 rest
  | 'u' :: rest => readCode 4 rest
  | 'U' :: rest => readCode 8 rest
  | _ => none

/-- A string with escapes up to its closing quote. -/
def readBasic : Nat → List Char → Option (List Char × List Char)
  | 0, _ => none
  | fuel + 1, cs =>
    match cs with
    | [] => none
    | '"' :: rest => some ([], rest)
    | '\\' :: rest => do
      let (c, rest) ← readEscape rest
      let (text, rest) ← readBasic fuel rest
      return (c :: text, rest)
    | c :: rest => do
      guard (!isControl c)
      let (text, rest) ← readBasic fuel rest
      return (c :: text, rest)

def isApostrophe (c : Char) : Bool :=
  c == '\x27'

/-- A string without escapes up to its closing quote. -/
def readLiteral (cs : List Char) : Option (List Char × List Char) :=
  match cs.dropWhile (fun c => !isApostrophe c) with
  | _ :: rest =>
    let text := cs.takeWhile (fun c => !isApostrophe c)
    if text.any isControl then none else some (text, rest)
  | [] => none

def readBreak : List Char → Option (List Char)
  | '\n' :: rest | '\r' :: '\n' :: rest => some rest
  | _ => none

/-- White space and line ends after a backslash at the end of a line. -/
def skipFold : Nat → List Char → List Char
  | 0, cs => cs
  | fuel + 1, cs =>
    match skipGap cs with
    | '\n' :: rest | '\r' :: '\n' :: rest => skipFold fuel rest
    | rest => rest

/-- Quotes at the end of a string of several lines: the last three of up to five close it. -/
def closeLong (quote : Char) (cs : List Char) : Option (List Char × List Char) :=
  match (cs.takeWhile (· == quote)).length with
  | 0 | 1 | 2 => none
  | 3 => some ([], cs.drop 3)
  | 4 => some ([quote], cs.drop 4)
  | _ => some ([quote, quote], cs.drop 5)

/-- A string of several lines up to its three closing quotes; escapes count where `escapes` is
set. Line ends stay as they are written. -/
def readLong (quote : Char) (escapes : Bool) : Nat → List Char → Option (List Char × List Char)
  | 0, _ => none
  | fuel + 1, cs =>
    match closeLong quote cs with
    | some found => some found
    | none =>
      match cs with
      | [] => none
      | '\n' :: rest => do
        let (text, rest) ← readLong quote escapes fuel rest
        return ('\n' :: text, rest)
      | '\r' :: '\n' :: rest => do
        let (text, rest) ← readLong quote escapes fuel rest
        return ('\r' :: '\n' :: text, rest)
      | c :: rest =>
        if escapes && c == '\\' then
          match readBreak (skipGap rest) with
          | some after => readLong quote escapes fuel (skipFold after.length after)
          | none => do
            let (c, rest) ← readEscape rest
            let (text, rest) ← readLong quote escapes fuel rest
            return (c :: text, rest)
        else do
          guard (!isControl c)
          let (text, rest) ← readLong quote escapes fuel rest
          return (c :: text, rest)

/-- A line end right after the opening quotes of a string of several lines does not count. -/
def skipBreak (cs : List Char) : List Char :=
  (readBreak cs).getD cs

def readText (cs : List Char) : Option (String × List Char) :=
  let found :=
    match cs with
    | '"' :: '"' :: '"' :: rest => readLong '"' true (rest.length + 1) (skipBreak rest)
    | '"' :: rest => readBasic (rest.length + 1) rest
    | a :: b :: c :: rest =>
      if isApostrophe a && isApostrophe b && isApostrophe c then
        readLong a false (rest.length + 1) (skipBreak rest)
      else if isApostrophe a then readLiteral (b :: c :: rest)
      else none
    | [a, b] => if isApostrophe a then readLiteral [b] else none
    | _ => none
  found.map fun (text, rest) => (String.ofList text, rest)

end ClassScaffold.Toml
