import ClassScaffold.Text.Blank

/-! Lines of generated code: splitting, indenting and closing them. -/
namespace ClassScaffold.Text

/-- Cuts text at every line feed, reading `line` as the reversed start of the current line. A
carriage return in front of a line feed belongs to the line end; text that ends in a line feed
has no empty last line. -/
def splitLinesFrom : List Char → List Char → List String
  | line, [] => if line.isEmpty then [] else [String.ofList line.reverse]
  | line, c :: rest =>
    if c = '\n' then
      String.ofList (match line with
        | '\r' :: before => before.reverse
        | _ => line.reverse) :: splitLinesFrom [] rest
    else splitLinesFrom (c :: line) rest

def splitLines (s : String) : List String :=
  splitLinesFrom [] s.toList

/-- The lines of a piece of code without the blank ones at its end. -/
def codeLines (s : String) : List String :=
  ((splitLines s).reverse.dropWhile isBlankText).reverse

def indentedLine (line : String) : String :=
  if line.isEmpty then "" else "    " ++ line

/-- Every line that is not empty moves one level to the right. -/
def indented (s : String) : String :=
  "\n".intercalate ((splitLines s).map indentedLine)

/-- Text closed by one line feed, or nothing where it held only line feeds. -/
def closed (s : String) : String :=
  match dropEndWhile (· == '\n') s.toList with
  | [] => ""
  | cs => String.ofList cs ++ "\n"

end ClassScaffold.Text
