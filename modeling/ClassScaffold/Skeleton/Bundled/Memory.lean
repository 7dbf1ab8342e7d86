import ClassScaffold.Skeleton.Bundled.Pieces

/-! The bundled idioms of manual memory. Every part is one fragment without a last line feed. -/
namespace ClassScaffold.Skeleton.Memory

/-- A loop over the body that is bound as `LoopContents`, between two texts. -/
def loopOver (before after : String) : List Piece :=
  [.text (before ++ "for (unsigned int "), bound "IndexName", .text " = 0; ", bound "IndexName",
    .text " < ", bound "LengthVariableName", .text "; ++", bound "IndexName",
    .text ")\n\x7b\n", bound "LoopContents", .text ("\n\x7d" ++ after)]

def pointerAllocate : Part where
  name := "pointerAllocate"
  parameters := ["a"]
  body := [bound "PointerName", .text " = new ", bound "DataType", .text ";"]

def allocateThenIterate : Part where
  name := "allocateThenIterate"
  parameters := ["a"]
  body := [bound "PointerName", .text " = new ", bound "DataType", .text "[",
    bound "LengthVariableName"] ++ loopOver "];\n" ""

def iterateThenDelete : Part where
  name := "iterateThenDelete"
  parameters := ["a"]
  body := loopOver "" "\ndelete[] " ++ [bound "PointerName", .text ";"]

def pointerDelete : Part where
  name := "pointerDelete"
  parameters := ["a"]
  body := [.text "delete", given (.path "a" ["IsArray"]) [.text "[]"], .text " ",
    bound "PointerName", .text ";"]

def iterateArray : Part where
  name := "iterateArray"
  parameters := ["a"]
  body := loopOver "" ""

def skeleton : Skeleton where
  parts := [pointerAllocate, allocateThenIterate, iterateThenDelete, pointerDelete, iterateArray]

/-- The text that the skeleton is read from. -/
def text : String :=
  "\x7b# Memory-management idioms for the native target. Every macro renders
    one fragment with no trailing newline. #\x7d

\x7b%- macro pointerAllocate(a) -%\x7d
\x7b\x7b a.PointerName \x7d\x7d = new \x7b\x7b a.DataType \x7d\x7d;
\x7b%- endmacro pointerAllocate -%\x7d

\x7b%- macro allocateThenIterate(a) -%\x7d
\x7b\x7b a.PointerName \x7d\x7d = new \x7b\x7b a.DataType \x7d\x7d[\x7b\x7b a.LengthVariableName \x7d\x7d];
for (unsigned int \x7b\x7b a.IndexName \x7d\x7d = 0; \x7b\x7b a.IndexName \x7d\x7d < \x7b\x7b a.LengthVariableName \x7d\x7d; ++\x7b\x7b a.IndexName \x7d\x7d)
\x7b
\x7b\x7b a.LoopContents \x7d\x7d
\x7d
\x7b%- endmacro allocateThenIterate -%\x7d

\x7b%- macro iterateThenDelete(a) -%\x7d
for (unsigned int \x7b\x7b a.IndexName \x7d\x7d = 0; \x7b\x7b a.IndexName \x7d\x7d < \x7b\x7b a.LengthVariableName \x7d\x7d; ++\x7b\x7b a.IndexName \x7d\x7d)
\x7b
\x7b\x7b a.LoopContents \x7d\x7d
\x7d
delete[] \x7b\x7b a.PointerName \x7d\x7d;
\x7b%- endmacro iterateThenDelete -%\x7d

\x7b%- macro pointerDelete(a) -%\x7d
delete\x7b% if a.IsArray %\x7d[]\x7b% endif %\x7d \x7b\x7b a.PointerName \x7d\x7d;
\x7b%- endmacro pointerDelete -%\x7d

\x7b%- macro iterateArray(a) -%\x7d
for (unsigned int \x7b\x7b a.IndexName \x7d\x7d = 0; \x7b\x7b a.IndexName \x7d\x7d < \x7b\x7b a.LengthVariableName \x7d\x7d; ++\x7b\x7b a.IndexName \x7d\x7d)
\x7b
\x7b\x7b a.LoopContents \x7d\x7d
\x7d
\x7b%- endmacro iterateArray -%\x7d
"

end ClassScaffold.Skeleton.Memory
