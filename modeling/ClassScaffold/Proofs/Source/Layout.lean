import ClassScaffold.Proofs.Source.OwnedMemory

namespace ClassScaffold

open Fragment Skeleton Text

namespace ParameterText

def declaration (v : ParameterText) : String :=
  v.type ++ " " ++ v.name ++ v.arraySuffix

def declarations (vs : List ParameterText) : String :=
  ", ".intercalate (vs.map declaration)

end ParameterText

open ParameterText (declarations)

def staticText (isStatic : Bool) : String :=
  if isStatic then "static " else ""

namespace PropertyText

def declaration (v : PropertyText) : String :=
  staticText v.isStatic ++ v.type ++ " " ++ v.name ++ v.arraySuffix ++ ";"

def line (v : PropertyText) : String :=
  "    " ++ v.declaration

def getterLine (v : PropertyText) (getter : String) : String :=
  "    " ++ staticText v.isStatic ++ v.getterType ++ " " ++ getter ++ "()" ++
    (if v.isStatic then "" else " const") ++ " \x7b return " ++ v.name ++ "; \x7d"

/-- The assignments of a setter, of which there is one for everything that it takes. -/
def assignments (className : String) (v : PropertyText) : String :=
  String.join (v.setterParameters.map fun p =>
    (if v.isStatic then className ++ "::" else "this->") ++ p.name ++ " = " ++ p.name ++ "; ")

def setterLine (className : String) (v : PropertyText) (setter : String) : String :=
  "    " ++ staticText v.isStatic ++ "void " ++ setter ++ "(" ++ declarations v.setterParameters ++
    ") \x7b " ++ v.assignments className ++ "\x7d"

def accessorLines (className : String) (v : PropertyText) : List String :=
  v.getter.toList.map v.getterLine ++ v.setter.toList.map (v.setterLine className)

end PropertyText

namespace MethodText

def declaration (v : MethodText) : String :=
  (if v.isStatic then "static " else if v.isVirtual then "virtual " else "") ++ v.returnType ++
    " " ++ v.name ++ "(" ++ declarations v.parameters ++ ");"

def line (v : MethodText) : String :=
  "    " ++ v.declaration

def overrideLine (v : MethodText) : String :=
  "    " ++ v.returnType ++ " " ++ v.name ++ "(" ++ declarations v.parameters ++ ") override;"

end MethodText

def bracedLines (body : List String) : List String :=
  ["    \x7b"] ++ body.map ("        " ++ ·) ++ ["    \x7d"]

def Initializer.declaration (v : Initializer) : String :=
  v.name ++ "(" ++ v.source ++ ")"

namespace ConstructorText

def heading (className : String) (v : ConstructorText) : String :=
  "    " ++ className ++ "(" ++
    (if v.isCopy then "const " ++ className ++ "& other" else declarations v.parameters) ++ ")"

def initializerLines (v : ConstructorText) : List String :=
  if v.initializers.isEmpty then []
  else ["        : " ++ ", ".intercalate (v.initializers.map Initializer.declaration)]

def lines (className : String) (v : ConstructorText) : List String :=
  [v.heading className] ++ v.initializerLines ++ bracedLines v.body

end ConstructorText

/-! The texts of the parts and pieces of the bundled skeleton. -/

namespace Skeleton.Cpp

section Parts
variable {attributes : Json} {depth : Nat} {arguments : String → Option Json}

/-- The scope of a part that is called with one argument. -/
private abbrev called (name : String) (value attributes : Json) : Scope :=
  ⟨[], [(name, value)], attributes⟩

private theorem bindParameters_singleton {name : String} {value : Json}
    (h : arguments name = some value) : bindParameters arguments [name] = some [(name, value)] := by
  rw [bindParameters, List.mapM_cons, h]
  rfl

theorem renderPart_parameters {vs : List ParameterText}
    (h : arguments "list" = some (.list (vs.map ParameterText.toJson))) :
    Cpp.skeleton.renderPart attributes (depth + 1) "parameters" arguments =
      some (declarations vs) := by
  have hdeclaration (v : ParameterText) (i n : Nat) {answer : Answer} :
      renderPieces answer
        ((called "list" (.list (vs.map ParameterText.toJson)) attributes).inTurn "p" v.toJson i n)
        [out "p" ["Type"], .text " ", out "p" ["Name"], out "p" ["ArraySuffix"]] =
          some v.declaration :=
    renderPieces_join [v.type, " ", v.name, v.arraySuffix]
      (.cons rfl (.cons rfl (.cons rfl (.cons rfl .nil)))) (by simp [ParameterText.declaration])
  refine renderPart_eq Cpp.parameters rfl (bindParameters_singleton h) ?_
  exact renderPieces_join [declarations vs]
    (.cons (renderPiece_commaSeparated rfl fun v _ i n => hdeclaration v i n) .nil) (by simp)

theorem renderPart_field {v : PropertyText} (h : arguments "p" = some v.toJson) :
    Cpp.skeleton.renderPart attributes (depth + 1) "field" arguments = some v.declaration := by
  refine renderPart_eq Cpp.field rfl (bindParameters_singleton h) ?_
  have hstatic : renderPiece (Cpp.skeleton.calls attributes depth) (called "p" v.toJson attributes)
      (static "p") = some (staticText v.isStatic) :=
    renderPiece_given _ rfl rfl
  exact renderPieces_join [staticText v.isStatic, v.type, " ", v.name, v.arraySuffix, ";"]
    (.cons hstatic (.cons rfl (.cons rfl (.cons rfl (.cons rfl (.cons rfl .nil))))))
    (by simp [PropertyText.declaration])

theorem renderPart_method {v : MethodText} (h : arguments "m" = some v.toJson) :
    Cpp.skeleton.renderPart attributes (depth + 2) "method" arguments = some v.declaration := by
  refine renderPart_eq Cpp.method rfl (bindParameters_singleton h) ?_
  have hmodifier : renderPiece (Cpp.skeleton.calls attributes (depth + 1))
      (called "m" v.toJson attributes)
      (.branch (.path "m" ["IsStatic"]) [.text "static "]
        [given (.path "m" ["IsVirtual"]) [.text "virtual "]]) =
      some (if v.isStatic then "static " else if v.isVirtual then "virtual " else "") :=
    renderPiece_branch _ rfl rfl (renderPieces_eq (.cons (renderPiece_given _ rfl rfl) .nil))
  exact renderPieces_join [_, v.returnType, " ", v.name, "(", declarations v.parameters, ");"]
    (.cons hmodifier (.cons rfl (.cons rfl (.cons rfl (.cons rfl
      (.cons (renderPiece_called (renderPart_parameters rfl)) (.cons rfl .nil)))))))
    (by simp [MethodText.declaration])

end Parts

end Skeleton.Cpp

namespace ModelClass

/-- The attributes of a class with manual memory that is no interface. -/
def nativeAttributes (c : ModelClass) : List (String × Json) :=
  c.memberAttributes .cpp ++ c.parentAttributes .cpp ++
    [constructorAttribute c.nativeConstructorTexts,
      ("HasDestructor", .bool !c.releaseBody.isEmpty),
      ("DestructorContents", .texts (linesOf c.releaseBody)),
      ("CopyAssignOperator", .text c.assignmentText)]

def templateLines (c : ModelClass) : List String :=
  if c.templateParameters.isEmpty then []
  else ["template <" ++ ", ".intercalate (c.templateParameters.map ("typename " ++ ·)) ++ ">"]

def classLine (c : ModelClass) : String :=
  "class " ++ c.name ++
    if c.parents.isEmpty then "" else " : " ++ ", ".intercalate (c.parents.map ModelParent.spell)

def friendLine (friend : String) : String :=
  "    " ++ ("friend class " ++ friend ++ ";")

def destructorLines (c : ModelClass) : List String :=
  if c.releaseBody.isEmpty then []
  else ["    ~" ++ c.name ++ "()"] ++ bracedLines (linesOf c.releaseBody)

/-- The assignment operator with its first line indented as well. -/
def operatorLines (c : ModelClass) : List String :=
  if c.copyAssignment then c.assignmentLines.modifyHead ("    " ++ ·) else []

def methodLines (access : Access) (c : ModelClass) : List String :=
  (c.methodTextsOf .cpp access).map MethodText.line

def fieldLines (access : Access) (c : ModelClass) : List String :=
  (c.propertyTextsOf .cpp access).map PropertyText.line

/-- The lines before the first label. -/
def headLines (c : ModelClass) : List String :=
  c.templateLines ++ [c.classLine, "\x7b"] ++ c.friends.map friendLine

/-- The lines of the public section before its fields. -/
def frontLines (c : ModelClass) : List String :=
  c.nativeConstructorTexts.flatMap (ConstructorText.lines c.name) ++ c.destructorLines ++
    c.operatorLines ++ c.methodLines .pub ++ (c.overriddenTexts .cpp).map MethodText.overrideLine ++
    (c.propertyTexts .cpp).flatMap (PropertyText.accessorLines c.name)

/-- The members of one access below their label, unless there are none. -/
def sectionLines (access : Access) (c : ModelClass) : List String :=
  if (c.methodTextsOf .cpp access).isEmpty && (c.propertyTextsOf .cpp access).isEmpty then []
  else [access.name ++ ":"] ++ c.methodLines access ++ c.fieldLines access

def sourceLines (c : ModelClass) : List String :=
  c.headLines ++ ["public:"] ++ c.frontLines ++ c.fieldLines .pub ++ c.sectionLines .prot ++
    c.sectionLines .priv ++ ["\x7d;"]

section Pieces
variable (c : ModelClass) (depth : Nat)

private abbrev answer : Answer :=
  Cpp.skeleton.calls (.record c.nativeAttributes) (depth + 2)

private abbrev scope : Scope :=
  .ofAttributes c.nativeAttributes

theorem render_methodLines (access : Access) {key : String}
    (hk : c.scope.find? attributesName [key] =
      some (.list ((c.methodTextsOf .cpp access).map MethodText.toJson))) :
    renderPiece (c.answer depth) c.scope (Cpp.methodLines key) =
      some (below (c.methodLines access)) := by
  have hline (v : MethodText) (i n : Nat) : renderPieces (c.answer depth)
      (c.scope.inTurn "m" v.toJson i n)
      [.text "\n    ", called "method" [("m", .path "m" [])]] = some ("\n" ++ v.line) :=
    renderPieces_join ["\n    ", v.declaration]
      (.cons rfl (.cons (renderPiece_called (Cpp.renderPart_method rfl)) .nil))
      (by simp [MethodText.line])
  rw [below, methodLines, List.map_map]
  exact renderPiece_loop hk fun v _ i n => hline v i n

theorem render_fieldLines (access : Access) {key : String}
    (hk : c.scope.find? attributesName [key] =
      some (.list ((c.propertyTextsOf .cpp access).map PropertyText.toJson))) :
    renderPiece (c.answer depth) c.scope (Cpp.fieldLines key) =
      some (below (c.fieldLines access)) := by
  have hline (v : PropertyText) (i n : Nat) : renderPieces (c.answer depth)
      (c.scope.inTurn "p" v.toJson i n)
      [.text "\n    ", called "field" [("p", .path "p" [])]] = some ("\n" ++ v.line) :=
    renderPieces_join ["\n    ", v.declaration]
      (.cons rfl (.cons (renderPiece_called (Cpp.renderPart_field rfl)) .nil))
      (by simp [PropertyText.line])
  rw [below, fieldLines, List.map_map]
  exact renderPiece_loop hk fun v _ i n => hline v i n

theorem render_accessSection (access : Access) {methods fields : String}
    (hm : c.scope.find? attributesName [methods] =
      some (.list ((c.methodTextsOf .cpp access).map MethodText.toJson)))
    (hf : c.scope.find? attributesName [fields] =
      some (.list ((c.propertyTextsOf .cpp access).map PropertyText.toJson))) :
    renderPiece (c.answer depth) c.scope (Cpp.accessSection access.name methods fields) =
      some (below (c.sectionLines access)) := by
  have hholds : (Expr.either (.path attributesName [methods]) (.path attributesName [fields])).holds
      (c.answer depth) c.scope = some (!(c.methodTextsOf .cpp access).isEmpty ||
        !(c.propertyTextsOf .cpp access).isEmpty) := by
    simp only [Expr.holds, hm, hf, Option.any_some, Json.isTruthy, List.isEmpty_map]
    cases (c.methodTextsOf .cpp access).isEmpty <;> rfl
  have hlines : renderPieces (c.answer depth) c.scope
      [.text ("\n" ++ access.name ++ ":"), Cpp.methodLines methods, Cpp.fieldLines fields] =
        some (below ([access.name ++ ":"] ++ c.methodLines access ++ c.fieldLines access)) :=
    renderPieces_join ["\n" ++ access.name ++ ":", below (c.methodLines access),
        below (c.fieldLines access)]
      (.cons rfl (.cons (c.render_methodLines depth access hm)
        (.cons (c.render_fieldLines depth access hf) .nil))) (by simp)
  refine (renderPiece_given _ hholds hlines).trans (congrArg some ?_)
  rw [sectionLines, ← Bool.not_and]
  cases (c.methodTextsOf .cpp access).isEmpty && (c.propertyTextsOf .cpp access).isEmpty <;> rfl

theorem render_heading : renderPiece (c.answer depth) c.scope
    (called "heading" [("a", .path "a" [])]) =
      some ("\n".intercalate (c.templateLines ++ [c.classLine])) := by
  have htypename (parameter : String) (i n : Nat) :
      renderPieces (Cpp.skeleton.calls (.record c.nativeAttributes) (depth + 1))
        (c.scope.inTurn "t" (.text parameter) i n) [.text "typename ", out "t" []] =
          some ("typename " ++ parameter) :=
    renderPieces_join ["typename ", parameter] (.cons rfl (.cons rfl .nil)) (by simp)
  have htemplate : renderPieces (Cpp.skeleton.calls (.record c.nativeAttributes) (depth + 1)) c.scope
      [.text "template <",
        commaSeparated "t" (.path "a" ["TemplateTypesData"]) [.text "typename ", out "t" []],
        .text ">\n"] =
      some ("template <" ++ ", ".intercalate (c.templateParameters.map ("typename " ++ ·)) ++ ">\n") :=
    renderPieces_join ["template <", ", ".intercalate (c.templateParameters.map ("typename " ++ ·)),
      ">\n"] (.cons rfl (.cons (renderPiece_commaSeparated rfl fun parameter _ i n =>
        htypename parameter i n) (.cons rfl .nil))) (by simp)
  have hparents : renderPieces (Cpp.skeleton.calls (.record c.nativeAttributes) (depth + 1)) c.scope
      [.text " : ", commaJoined "InheritedClasses"] =
        some (" : " ++ ", ".intercalate (c.parents.map ModelParent.spell)) :=
    renderPieces_join [" : ", ", ".intercalate (c.parents.map ModelParent.spell)]
      (.cons rfl (.cons (renderPiece_commaJoined rfl) .nil)) (by simp)
  have hbody : renderPieces (Cpp.skeleton.calls (.record c.nativeAttributes) (depth + 1)) c.scope
      Cpp.heading.body = some ("\n".intercalate (c.templateLines ++ [c.classLine])) := by
    refine renderPieces_join [_, "class ", c.name, _]
      (.cons (renderPiece_given _ (holds_list rfl) htemplate) (.cons rfl (.cons rfl
        (.cons (renderPiece_given _ (holds_list rfl) hparents) .nil)))) ?_
    rw [templateLines, classLine, List.isEmpty_map]
    cases c.templateParameters.isEmpty <;> cases c.parents.isEmpty <;> simp
  exact renderPiece_called (renderPart_eq Cpp.heading rfl rfl hbody)

theorem render_friends : renderPiece (c.answer depth) c.scope
    (each "f" "FriendClasses" [.text "\n    friend class ", out "f" [], .text ";"]) =
      some (below (c.friends.map friendLine)) := by
  have hline (friend : String) (i n : Nat) : renderPieces (c.answer depth)
      (c.scope.inTurn "f" (.text friend) i n)
      [.text "\n    friend class ", out "f" [], .text ";"] = some ("\n" ++ friendLine friend) :=
    renderPieces_join ["\n    friend class ", friend, ";"] (.cons rfl (.cons rfl (.cons rfl .nil)))
      (by simp [friendLine])
  rw [below, List.map_map]
  exact renderPiece_loop rfl fun friend _ i n => hline friend i n

private theorem render_constructorHeading (v : ConstructorText) (i n : Nat) :
    renderPiece (c.answer depth) (c.scope.inTurn "c" v.toJson i n)
      (.branch (.path "c" ["IsCopy"])
        [bound "ClassName", .text "(const ", bound "ClassName", .text "& other)"]
        [bound "ClassName", .text "(",
          called "parameters" [("list", .path "c" ["Parameters"])], .text ")"]) =
      some (c.name ++ "(" ++
        (if v.isCopy then "const " ++ c.name ++ "& other" else declarations v.parameters) ++ ")") := by
  have hcopy : renderPieces (c.answer depth) (c.scope.inTurn "c" v.toJson i n)
      [bound "ClassName", .text "(const ", bound "ClassName", .text "& other)"] =
        some (c.name ++ "(" ++ ("const " ++ c.name ++ "& other") ++ ")") :=
    renderPieces_join [c.name, "(const ", c.name, "& other)"]
      (.cons rfl (.cons rfl (.cons rfl (.cons rfl .nil)))) (by simp)
  have hdeclared : renderPieces (c.answer depth) (c.scope.inTurn "c" v.toJson i n)
      [bound "ClassName", .text "(", called "parameters" [("list", .path "c" ["Parameters"])],
        .text ")"] = some (c.name ++ "(" ++ declarations v.parameters ++ ")") :=
    renderPieces_join [c.name, "(", declarations v.parameters, ")"]
      (.cons rfl (.cons rfl (.cons (renderPiece_called (Cpp.renderPart_parameters rfl))
        (.cons rfl .nil)))) (by simp)
  refine (renderPiece_branch v.isCopy rfl hcopy hdeclared).trans (congrArg some ?_)
  cases v.isCopy <;> rfl

private theorem render_initializers (v : ConstructorText) (i n : Nat) :
    renderPiece (c.answer depth) (c.scope.inTurn "c" v.toJson i n)
      (given (.path "c" ["Initializers"]) [
        .text "\n        : ",
        commaSeparated "i" (.path "c" ["Initializers"])
          [out "i" ["Name"], .text "(", out "i" ["Source"], .text ")"]]) =
      some (below v.initializerLines) := by
  have hinitializer (initializer : Initializer) (j k : Nat) : renderPieces (c.answer depth)
      ((c.scope.inTurn "c" v.toJson i n).inTurn "i" initializer.toJson j k)
      [out "i" ["Name"], .text "(", out "i" ["Source"], .text ")"] =
        some initializer.declaration :=
    renderPieces_join [initializer.name, "(", initializer.source, ")"]
      (.cons rfl (.cons rfl (.cons rfl (.cons rfl .nil)))) (by simp [Initializer.declaration])
  have hlist : renderPieces (c.answer depth) (c.scope.inTurn "c" v.toJson i n) [
      .text "\n        : ",
      commaSeparated "i" (.path "c" ["Initializers"])
        [out "i" ["Name"], .text "(", out "i" ["Source"], .text ")"]] =
        some ("\n        : " ++ ", ".intercalate (v.initializers.map Initializer.declaration)) :=
    renderPieces_join ["\n        : ", ", ".intercalate (v.initializers.map Initializer.declaration)]
      (.cons rfl (.cons (renderPiece_commaSeparated rfl fun initializer _ j k =>
        hinitializer initializer j k) .nil)) (by simp)
  refine (renderPiece_given _ (holds_list rfl) hlist).trans (congrArg some ?_)
  rw [ConstructorText.initializerLines]
  cases v.initializers.isEmpty with
  | true => rfl
  | false => exact String.toList_inj.mp (by simp)

theorem render_constructors : renderPiece (c.answer depth) c.scope Cpp.constructorLines =
    some (below (c.nativeConstructorTexts.flatMap (ConstructorText.lines c.name))) := by
  rw [below_flatMap]
  refine renderPiece_loop rfl fun v _ i n => ?_
  exact renderPieces_join ["\n    ", c.name ++ "(" ++
      (if v.isCopy then "const " ++ c.name ++ "& other" else declarations v.parameters) ++ ")",
      below v.initializerLines, "\n    \x7b", below (v.body.map ("        " ++ ·)), "\n    \x7d"]
    (.cons rfl (.cons (c.render_constructorHeading depth v i n)
      (.cons (c.render_initializers depth v i n) (.cons rfl
        (.cons (renderPiece_bodyLines rfl) (.cons rfl .nil))))))
    (by simp [ConstructorText.lines, ConstructorText.heading, bracedLines])

theorem render_destructor : renderPiece (c.answer depth) c.scope Cpp.destructorLines =
    some (below c.destructorLines) := by
  have hlines : renderPieces (c.answer depth) c.scope [
      .text "\n    ~", bound "ClassName", .text "()\n    \x7b",
      bodyLines (.path "a" ["DestructorContents"]), .text "\n    \x7d"] =
        some (below (["    ~" ++ c.name ++ "()"] ++ bracedLines (linesOf c.releaseBody))) :=
    renderPieces_join ["\n    ~", c.name, "()\n    \x7b",
        below ((linesOf c.releaseBody).map ("        " ++ ·)), "\n    \x7d"]
      (.cons rfl (.cons rfl (.cons rfl (.cons (renderPiece_bodyLines rfl) (.cons rfl .nil)))))
      (by simp [bracedLines])
  refine (renderPiece_given (!c.releaseBody.isEmpty) rfl hlines).trans (congrArg some ?_)
  rw [destructorLines]
  cases c.releaseBody.isEmpty <;> rfl

theorem render_operator : renderPiece (c.answer depth) c.scope
    (given (.path "a" ["CopyAssignOperator"]) [.text "\n    ", bound "CopyAssignOperator"]) =
      some (below c.operatorLines) := by
  have htext : renderPieces (c.answer depth) c.scope
      [.text "\n    ", bound "CopyAssignOperator"] = some ("\n    " ++ c.assignmentText) :=
    renderPieces_join ["\n    ", c.assignmentText] (.cons rfl (.cons rfl .nil)) (by simp)
  refine (renderPiece_given (!c.assignmentText.isEmpty) rfl htext).trans (congrArg some ?_)
  rw [operatorLines, assignmentText]
  cases c.copyAssignment with
  | false => rfl
  | true =>
    refine String.toList_inj.mp ?_
    rw [assignmentLines, assignmentHead]
    simp [intercalate_cons]

theorem render_overrides : renderPiece (c.answer depth) c.scope
    (each "m" "OverriddenMethods" [
      .text "\n    ", out "m" ["ReturnType"], .text " ", out "m" ["Name"], .text "(",
      called "parameters" [("list", .path "m" ["Parameters"])], .text ") override;"]) =
      some (below ((c.overriddenTexts .cpp).map MethodText.overrideLine)) := by
  have hline (v : MethodText) (i n : Nat) : renderPieces (c.answer depth)
      (c.scope.inTurn "m" v.toJson i n)
      [.text "\n    ", out "m" ["ReturnType"], .text " ", out "m" ["Name"], .text "(",
        called "parameters" [("list", .path "m" ["Parameters"])], .text ") override;"] =
        some ("\n" ++ v.overrideLine) :=
    renderPieces_join
      ["\n    ", v.returnType, " ", v.name, "(", declarations v.parameters, ") override;"]
      (.cons rfl (.cons rfl (.cons rfl (.cons rfl (.cons rfl
        (.cons (renderPiece_called (Cpp.renderPart_parameters rfl)) (.cons rfl .nil)))))))
      (by simp [MethodText.overrideLine])
  rw [below, List.map_map]
  exact renderPiece_loop rfl fun v _ i n => hline v i n

/-- An accessor has its line where it has a name. -/
private theorem below_accessor {name : Option String} (hn : ∀ s ∈ name, s ≠ "")
    (line : String → String) :
    (if (Json.optional .text name).isTruthy then "\n" ++ line (Json.optional .text name).display
      else "") = below (name.toList.map line) := by
  cases name with
  | none => rfl
  | some s =>
    have hs : s.isEmpty = false := by simpa using hn s rfl
    simp [Json.optional, Json.isTruthy, Json.display, hs]

private theorem render_getter {v : PropertyText} (hv : ∀ getter ∈ v.getter, getter ≠ "") (i n : Nat) :
    renderPiece (c.answer depth) (c.scope.inTurn "p" v.toJson i n)
      (given (.path "p" ["Getter"]) [
        .text "\n    ", Cpp.static "p", out "p" ["GetterType"], .text " ", out "p" ["Getter"],
        .text "()", given (.negation (.path "p" ["IsStatic"])) [.text " const"],
        .text " \x7b return ", out "p" ["Name"], .text "; \x7d"]) =
      some (below (v.getter.toList.map v.getterLine)) := by
  refine (renderPiece_given (Json.optional .text v.getter).isTruthy rfl
    (renderPieces_join ["\n    ", staticText v.isStatic, v.getterType, " ",
        (Json.optional .text v.getter).display, "()", if !v.isStatic then " const" else "",
        " \x7b return ", v.name, "; \x7d"]
      (.cons rfl (.cons (renderPiece_given _ rfl rfl) (.cons rfl (.cons rfl (.cons rfl (.cons rfl
        (.cons (renderPiece_given _ rfl rfl) (.cons rfl (.cons rfl (.cons rfl .nil)))))))))) ?_)).trans
    (congrArg some (below_accessor hv v.getterLine))
  rw [PropertyText.getterLine]
  cases v.isStatic <;> simp

private theorem render_assignments (v : PropertyText) (i n : Nat) :
    renderPiece (c.answer depth) (c.scope.inTurn "p" v.toJson i n)
      (.loop "s" (.path "p" ["SetterParameters"]) [
        .branch (.path "p" ["IsStatic"]) [bound "ClassName", .text "::"] [.text "this->"],
        out "s" ["Name"], .text " = ", out "s" ["Name"], .text "; "]) =
      some (v.assignments c.name) := by
  refine renderPiece_loop rfl fun p _ j k => ?_
  exact renderPieces_join [if v.isStatic then c.name ++ ("::" ++ "") else "this->" ++ "", p.name,
      " = ", p.name, "; "]
    (.cons (renderPiece_branch _ rfl rfl rfl) (.cons rfl (.cons rfl (.cons rfl (.cons rfl .nil)))))
    (by cases v.isStatic <;> simp)

private theorem render_setter {v : PropertyText} (hv : ∀ setter ∈ v.setter, setter ≠ "") (i n : Nat) :
    renderPiece (c.answer depth) (c.scope.inTurn "p" v.toJson i n)
      (given (.path "p" ["Setter"]) [
        .text "\n    ", Cpp.static "p", .text "void ", out "p" ["Setter"], .text "(",
        called "parameters" [("list", .path "p" ["SetterParameters"])], .text ") \x7b ",
        .loop "s" (.path "p" ["SetterParameters"]) [
          .branch (.path "p" ["IsStatic"]) [bound "ClassName", .text "::"] [.text "this->"],
          out "s" ["Name"], .text " = ", out "s" ["Name"], .text "; "],
        .text "\x7d"]) =
      some (below (v.setter.toList.map (v.setterLine c.name))) := by
  refine (renderPiece_given (Json.optional .text v.setter).isTruthy rfl
    (renderPieces_join ["\n    ", staticText v.isStatic, "void ",
        (Json.optional .text v.setter).display, "(", declarations v.setterParameters, ") \x7b ",
        v.assignments c.name, "\x7d"]
      (.cons rfl (.cons (renderPiece_given _ rfl rfl) (.cons rfl (.cons rfl (.cons rfl
        (.cons (renderPiece_called (Cpp.renderPart_parameters rfl)) (.cons rfl
          (.cons (c.render_assignments depth v i n) (.cons rfl .nil))))))))) ?_)).trans
    (congrArg some (below_accessor hv (v.setterLine c.name)))
  simp [PropertyText.setterLine]

/-- The names of accessors start with a word of their own. -/
private theorem accessors_ne_empty {c : ModelClass} {v : PropertyText} (hv : v ∈ c.propertyTexts .cpp) :
    (∀ getter ∈ v.getter, getter ≠ "") ∧ ∀ setter ∈ v.setter, setter ≠ "" := by
  obtain ⟨f, _, rfl⟩ := List.mem_map.mp hv
  constructor
  · intro getter hg
    obtain ⟨_, hg⟩ := Option.ite_none_right_eq_some.mp hg
    cases hg
    simp [Target.getterName]
  · intro setter hs
    obtain ⟨_, hs⟩ := Option.ite_none_right_eq_some.mp hs
    cases hs
    simp [Target.setterName]

theorem render_accessors : renderPiece (c.answer depth) c.scope Cpp.accessorLines =
    some (below ((c.propertyTexts .cpp).flatMap (PropertyText.accessorLines c.name))) := by
  rw [below_flatMap]
  refine renderPiece_loop rfl fun v hv i n => ?_
  obtain ⟨hgetter, hsetter⟩ := accessors_ne_empty hv
  exact renderPieces_join [below (v.getter.toList.map v.getterLine),
      below (v.setter.toList.map (v.setterLine c.name))]
    (.cons (c.render_getter depth hgetter i n) (.cons (c.render_setter depth hsetter i n) .nil))
    (by simp [PropertyText.accessorLines])

theorem render_nativeClass : (Instance.bindAll ⟨Cpp.group, "class", []⟩ c.nativeAttributes).render =
    .ok ("\n".intercalate c.sourceLines) := by
  refine Instance.render_eq Cpp.cls rfl rfl rfl fun depth => ?_
  refine renderPieces_join ["\n".intercalate (c.templateLines ++ [c.classLine]), "\n\x7b",
      below (c.friends.map friendLine), "\npublic:",
      below (c.nativeConstructorTexts.flatMap (ConstructorText.lines c.name)),
      below c.destructorLines, below c.operatorLines, below (c.methodLines .pub),
      below ((c.overriddenTexts .cpp).map MethodText.overrideLine),
      below ((c.propertyTexts .cpp).flatMap (PropertyText.accessorLines c.name)),
      below (c.fieldLines .pub), below (c.sectionLines .prot), below (c.sectionLines .priv), "\n\x7d;"]
    (.cons (c.render_heading depth) (.cons rfl (.cons (c.render_friends depth) (.cons rfl
      (.cons (c.render_constructors depth) (.cons (c.render_destructor depth)
        (.cons (c.render_operator depth) (.cons (c.render_methodLines depth .pub rfl)
          (.cons (c.render_overrides depth) (.cons (c.render_accessors depth)
            (.cons (c.render_fieldLines depth .pub rfl)
              (.cons (c.render_accessSection depth .prot rfl rfl)
                (.cons (c.render_accessSection depth .priv rfl rfl) (.cons rfl .nil)))))))))))))) ?_
  rw [sourceLines, headLines, frontLines]
  cases c.templateLines <;> simp [intercalate_cons]

end Pieces

/-- The source of a class with manual memory before it is put into its package. -/
def nativeCode {engine : TemplateEngine} (classes memory : Skeleton.Group engine) (c : ModelClass) :
    Except RenderFault String := do
  let part ← classes.start c.instanceName
  let own ← if c.isInterface then pure [] else c.ownershipAttributes classes memory
  (part.bindAll (c.memberAttributes .cpp ++ c.parentAttributes .cpp ++ own)).render

theorem writeNative_eq {engine : TemplateEngine} (classes memory : Skeleton.Group engine)
    (c : ModelClass) :
    c.writeNative classes memory = c.nativeCode classes memory >>= c.inNamespace classes := by
  unfold writeNative nativeCode
  cases classes.start c.instanceName with
  | error fault => rfl
  | ok part =>
    cases c.isInterface with
    | true => rfl
    | false => cases c.ownershipAttributes classes memory <;> rfl

/-- With the bundled skeletons a class that is no interface has these lines. -/
theorem nativeCode_eq {c : ModelClass} (hc : c.Legal .cpp)
    (hl : ∀ f ∈ c.fields, ∀ length ∈ f.type.lengthFields, IsName length)
    (hi : c.isInterface = false) :
    c.nativeCode Cpp.group Memory.group = .ok ("\n".intercalate c.sourceLines) := by
  have hname : c.instanceName = "class" := by simp [instanceName, hi]
  have hstart : Cpp.group.start "class" = .ok ⟨Cpp.group, "class", []⟩ := rfl
  have hrender := c.render_nativeClass
  rw [nativeAttributes] at hrender
  simpa [nativeCode, hname, hstart, hi, ownershipAttributes_eq hc hl, bind, Except.bind] using hrender

end ModelClass

end ClassScaffold
