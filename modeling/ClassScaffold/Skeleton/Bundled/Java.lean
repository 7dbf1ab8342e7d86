import ClassScaffold.Skeleton.Bundled.Pieces

namespace ClassScaffold.Skeleton.Java

def parameters : Part where
  name := "parameters"
  parameters := ["list"]
  body := [commaSeparated "p" (.path "list" []) [out "p" ["Type"], .text " ", out "p" ["Name"]]]

def generics : Part where
  name := "generics"
  parameters := ["a"]
  body := [given (.path "a" ["TemplateTypesData"])
    [.text "<", commaJoined "TemplateTypesData", .text ">"]]

def callGenerics : Piece :=
  called "generics" [("a", .path "a" [])]

def static (root : String) : Piece :=
  given (.path root ["IsStatic"]) [.text "static "]

def method : Part where
  name := "method"
  parameters := ["m", "access"]
  body := [
    out "access" [], .text " ", static "m", out "m" ["ReturnType"], .text " ", out "m" ["Name"],
    .text "(", called "parameters" [("list", .path "m" ["Parameters"])],
    .text ") \x7b\n        throw new UnsupportedOperationException();\n    \x7d"]

def field : Part where
  name := "field"
  parameters := ["p"]
  body := [out "p" ["Access"], .text " ", static "p", out "p" ["Type"], .text " ",
    out "p" ["Name"], .text ";"]

def fieldLines (fields : String) : Piece :=
  each "p" fields [.text "\n    ", called "field" [("p", .path "p" [])]]

def methodLines (start methods access : String) : Piece :=
  each "m" methods
    [.text ("\n\n    " ++ start), called "method" [("m", .path "m" []), ("access", .text access)]]

def constructorLines : Piece :=
  each "c" "Constructors" [
    .text "\n\n    public ", bound "ClassName", .text "(",
    .branch (.path "c" ["IsCopy"])
      [bound "ClassName", callGenerics, .text " other"]
      [called "parameters" [("list", .path "c" ["Parameters"])]],
    .text ") \x7b",
    .loop "i" (.path "c" ["Initializers"])
      [.text "\n        this.", out "i" ["Name"], .text " = ", out "i" ["Source"], .text ";"],
    bodyLines (.path "c" ["Body"]), .text "\n    \x7d"]

def accessorLines : Piece :=
  each "p" "Properties" [
    given (.path "p" ["Getter"]) [
      .text "\n\n    public ", static "p", out "p" ["Type"], .text " ", out "p" ["Getter"],
      .text "() \x7b\n        return ", out "p" ["Name"], .text ";\n    \x7d"],
    given (.path "p" ["Setter"]) [
      .text "\n\n    public ", static "p", .text "void ", out "p" ["Setter"], .text "(",
      called "parameters" [("list", .path "p" ["SetterParameters"])], .text ") \x7b",
      .loop "s" (.path "p" ["SetterParameters"]) [
        .text "\n        ",
        .branch (.path "p" ["IsStatic"]) [bound "ClassName"] [.text "this"],
        .text ".", out "s" ["Name"], .text " = ", out "s" ["Name"], .text ";"],
      .text "\n    \x7d"]]

def cls : Part where
  name := "class"
  parameters := ["a"]
  body := [
    .text "public class ", bound "ClassName", callGenerics,
    given (.path "a" ["BaseClasses"]) [.text " extends ", commaJoined "BaseClasses"],
    given (.path "a" ["Interfaces"]) [.text " implements ", commaJoined "Interfaces"],
    .text " \x7b",
    fieldLines "PublicProperties", fieldLines "ProtectedProperties",
    fieldLines "PrivateProperties", constructorLines, accessorLines,
    methodLines "" "PublicMethods" "public",
    methodLines "@Override\n    " "OverriddenMethods" "public",
    methodLines "" "ProtectedMethods" "protected", methodLines "" "PrivateMethods" "private",
    .text "\n\x7d"]

def interface : Part where
  name := "interface"
  parameters := ["a"]
  body := [
    .text "public interface ", bound "ClassName", callGenerics,
    given (.path "a" ["Interfaces"]) [.text " extends ", commaJoined "Interfaces"], .text " \x7b",
    each "m" "PublicMethods" [
      .text "\n    ", out "m" ["ReturnType"], .text " ", out "m" ["Name"], .text "(",
      called "parameters" [("list", .path "m" ["Parameters"])], .text ");"],
    .text "\n\x7d"]

def namespacePart : Part where
  name := "namespace"
  parameters := ["a"]
  body := [.text "package ", bound "FullPackagePath", .text ";\n\n", bound "ClassCode"]

def skeleton : Skeleton where
  parts := [parameters, generics, method, field, cls, interface, namespacePart]

/-- The text that the skeleton is read from. -/
def text : String :=
  "\x7b# Class skeleton for the Java target. #\x7d

\x7b%- macro parameters(list) -%\x7d
\x7b% for p in list %\x7d\x7b\x7b p.Type \x7d\x7d \x7b\x7b p.Name \x7d\x7d\x7b% if not loop.last %\x7d, \x7b% endif %\x7d\x7b% endfor %\x7d
\x7b%- endmacro parameters -%\x7d

\x7b%- macro generics(a) -%\x7d
\x7b% if a.TemplateTypesData %\x7d<\x7b\x7b a.TemplateTypesData | join(sep=\", \") \x7d\x7d>\x7b% endif %\x7d
\x7b%- endmacro generics -%\x7d

\x7b%- macro method(m, access) -%\x7d
\x7b\x7b access \x7d\x7d \x7b% if m.IsStatic %\x7dstatic \x7b% endif %\x7d\x7b\x7b m.ReturnType \x7d\x7d \x7b\x7b m.Name \x7d\x7d(\x7b\x7b self::parameters(list=m.Parameters) \x7d\x7d) \x7b
        throw new UnsupportedOperationException();
    \x7d
\x7b%- endmacro method -%\x7d

\x7b%- macro field(p) -%\x7d
\x7b\x7b p.Access \x7d\x7d \x7b% if p.IsStatic %\x7dstatic \x7b% endif %\x7d\x7b\x7b p.Type \x7d\x7d \x7b\x7b p.Name \x7d\x7d;
\x7b%- endmacro field -%\x7d

\x7b%- macro class(a) -%\x7d
public class \x7b\x7b a.ClassName \x7d\x7d\x7b\x7b self::generics(a=a) \x7d\x7d\x7b% if a.BaseClasses %\x7d extends \x7b\x7b a.BaseClasses | join(sep=\", \") \x7d\x7d\x7b% endif %\x7d\x7b% if a.Interfaces %\x7d implements \x7b\x7b a.Interfaces | join(sep=\", \") \x7d\x7d\x7b% endif %\x7d \x7b
\x7b%- for p in a.PublicProperties %\x7d
    \x7b\x7b self::field(p=p) \x7d\x7d
\x7b%- endfor %\x7d
\x7b%- for p in a.ProtectedProperties %\x7d
    \x7b\x7b self::field(p=p) \x7d\x7d
\x7b%- endfor %\x7d
\x7b%- for p in a.PrivateProperties %\x7d
    \x7b\x7b self::field(p=p) \x7d\x7d
\x7b%- endfor %\x7d
\x7b%- for c in a.Constructors %\x7d

    public \x7b\x7b a.ClassName \x7d\x7d(\x7b% if c.IsCopy %\x7d\x7b\x7b a.ClassName \x7d\x7d\x7b\x7b self::generics(a=a) \x7d\x7d other\x7b% else %\x7d\x7b\x7b self::parameters(list=c.Parameters) \x7d\x7d\x7b% endif %\x7d) \x7b
\x7b%- for i in c.Initializers %\x7d
        this.\x7b\x7b i.Name \x7d\x7d = \x7b\x7b i.Source \x7d\x7d;
\x7b%- endfor %\x7d
\x7b%- for line in c.Body %\x7d
        \x7b\x7b line \x7d\x7d
\x7b%- endfor %\x7d
    \x7d
\x7b%- endfor %\x7d
\x7b%- for p in a.Properties %\x7d
\x7b%- if p.Getter %\x7d

    public \x7b% if p.IsStatic %\x7dstatic \x7b% endif %\x7d\x7b\x7b p.Type \x7d\x7d \x7b\x7b p.Getter \x7d\x7d() \x7b
        return \x7b\x7b p.Name \x7d\x7d;
    \x7d
\x7b%- endif %\x7d
\x7b%- if p.Setter %\x7d

    public \x7b% if p.IsStatic %\x7dstatic \x7b% endif %\x7dvoid \x7b\x7b p.Setter \x7d\x7d(\x7b\x7b self::parameters(list=p.SetterParameters) \x7d\x7d) \x7b
\x7b%- for s in p.SetterParameters %\x7d
        \x7b% if p.IsStatic %\x7d\x7b\x7b a.ClassName \x7d\x7d\x7b% else %\x7dthis\x7b% endif %\x7d.\x7b\x7b s.Name \x7d\x7d = \x7b\x7b s.Name \x7d\x7d;
\x7b%- endfor %\x7d
    \x7d
\x7b%- endif %\x7d
\x7b%- endfor %\x7d
\x7b%- for m in a.PublicMethods %\x7d

    \x7b\x7b self::method(m=m, access=\"public\") \x7d\x7d
\x7b%- endfor %\x7d
\x7b%- for m in a.OverriddenMethods %\x7d

    @Override
    \x7b\x7b self::method(m=m, access=\"public\") \x7d\x7d
\x7b%- endfor %\x7d
\x7b%- for m in a.ProtectedMethods %\x7d

    \x7b\x7b self::method(m=m, access=\"protected\") \x7d\x7d
\x7b%- endfor %\x7d
\x7b%- for m in a.PrivateMethods %\x7d

    \x7b\x7b self::method(m=m, access=\"private\") \x7d\x7d
\x7b%- endfor %\x7d
\x7d
\x7b%- endmacro class -%\x7d

\x7b%- macro interface(a) -%\x7d
public interface \x7b\x7b a.ClassName \x7d\x7d\x7b\x7b self::generics(a=a) \x7d\x7d\x7b% if a.Interfaces %\x7d extends \x7b\x7b a.Interfaces | join(sep=\", \") \x7d\x7d\x7b% endif %\x7d \x7b
\x7b%- for m in a.PublicMethods %\x7d
    \x7b\x7b m.ReturnType \x7d\x7d \x7b\x7b m.Name \x7d\x7d(\x7b\x7b self::parameters(list=m.Parameters) \x7d\x7d);
\x7b%- endfor %\x7d
\x7d
\x7b%- endmacro interface -%\x7d

\x7b%- macro namespace(a) -%\x7d
package \x7b\x7b a.FullPackagePath \x7d\x7d;

\x7b\x7b a.ClassCode \x7d\x7d
\x7b%- endmacro namespace -%\x7d
"

end ClassScaffold.Skeleton.Java
