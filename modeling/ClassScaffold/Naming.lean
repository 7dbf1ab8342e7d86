import ClassScaffold.Target

namespace ClassScaffold

def isIdentifierStart (c : Char) : Bool :=
  c.isAlpha

def isIdentifierRest (c : Char) : Bool :=
  c.isAlphanum || c == '_'

/-- A letter of the English alphabet, then such letters, digits and underscores. -/
def isIdentifier (s : String) : Bool :=
  match s.toList with
  | [] => false
  | c :: rest => isIdentifierStart c && rest.all isIdentifierRest

/-- Spellings of built-in types, some of several words, in ascending order. -/
def builtinTypes : List String :=
  ["bool", "char", "char16_t", "char32_t", "char8_t", "double", "float", "int", "int16_t",
    "int32_t", "int64_t", "int8_t", "long", "long double", "long int", "long long",
    "long long int", "short", "short int", "signed char", "size_t", "std::string",
    "std::wstring", "uint16_t", "uint32_t", "uint64_t", "uint8_t", "unsigned", "unsigned char",
    "unsigned int", "unsigned long", "unsigned long int", "unsigned long long",
    "unsigned long long int", "unsigned short", "unsigned short int", "void", "wchar_t"]

/-- A type is named by an identifier, or by a built-in spelling where the target has them. -/
def Target.isTypeName (target : Target) (s : String) : Bool :=
  isIdentifier s || (target.hasBuiltinTypes && builtinTypes.contains s)

end ClassScaffold
