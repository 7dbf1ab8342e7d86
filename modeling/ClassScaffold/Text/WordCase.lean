import ClassScaffold.Text.Case
import ClassScaffold.Text.Cluster

namespace ClassScaffold.Text

def isLowerCluster (cluster : List Char) : Bool :=
  cluster == lowerText cluster && upperText cluster != lowerText cluster

def isUpperCluster (cluster : List Char) : Bool :=
  cluster == upperText cluster && upperText cluster != lowerText cluster

def isDigitCluster (cluster : List Char) : Bool :=
  cluster.all Char.isDigit

def isWordSeparator (cluster : List Char) : Bool :=
  cluster == ['_'] || cluster == ['-'] || cluster == [' ']

/-- Whether a word ends between `a` and `b`, where `next` follows `b`. The last of several
capitals opens the word that goes on in small letters. -/
def endsWord (a b : List Char) (next : Option (List Char)) : Bool :=
  (isLowerCluster a && isUpperCluster b) || (isLowerCluster a && isDigitCluster b) ||
    (isUpperCluster a && isDigitCluster b) || (isDigitCluster a && isLowerCluster b) ||
    (isDigitCluster a && isUpperCluster b) ||
    (isUpperCluster a && isUpperCluster b && next.any isLowerCluster)

/-- Words of the clusters, where `word` is the reversed start of the current one. -/
def wordsFrom : List (List Char) → List (List Char) → List (List Char)
  | word, [] => [word.reverse.flatten]
  | word, c :: rest =>
    if isWordSeparator c then word.reverse.flatten :: wordsFrom [] rest
    else match word with
      | a :: _ =>
        if endsWord a c rest.head? then word.reverse.flatten :: wordsFrom [c] rest
        else wordsFrom (c :: word) rest
      | [] => wordsFrom [c] rest

def capitalized : List Char → List Char
  | [] => []
  | c :: rest => upper c ++ lowerText rest

/-- Every word with a capital first letter, and nothing between the words. -/
def pascalCase (s : String) : String :=
  String.ofList ((wordsFrom [] (clusters s.toList)).flatMap capitalized)

end ClassScaffold.Text
