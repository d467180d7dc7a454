import CrudPlan.Text.Cluster
import CrudPlan.Text.LetterCase

namespace CrudPlan.Text

namespace Cluster

def isUpper (g : List Char) : Bool := upper g != lower g && g == upper g

def isLower (g : List Char) : Bool := upper g != lower g && g == lower g

def isDigit (g : List Char) : Bool := g.all Char.isDigit

def isSeparator (g : List Char) : Bool := g == ['_'] || g == ['-'] || g == [' ']

end Cluster

open Cluster

/-- Whether a word ends between two clusters, whatever follows. -/
def changesKind (g h : List Char) : Bool :=
  (isLower g && isUpper h) || (isUpper g && isDigit h) || (isDigit g && isUpper h)
    || (isDigit g && isLower h) || (isLower g && isDigit h)

/-- Whether a word ends behind a cluster, given the clusters that follow. -/
def endsWord (g : List Char) : List (List Char) → Bool
  | [] => false
  | [h] => changesKind g h
  | h :: i :: _ => changesKind g h || (isUpper g && isUpper h && isLower i)

/-- The words of a text, empty ones included; the first one is the one that is under way. -/
def wordsFrom : List (List Char) → List (List (List Char))
  | [] => [[]]
  | g :: rest =>
    let words := wordsFrom rest
    if isSeparator g then [] :: words
    else if endsWord g rest then [g] :: words
    else
      match words with
      | [] => [[g]]
      | w :: ws => (g :: w) :: ws

/-- The words of a text, as clusters. -/
def words (cs : List Char) : List (List (List Char)) :=
  (wordsFrom (clusters cs)).filter fun w => !w.isEmpty

/-- A word with its first cluster in upper and the rest in lower case. -/
def capitalized : List (List Char) → List Char
  | [] => []
  | g :: rest => upper g ++ lower rest.flatten

/-- Words in lower case, all but the first one capitalized, written as one. -/
def joinCamel : List (List (List Char)) → List Char
  | [] => []
  | w :: ws => lower w.flatten ++ ws.flatMap capitalized

/-- The camel case of several texts that stand for words of one name. -/
def camelCase (parts : List String) : String :=
  String.ofList (joinCamel (words (" ".intercalate parts).toList))

end CrudPlan.Text
