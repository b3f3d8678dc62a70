import Wiring.Text.Lowercase
import Wiring.Text.Shorten

/-!
Suggestions for a name that was not found. Names are compared by their short forms in lower case;
the score of a name depends on the two short forms alone, and equal scores are ordered by name.
-/

namespace Wiring.Text

/-- What a name is compared by. -/
def comparedForm (name : String) : List Char := lowercase (shorten name).toList

def byteLength : List Char → Nat
  | [] => 0
  | c :: cs => c.utf8Size + byteLength cs

def occursIn (part : List Char) : List Char → Bool
  | [] => part.isEmpty
  | c :: cs => part.isPrefixOf (c :: cs) || occursIn part cs

def matchingPositions (a b : List Char) : Nat := ((a.zip b).filter fun (x, y) => x == y).length

def commonPrefixLength : List Char → List Char → Nat
  | a :: as, b :: bs => if a = b then commonPrefixLength as bs + 1 else 0
  | _, _ => 0

/-- About as long, and at least seven tenths of the characters in place. -/
def isTypoOf (wanted candidate : List Char) : Bool :=
  let longest := max (byteLength wanted) (byteLength candidate)
  longest - min (byteLength wanted) (byteLength candidate) ≤ 2 &&
    70 ≤ matchingPositions wanted candidate * 100 / longest

def similarity? (wanted candidate : List Char) : Option Nat :=
  if candidate = wanted then some 100
  else if occursIn wanted candidate || occursIn candidate wanted then some 80
  else if isTypoOf wanted candidate then some 60
  else
    let shared := commonPrefixLength wanted candidate
    if 4 ≤ shared then some (shared * 5) else none

structure Suggestion where
  score : Nat
  name : String
  deriving DecidableEq, Repr

/-- Higher scores come first, then names in the order of their characters. -/
def Suggestion.atLeast (a b : Suggestion) : Bool :=
  b.score < a.score || (a.score == b.score && decide (a.name ≤ b.name))

/-- Puts a suggestion before the first that it is at least as good as. -/
def Suggestion.insert (suggestion : Suggestion) : List Suggestion → List Suggestion
  | [] => [suggestion]
  | other :: rest =>
    if suggestion.atLeast other then suggestion :: other :: rest
    else other :: Suggestion.insert suggestion rest

def ranked (suggestions : List Suggestion) : List Suggestion :=
  suggestions.foldr Suggestion.insert []

/-- The suggestion a name gives rise to. A name is no suggestion for itself. -/
def suggestion? (requested : String) (wanted : List Char) (name : String) : Option Suggestion :=
  if name = requested then none else (similarity? wanted (comparedForm name)).map (⟨·, name⟩)

/-- Keeps the first of neighbours with the same name; `previous` is the name kept last. -/
def dropRepeats (previous : Option String) : List Suggestion → List Suggestion
  | [] => []
  | suggestion :: rest =>
    if previous = some suggestion.name then dropRepeats previous rest
    else suggestion :: dropRepeats (some suggestion.name) rest

def suggest (requested : String) (available : List String) (limit : Nat) : List String :=
  let wanted := comparedForm requested
  if wanted = [] then []
  else
    let best := dropRepeats none (ranked (available.filterMap (suggestion? requested wanted)))
    (best.take limit).map (·.name)

end Wiring.Text
