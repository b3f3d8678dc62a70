import Wiring.Unicode.Lowercase
import Wiring.Unicode.Properties

/-!
Lower case of a text. A capital sigma at the end of a word, after a cased letter and before none,
becomes a final sigma; all other characters do not depend on their neighbours.
-/

namespace Wiring.Text

/-- The first character that is not case-ignorable is cased. -/
def meetsCased (cs : List Char) : Bool :=
  match cs.dropWhile Unicode.isCaseIgnorable with
  | [] => false
  | c :: _ => Unicode.isCased c

/-- `before` holds the characters already read, last character first. -/
def lowercaseFrom (before : List Char) : List Char → List Char
  | [] => []
  | 'Σ' :: rest =>
    (if meetsCased before && !meetsCased rest then 'ς' else 'σ') ::
      lowercaseFrom ('Σ' :: before) rest
  | c :: rest => Unicode.lowercaseChar c ++ lowercaseFrom (c :: before) rest

def lowercase (cs : List Char) : List Char := lowercaseFrom [] cs

end Wiring.Text
