/-!
Short forms of type names. A name is a text of delimiters and paths; of each path only what
follows the last double colon is kept.
-/

namespace Wiring.Text

def isDelimiter (c : Char) : Bool :=
  c == '<' || c == '>' || c == ',' || c == ' ' || c == '[' || c == ']' || c == '?'

/-- `pending` is the path read since the last delimiter or double colon, last character first. -/
def shortenFrom (pending : List Char) : List Char → List Char
  | [] => pending.reverse
  | ':' :: ':' :: rest => shortenFrom [] rest
  | c :: rest =>
    if isDelimiter c then pending.reverse ++ c :: shortenFrom [] rest
    else shortenFrom (c :: pending) rest

def shorten (name : String) : String := String.ofList (shortenFrom [] name.toList)

end Wiring.Text
