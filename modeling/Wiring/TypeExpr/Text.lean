import Wiring.TypeExpr.Basic
import Wiring.Text.Shorten

/-!
The written form of a type: its name, its arguments between angle brackets, brackets after the
element of an array, a question mark for an annotation.
-/

namespace Wiring.TypeExpr

mutual
def chars : TypeExpr → List Char
  | ⟨kind, name, args, nullable⟩ =>
    (if kind = .array then elementChars args ++ ['[', ']']
      else name.toList ++ argumentChars args) ++
      if nullable then ['?'] else []

/-- An array without an element has a question mark in its place. -/
def elementChars : List TypeExpr → List Char
  | [] => ['?']
  | element :: _ => element.chars

def argumentChars : List TypeExpr → List Char
  | [] => []
  | type :: types => '<' :: type.chars ++ furtherChars types

def furtherChars : List TypeExpr → List Char
  | [] => ['>']
  | type :: types => ',' :: ' ' :: type.chars ++ furtherChars types
end

def text (type : TypeExpr) : String := String.ofList type.chars

/-- The text that messages show: every path is shortened. -/
def displayName (type : TypeExpr) : String := Text.shorten type.text

/-- The text of a type's identity; annotations inside its arguments are those of the type at
hand. -/
def identityText (type : TypeExpr) : String := type.bare.text

/-- The same, marked as the text of an identity. -/
def markedIdentityText (type : TypeExpr) : String := "TypeKey(" ++ type.identityText ++ ")"

end Wiring.TypeExpr
