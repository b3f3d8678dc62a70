import Wiring.Unicode.Properties

/-!
Quoted texts: double quotes around a text in which quotes, backslashes, line and tab controls have
short escapes, and characters that do not show by themselves are written by their number.
-/

namespace Wiring.Text

def hexDigits (code : Nat) : List Char := Nat.toDigits 16 code

/-- The halfwidth sound marks extend the letter before them, yet take a cell of their own. -/
def isHalfwidthSoundMark (c : Char) : Bool := c = '\uff9e' || c = '\uff9f'

def isDrawnOnto (c : Char) : Bool := Unicode.isGraphemeExtend c && !isHalfwidthSoundMark c

def showsByItself (c : Char) : Bool :=
  Unicode.isPrintable c && !Unicode.isDefaultIgnorable c && !isDrawnOnto c

def quotedChar (c : Char) : List Char :=
  if c = '\x00' then ['\\', '0']
  else if c = '\t' then ['\\', 't']
  else if c = '\r' then ['\\', 'r']
  else if c = '\n' then ['\\', 'n']
  else if c = '"' then ['\\', '"']
  else if c = '\\' then ['\\', '\\']
  else if showsByItself c then [c]
  else ['\\', 'u', '\x7b'] ++ hexDigits c.toNat ++ ['\x7d']

def quoted (text : String) : String :=
  String.ofList ('"' :: text.toList.flatMap quotedChar ++ ['"'])

/-- How a message names the key of a service, after its type. -/
def keyClause : Option String → String
  | none => ""
  | some key => " (key " ++ quoted key ++ ")"

end Wiring.Text
