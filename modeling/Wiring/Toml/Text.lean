import Wiring.Toml.Reader

/-!
Texts and keys. Double quotes allow escapes, single quotes do not; three of either quote a text of
several lines, in which up to two quotes in a row stand for themselves.
-/

namespace Wiring.Toml.Reader

def hexValue? (c : Char) : Option Nat :=
  if c.isDigit then some (c.toNat - '0'.toNat)
  else if 'a' ≤ c ∧ c ≤ 'f' then some (c.toNat - 'a'.toNat + 10)
  else if 'A' ≤ c ∧ c ≤ 'F' then some (c.toNat - 'A'.toNat + 10)
  else none

def isHexDigit (c : Char) : Bool := (hexValue? c).isSome

/-- The number that digits below `base` spell. -/
def numeral (base : Nat) (digits : List Char) : Nat :=
  digits.foldl (fun value c => value * base + (hexValue? c).getD 0) 0

/-- A character by its number, which has `count` digits. -/
def numberedChar (count : Nat) : Reader Char := do
  let code := numeral 16 (← exactly count isHexDigit)
  if code.isValidChar then return Char.ofNat code else failure

def escape : Reader Char := do
  char '\\'
  match ← where? fun _ => true with
  | 'b' => return '\x08'
  | 't' => return '\t'
  | 'n' => return '\n'
  | 'f' => return '\x0c'
  | 'r' => return '\r'
  | '"' => return '"'
  | '\\' => return '\\'
  | 'u' => numberedChar 4
  | 'U' => numberedChar 8
  | _ => failure

def isPlainIn (quote c : Char) : Bool := isText c && c != quote && !(quote == '"' && c == '\\')

/-- A text in `quote`s on one line. -/
def lineText (quote : Char) : Reader (List Char) := do
  char quote
  let pieces ← many (someOf (isPlainIn quote) <|> (do
    if quote == '"' then return [← escape] else failure))
  char quote
  return pieces.flatten

/-- A backslash at the end of a line: what is blank up to the next text is left out. -/
def joinedLines : Reader Unit := do
  char '\\'
  blanks
  newline
  discard (many ((do discard (someOf isBlank)) <|> newline))

/-- One quote or two, and no third. -/
def fewQuotes (quote : Char) : Reader (List Char) := do
  let quotes ← someOf (· == quote)
  if quotes.length ≤ 2 then return quotes else failure

/-- Three quotes, after up to two that belong to the text. -/
def closingQuotes (quote : Char) : Reader (List Char) :=
  (do
    let own ← exactly 2 (· == quote)
    word [quote, quote, quote]
    return own)
  <|> (do
    let own ← exactly 1 (· == quote)
    word [quote, quote, quote]
    return own)
  <|> (do
    word [quote, quote, quote]
    return [])

def blockText (quote : Char) : Reader (List Char) := do
  word [quote, quote, quote]
  discard (perhaps newline)
  let pieces ← many (someOf (isPlainIn quote)
    <|> fewQuotes quote
    <|> (do newline; return ['\n'])
    <|> (do
      if quote == '"' then (do joinedLines; return []) <|> (do return [← escape]) else failure))
  let last ← closingQuotes quote
  return pieces.flatten ++ last

def text : Reader String := String.ofList <$>
  (blockText '"' <|> lineText '"' <|> blockText '\'' <|> lineText '\'')

def isBareKey (c : Char) : Bool := c.isAlphanum || c == '_' || c == '-'

def key : Reader String := String.ofList <$> (lineText '"' <|> lineText '\'' <|> someOf isBareKey)

def maxPathLength : Nat := 79

/-- Keys with dots between them. -/
def path : Reader (List String) := do
  let keys ← separated (blanks *> key <* blanks) (char '.')
  if keys.length ≤ maxPathLength then return keys else failure

end Wiring.Toml.Reader
