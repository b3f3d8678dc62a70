/-!
Readers: each takes the characters still to be read and gives a value with the rest, or nothing. A
reader that gives nothing has read nothing, so another can be tried in its place.
-/

namespace Wiring.Toml

abbrev Reader := StateT (List Char) Option

namespace Reader

variable {α β : Type}

def where? (test : Char → Bool) : Reader Char
  | [] => none
  | c :: rest => if test c then some (c, rest) else none

def char (c : Char) : Reader Unit := do discard (where? (· == c))

def word (letters : List Char) : Reader Unit := fun cs =>
  if letters.isPrefixOf cs then some ((), cs.drop letters.length) else none

def manyOf (test : Char → Bool) : Reader (List Char) := fun cs =>
  some (cs.takeWhile test, cs.dropWhile test)

/-- A run of at least one character. -/
def someOf (test : Char → Bool) : Reader (List Char) := do
  let c ← where? test
  let cs ← manyOf test
  return c :: cs

def exactly (count : Nat) (test : Char → Bool) : Reader (List Char) := fun cs =>
  let taken := cs.take count
  if taken.length = count ∧ taken.all test then some (taken, cs.drop count) else none

def atEnd : Reader Unit
  | [] => some ((), [])
  | _ :: _ => none

/-- Succeeds, reading nothing, where the next character passes the test. -/
def ahead (test : Char → Bool) : Reader Unit
  | [] => none
  | c :: rest => if test c then some ((), c :: rest) else none

def perhaps (reader : Reader α) : Reader (Option α) := (some <$> reader) <|> pure none

def manyUpTo : Nat → Reader α → Reader (List α)
  | 0, _ => pure []
  | limit + 1, reader =>
    (do
      let a ← reader
      let as ← manyUpTo limit reader
      return a :: as) <|> pure []

/-- As many values as there are; the reader has to read at least one character each time. -/
def many (reader : Reader α) : Reader (List α) := fun cs => manyUpTo cs.length reader cs

/-- One value or more, with `between` between them. -/
def separated (reader : Reader α) (between : Reader β) : Reader (List α) := do
  let a ← reader
  let as ← many (between *> reader)
  return a :: as

def newline : Reader Unit := char '\n' <|> word ['\r', '\n']

def lineEnd : Reader Unit := newline <|> atEnd

def isBlank (c : Char) : Bool := c == ' ' || c == '\t'

def blanks : Reader Unit := do discard (manyOf isBlank)

/-- No control character but the tab. -/
def isText (c : Char) : Bool := c == '\t' || (' ' ≤ c && c != '\x7f')

def comment : Reader Unit := do
  char '#'
  discard (manyOf isText)

/-- Blanks, line ends and comments. -/
def spacing : Reader Unit := do
  discard (many ((do discard (someOf isBlank)) <|> newline <|> comment))

/-- What may follow a value or a header on its line. -/
def restOfLine : Reader Unit := do
  blanks
  discard (perhaps comment)
  lineEnd

end Reader
end Wiring.Toml
