import Wiring.Toml.Scalar

/-!
Documents: arrays and inline tables, then lines, each a header or a key with its value. A document
stands for the table of its keys, or for nothing where it breaks a rule.
-/

namespace Wiring.Toml

structure Assignment where
  path : List String
  key : String
  value : Value

namespace Reader

/-- A dotted key, taken apart before its last part. -/
def target : Reader (List String × String) := do
  let keys ← path
  match keys.getLast? with
  | some key => return (keys.dropLast, key)
  | none => failure

def assignment (value : Reader Value) : Reader Assignment := do
  let (path, key) ← target
  char '='
  blanks
  return ⟨path, key, ← value⟩

def arrayOf (item : Reader Value) : Reader Value := do
  char '['
  let items ← perhaps (separated (spacing *> item <* spacing) (char ',') <* perhaps (char ','))
  spacing
  char ']'
  return .array (items.getD [])

def inlineTableOf (item : Reader Value) : Reader Value := do
  char '\x7b'
  let all ← perhaps (separated (assignment item <* blanks) (char ','))
  blanks
  char '\x7d'
  let assign (entries : Entries) (a : Assignment) :=
    Entries.assign a.path a.key a.value .inline entries
  match (all.getD []).foldlM assign [] with
  | some entries => return .table .inline entries
  | none => failure

/-- A value with at most `levels` arrays and tables inside one another, empty ones counted. -/
def valueWithin : Nat → Reader Value
  | 0 => scalar
  | levels + 1 => arrayOf (valueWithin levels) <|> inlineTableOf (valueWithin levels) <|> scalar

def maxNesting : Nat := 79

inductive Line where
  | blank
  | header (path : List String) (key : String)
  | nextHeader (path : List String) (key : String)
  | assignment (assignment : Assignment)

def commentLine : Reader Line := do
  comment
  lineEnd
  return .blank

def emptyLine : Reader Line := do
  newline
  return .blank

def nextHeaderLine : Reader Line := do
  word ['[', '[']
  let (path, key) ← target
  word [']', ']']
  restOfLine
  return .nextHeader path key

def headerLine : Reader Line := do
  char '['
  let (path, key) ← target
  char ']'
  restOfLine
  return .header path key

def assignmentLine : Reader Line := do
  let assigned ← assignment (valueWithin maxNesting)
  restOfLine
  return .assignment assigned

def lines : Reader (List Line) := do
  discard (perhaps (char '\ufeff'))
  blanks
  let line := commentLine <|> emptyLine <|> nextHeaderLine <|> headerLine <|> assignmentLine
  let all ← many (line <* blanks)
  atEnd
  return all

end Reader

/-- The table read so far, and the path of the header that keys belong to. -/
structure Document where
  current : List String
  entries : Entries

namespace Document

/-- Changes the table that headers lead to. -/
def alterAt (document : Document) (path : List String) (change : Entries → Option Entries) :
    Option Entries :=
  Entries.alterAt false (fun _ => change) path .headed document.entries

def apply (document : Document) : Reader.Line → Option Document
  | .blank => some document
  | .header path key => do
    return ⟨path ++ [key], ← document.alterAt path (Entries.openTable key)⟩
  | .nextHeader path key => do
    return ⟨path ++ [key], ← document.alterAt path (Entries.openNext key)⟩
  | .assignment a => do
    let entries ← document.alterAt document.current (Entries.assign a.path a.key a.value .headed)
    return { document with entries }

end Document

/-- The table that a document stands for. -/
def read? (source : String) : Option Entries := do
  let (lines, _) ← Reader.lines source.toList
  let document ← lines.foldlM Document.apply ⟨[], []⟩
  return document.entries

end Wiring.Toml
