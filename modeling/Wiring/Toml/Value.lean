/-!
Values of a TOML document. A table remembers how it was written, for that decides who may add to
it later: a header may complete a table that other headers implied, a dotted key one that dotted
keys made, and nobody an inline table.
-/

namespace Wiring.Toml

inductive Form where
  | inline
  | dotted
  | headed
  | implied
  deriving DecidableEq, Repr

inductive Value where
  | string (text : String)
  | integer (value : Int)
  /-- A boolean, a float, a date or a time. -/
  | other
  | array (items : List Value)
  | table (form : Form) (entries : List (String × Value))
  /-- The tables under one header in double brackets. -/
  | tables (all : List (List (String × Value)))

abbrev Entries := List (String × Value)

namespace Entries

def put (entries : Entries) (key : String) (value : Value) : Entries :=
  if entries.any (·.1 == key) then
    entries.map fun entry => if entry.1 == key then (key, value) else entry
  else entries ++ [(key, value)]

/-- Changes the table at the end of a path, making the tables on the way that are missing. A path of
dotted keys does not enter a table that has its own header; a path into tables of one header enters
the last of them. -/
def alterAt (ofKeys : Bool) (change : Form → Entries → Option Entries) :
    List String → Form → Entries → Option Entries
  | [], form, entries => change form entries
  | key :: path, _, entries =>
    match entries.lookup key with
    | none => do
      let made := if ofKeys then Form.dotted else Form.implied
      let inner ← alterAt ofKeys change path made []
      return entries ++ [(key, .table made inner)]
    | some (.table form inner) => do
      if form = .inline ∨ (ofKeys ∧ form = .headed) then none
      else
        let inner ← alterAt ofKeys change path form inner
        return entries.put key (.table form inner)
    | some (.tables all) => do
      let last ← all.getLast?
      let inner ← alterAt ofKeys change path .headed last
      return entries.put key (.tables (all.dropLast ++ [inner]))
    | some (.string _) | some (.integer _) | some .other | some (.array _) => none

/-- Sets a key that is not set yet. A dotted key ends in a table of dotted keys only. -/
def assign (path : List String) (key : String) (value : Value) (root : Form) (entries : Entries) :
    Option Entries :=
  alterAt true (fun form entries =>
    if (form == .dotted) == path.isEmpty then none
    else if (entries.lookup key).isSome then none
    else some (entries ++ [(key, value)])) path root entries

/-- Opens the table of a header. -/
def openTable (key : String) (entries : Entries) : Option Entries :=
  match entries.lookup key with
  | none => some (entries ++ [(key, .table .headed [])])
  | some (.table .implied inner) => some (entries.put key (.table .headed inner))
  | some _ => none

/-- Opens one more table of a header in double brackets. -/
def openNext (key : String) (entries : Entries) : Option Entries :=
  match entries.lookup key with
  | none => some (entries ++ [(key, .tables [[]])])
  | some (.tables all) => some (entries.put key (.tables (all ++ [[]])))
  | some _ => none

end Entries
end Wiring.Toml
