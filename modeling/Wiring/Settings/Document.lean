import Wiring.Settings.Basic
import Wiring.Toml.Document

/-!
Settings written as a TOML document: the two limits at its root, the names in the table
`well_known`. What is left out keeps its default; what is not known is refused.
-/

namespace Wiring.Settings

def natural? : Toml.Value → Option Nat
  | .integer value => if 0 ≤ value then some value.toNat else none
  | _ => none

def name? : Toml.Value → Option String
  | .string text => some text
  | _ => none

def names? : Toml.Value → Option (List String)
  | .array items => items.mapM name?
  | _ => none

/-- Sets one of the well-known names. -/
def setName? (settings : Settings) (key : String) (value : Toml.Value) : Option Settings :=
  match key with
  | "enumerable" => do return { settings with enumerable := ← name? value }
  | "read_only_collection" => do return { settings with readOnlyCollection := ← name? value }
  | "read_only_list" => do return { settings with readOnlyList := ← name? value }
  | "deferred" => do return { settings with deferred := ← names? value }
  | "nullable" => do return { settings with nullable := ← name? value }
  | "disposable" => do return { settings with disposable := ← name? value }
  | "async_disposable" => do return { settings with asyncDisposable := ← name? value }
  | "ignored_base_types" => do return { settings with ignoredBaseTypes := ← names? value }
  | _ => none

/-- The order in which an array gives the names when it stands in place of the table. -/
def nameOrder : List String :=
  ["enumerable", "read_only_collection", "read_only_list", "deferred", "nullable", "disposable",
    "async_disposable", "ignored_base_types"]

def setNames? (settings : Settings) : Toml.Value → Option Settings
  | .table _ entries => entries.foldlM (fun s (key, value) => s.setName? key value) settings
  | .array items =>
    (nameOrder.zip items).foldlM (fun s (key, value) => s.setName? key value) settings
  | .string _ | .integer _ | .other | .tables _ => none

def set? (settings : Settings) (key : String) (value : Toml.Value) : Option Settings :=
  match key with
  | "max_specialization_depth" => do
    return { settings with maxSpecializationDepth := ← natural? value }
  | "max_suggestions" => do return { settings with maxSuggestions := ← natural? value }
  | "well_known" => settings.setNames? value
  | _ => none

def ofDocument? (source : String) : Option Settings := do
  let entries ← Toml.read? source
  entries.foldlM (fun settings (key, value) => settings.set? key value) {}

end Wiring.Settings
