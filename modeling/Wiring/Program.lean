import Wiring.Lifetime
import Wiring.Member
import Wiring.TypeExpr.Identity

/-!
What the engine can ask about the program whose services it wires: its types, as they are written,
what a provider or a module declares, and what the program can supply by itself once it runs.
-/

namespace Wiring

/-- A provider or a module declares services by type, by factory member or by instance member, and
takes over the declarations of modules. -/
inductive Declaration where
  | dependency (lifetime : Lifetime) (service : TypeExpr) (implementation : Option TypeExpr)
      (key : Option String)
  | factory (lifetime : Lifetime) (service : TypeExpr) (key : Option String) (member : String)
  | sharedInstance (service : TypeExpr) (key : Option String) (member : String)
  | moduleImport (module : TypeExpr)
  deriving DecidableEq

structure Program where
  /-- The open form of a closed generic type. -/
  genericDefinition : TypeExpr → Option TypeExpr
  /-- Every base of a type, each once, without the type itself. -/
  baseTypes : TypeExpr → List TypeExpr
  constructors : TypeExpr → List Method
  members : TypeExpr → String → List Member
  declarations : TypeExpr → List Declaration
  /-- Whether the type may be imported. -/
  isModule : TypeExpr → Bool
  /-- How many modules may be imported inside one another. -/
  importDepth : Nat

/-- Whether the running program can supply the type under the key. -/
abbrev Fallback := Option String → TypeExpr → Bool

namespace Fallback

/-- Supplies the types whose names begin with one of `beginnings`, under every key. -/
def byName (beginnings : List String) : Fallback := fun _ type =>
  beginnings.any fun beginning => beginning.toList.isPrefixOf type.name.toList

end Fallback
end Wiring
