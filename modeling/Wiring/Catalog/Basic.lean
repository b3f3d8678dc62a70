import Wiring.Program

/-!
Programs described by a finite list of type definitions. A definition speaks for every type of its
name: its own parameters stand for the arguments of the type at hand. Bases are listed depth first,
each where it is first met; a definition can name ever larger bases, so the walk has a limit on its
depth.
-/

namespace Wiring

structure Definition where
  type : TypeExpr
  bases : List TypeExpr
  constructors : List Method
  members : List Member
  declarations : List Declaration
  isModule : Bool
  deriving DecidableEq

namespace Definition

/-- A type with one constructor. -/
def built (type : TypeExpr) (parameters : List Parameter) : Definition :=
  ⟨type, [], [⟨Method.constructorName, .publicAccess, false, parameters, none⟩], [], [], false⟩

/-- A provider. -/
def declaring (type : TypeExpr) (members : List Member) (declarations : List Declaration) :
    Definition :=
  ⟨type, [], [], members, declarations, false⟩

end Definition

structure Catalog where
  definitions : List Definition
  deriving DecidableEq

namespace Catalog

def empty : Catalog := ⟨[]⟩

def size (catalog : Catalog) : Nat := catalog.definitions.length

/-- A definition takes the place of an earlier one of the same name. -/
def define (catalog : Catalog) (definition : Definition) : Catalog :=
  if catalog.definitions.any (·.type.name == definition.type.name) then
    ⟨catalog.definitions.map fun old =>
      if old.type.name == definition.type.name then definition else old⟩
  else ⟨catalog.definitions ++ [definition]⟩

def ofDefinitions (definitions : List Definition) : Catalog := definitions.foldl define empty

/-- Only classes, interfaces and structs have definitions. -/
def definition? (catalog : Catalog) (type : TypeExpr) : Option Definition :=
  if type.isNamed then catalog.definitions.find? (·.type.name == type.name) else none

def genericDefinition (catalog : Catalog) (type : TypeExpr) : Option TypeExpr :=
  if type.isGeneric then
    match catalog.definition? type with
    | some d => if d.type.args.length = type.args.length then some d.type else none
    | none => none
  else none

def directBases (catalog : Catalog) (type : TypeExpr) : List TypeExpr :=
  match catalog.definition? type with
  | some d => d.bases.map (·.substitute (d.type.bindings type))
  | none => []

/-- Adds the bases of `type` to those already found; none where the walk is deeper than allowed. -/
def addBases (catalog : Catalog) : Nat → List TypeExpr → TypeExpr → Option (List TypeExpr)
  | 0, _, _ => none
  | depth + 1, found, type =>
    (catalog.directBases type).foldlM (fun found base =>
      if TypeExpr.isNew found base then addBases catalog depth (found ++ [base]) base
      else some found) found

def baseTypes? (catalog : Catalog) (depth : Nat) (type : TypeExpr) : Option (List TypeExpr) :=
  (catalog.addBases depth [type] type).map (·.drop 1)

/-- A class or struct that declares no constructor has one without parameters. -/
def constructors (catalog : Catalog) (type : TypeExpr) : List Method :=
  match catalog.definition? type with
  | none => []
  | some d =>
    if d.constructors.isEmpty then
      if type.kind = .classType ∨ type.kind = .structType then [Method.implicitConstructor] else []
    else d.constructors.map (·.substitute (d.type.bindings type))

def members (catalog : Catalog) (owner : TypeExpr) (name : String) : List Member :=
  match catalog.definition? owner with
  | none => []
  | some d => (d.members.filter (·.name == name)).map (·.substitute (d.type.bindings owner))

def declarations (catalog : Catalog) (provider : TypeExpr) : List Declaration :=
  match catalog.definition? provider with
  | none => []
  | some d => d.declarations

def isModule (catalog : Catalog) (type : TypeExpr) : Bool :=
  match catalog.definition? type with
  | none => false
  | some d => d.isModule

def importTarget : Declaration → Option TypeExpr
  | .moduleImport module => some module
  | .dependency .. | .factory .. | .sharedInstance .. => none

/-- The modules that some declaration imports. -/
def importedModules (catalog : Catalog) : List TypeExpr :=
  catalog.definitions.flatMap fun d =>
    (d.declarations.filterMap importTarget).filter catalog.isModule

def walkDepth : Nat := 10000

def program (catalog : Catalog) : Program where
  genericDefinition := catalog.genericDefinition
  baseTypes type := (catalog.baseTypes? walkDepth type).getD []
  constructors := catalog.constructors
  members := catalog.members
  declarations := catalog.declarations
  isModule := catalog.isModule
  importDepth := catalog.importedModules.length

end Catalog

/-- Answers the listed bases, as they stand, for the listed types. -/
def Program.overrideBases (program : Program) (overrides : List (TypeExpr × List TypeExpr)) :
    Program :=
  { program with
    baseTypes := fun type =>
      match overrides.find? fun entry => entry.1.same type with
      | some entry => entry.2
      | none => program.baseTypes type }

end Wiring
