import Wiring.TypeExpr.Identity

/-!
Settings of the engine: its two limits, and the names of the types that mean something to it. The
four shapes of a collection are interchangeable: a request for one is a request for all elements.
-/

namespace Wiring

structure Settings where
  maxSpecializationDepth : Nat := 16
  maxSuggestions : Nat := 3
  enumerable : String := "collections::Enumerable"
  readOnlyCollection : String := "collections::ReadOnlyCollection"
  readOnlyList : String := "collections::ReadOnlyList"
  deferred : List String := ["core::Lazy"]
  nullable : String := "core::Nullable"
  disposable : String := "core::Disposable"
  asyncDisposable : String := "core::AsyncDisposable"
  ignoredBaseTypes : List String := ["core::Object", "core::ValueType"]
  deriving DecidableEq, Repr

namespace Settings

/-- The argument of a named type with this name and no other argument. -/
def argumentOf? (name : String) (type : TypeExpr) : Option TypeExpr :=
  match type.args with
  | [arg] => if type.isNamed && type.name == name then some arg else none
  | _ => none

/-- The element type of a collection in any of the four shapes. -/
def collectionElement? (settings : Settings) (type : TypeExpr) : Option TypeExpr :=
  type.element?
    <|> argumentOf? settings.enumerable type
    <|> argumentOf? settings.readOnlyCollection type
    <|> argumentOf? settings.readOnlyList type

def enumerableOf (settings : Settings) (element : TypeExpr) : TypeExpr :=
  ⟨.interfaceType, settings.enumerable, [element], false⟩

def readOnlyCollectionOf (settings : Settings) (element : TypeExpr) : TypeExpr :=
  ⟨.interfaceType, settings.readOnlyCollection, [element], false⟩

def readOnlyListOf (settings : Settings) (element : TypeExpr) : TypeExpr :=
  ⟨.interfaceType, settings.readOnlyList, [element], false⟩

/-- What a deferred reference refers to. -/
def deferredInner? (settings : Settings) (type : TypeExpr) : Option TypeExpr :=
  settings.deferred.findSome? fun name => argumentOf? name type

/-- The type without its nullable wrapper or annotation, and whether it had one. -/
def unwrapNullable (settings : Settings) (type : TypeExpr) : TypeExpr × Bool :=
  match argumentOf? settings.nullable type with
  | some inner => (inner.bare, true)
  | none => (type.bare, type.nullable)

def ignoresBase (settings : Settings) (type : TypeExpr) : Bool :=
  settings.ignoredBaseTypes.any (· == type.name)

end Settings
end Wiring
