import Wiring.Container.Selection

/-!
Collections. The first request for all services of an element type registers its four shapes
together; the enumerable among them holds the elements. A specialization that comes later is put
into the collections it belongs to.
-/

namespace Wiring.Container

/-- What a collection of the element type would hold now. -/
def members (c : Container) (ctx : Context) (element : TypeExpr) : List RegistrationId :=
  ((c.servicesFor element).filter c.isClosed).map (c.follow ctx)

/-- Registers the four shapes over `ids`. -/
def addFamily (c : Container) (ctx : Context) (element : TypeExpr) (ids : List RegistrationId) :
    Container :=
  let array := TypeExpr.arrayOf element
  let added := c.addAll ctx [
    { type := array, lifetime := .transient },
    { type := ctx.settings.readOnlyListOf element, lifetime := .transient,
      implementation := some array },
    { type := ctx.settings.readOnlyCollectionOf element, lifetime := .transient,
      implementation := some array },
    { type := ctx.settings.enumerableOf element, lifetime := .transient,
      implementation := some array, collected := some ids }]
  { added with
    families := added.families.insert element ⟨c.size, c.size + 1, c.size + 2, c.size + 3⟩ }

/-- Selects the collection of all services of the element type, registering it on first use. -/
def selectCollection (c : Container) (ctx : Context) (element : TypeExpr) (requireNonEmpty : Bool) :
    Container × Outcome :=
  match c.families.get? element with
  | some family =>
    if requireNonEmpty && c.isEmptyCollection family.enumerable then (c, .undeclared)
    else (c, .selected family.enumerable)
  | none =>
    let ids := c.members ctx element
    if requireNonEmpty && ids.isEmpty then (c, .undeclared)
    else (c.addFamily ctx element ids, .selected (c.size + 3))

/-- Puts a registration into the collection of the element type, where there is one. -/
def enlist (c : Container) (element : TypeExpr) (id : RegistrationId) : Container :=
  match c.families.get? element with
  | some family =>
    { c with registrations := c.registrations.modify family.enumerable (·.collect id) }
  | none => c

end Wiring.Container
