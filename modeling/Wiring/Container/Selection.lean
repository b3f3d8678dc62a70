import Wiring.Container.Basic

/-!
Choice among the registrations of the very type a parameter asks for. The chosen one is followed one
step: to the registration of its implementation, or from a shape of a collection to the enumerable.
-/

namespace Wiring.Container

/-- The family of which the registration is one of the four shapes. -/
def familyOf? (c : Container) (ctx : Context) (id : RegistrationId) : Option Family := do
  let r ← c.registration? id
  let element ← ctx.settings.collectionElement? r.type
  let family ← c.families.get? element
  if family.ids.contains id then some family else none

/-- The registration that a request for this one is served by. -/
def follow (c : Container) (ctx : Context) (id : RegistrationId) : RegistrationId :=
  match c.familyOf? ctx id with
  | some family => family.enumerable
  | none =>
    match c.registration? id with
    | none => id
    | some r =>
      match r.implementation with
      | none => id
      | some implementation =>
        if implementation.same r.type then id
        else
          match c.underKey r.key (c.servicesFor implementation) with
          | [concrete] => concrete
          | _ => id

def isEmptyCollection (c : Container) (id : RegistrationId) : Bool :=
  match c.registration? id with
  | some r => r.isEmptyCollection
  | none => false

/-- One registration under the key is selected; with several the request is ambiguous. -/
def selectAmong (c : Container) (ctx : Context) (key : Option String) (requireNonEmpty : Bool)
    (ids : List RegistrationId) : Outcome :=
  match c.underKey key ids with
  | [] => .undeclared
  | [id] =>
    let concrete := c.follow ctx id
    if requireNonEmpty && c.isEmptyCollection concrete then .undeclared else .selected concrete
  | several => .ambiguous several

end Wiring.Container
