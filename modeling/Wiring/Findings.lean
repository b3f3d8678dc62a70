import Wiring.Container.Check

/-!
The engine, writing down what it finds for a parameter. Each finding has a field of its own, and a
step sets the field of what it found and leaves the others as they are; nothing in the record keeps
two of them from being set, or all of them from being left out. What a step does is otherwise the
same.
-/

namespace Wiring

structure Findings where
  selected : Option RegistrationId := none
  noDeclaration : Bool := false
  byFallback : Bool := false
  several : Bool := false
  candidates : List RegistrationId := []
  deriving DecidableEq, Repr

namespace Findings

/-- Whether a registration was selected, none is declared, the fallback supplies it, or several are
declared. -/
def flags (found : Findings) : List Bool :=
  [found.selected.isSome, found.noDeclaration, found.byFallback, found.several]

def selectAmong (c : Container) (ctx : Context) (key : Option String) (requireNonEmpty : Bool)
    (ids : List RegistrationId) (found : Findings) : Findings :=
  match c.underKey key ids with
  | [] => { found with noDeclaration := true }
  | [id] =>
    let concrete := c.follow ctx id
    if requireNonEmpty && c.isEmptyCollection concrete then { found with noDeclaration := true }
    else { found with selected := some concrete }
  | several => { found with several := true, candidates := several }

def selectCollection (c : Container) (ctx : Context) (element : TypeExpr) (requireNonEmpty : Bool)
    (found : Findings) : Container × Findings :=
  match c.families.get? element with
  | some family =>
    if requireNonEmpty && c.isEmptyCollection family.enumerable then
      (c, { found with noDeclaration := true })
    else (c, { found with selected := some family.enumerable })
  | none =>
    let ids := c.members ctx element
    if requireNonEmpty && ids.isEmpty then (c, { found with noDeclaration := true })
    else (c.addFamily ctx element ids, { found with selected := some (c.size + 3) })

def specializeFrom (ctx : Context) (check : Option Check) (c : Container) (target : TypeExpr)
    (source : Registration) (found : Findings) : Step Findings :=
  let implementation := source.resolvedType
  if implementation.args.length ≠ target.args.length then
    (c.note (.warned (.arityMismatch target implementation)),
      .ok { found with noDeclaration := true })
  else
    let closed := implementation.construct target.args
    match c.underKey source.key (c.servicesFor closed) with
    | existing :: _ =>
      let c := if closed.same target then c else c.add ctx (Container.aliasOf target closed source)
      (c, .ok { found with selected := some existing })
    | [] =>
      let limit := ctx.settings.maxSpecializationDepth
      match if c.specializationDepth < limit then check else none with
      | none => (c, .error (.specializationDepthExceeded closed limit))
      | some check =>
        let added := c.addSpecialization ctx (Container.closedOver target source)
        match Container.checkNested check added c.size with
        | (after, .ok ()) => (after, .ok { found with selected := some c.size })
        | (after, .error fault) => (after, .error fault)

def specialize (ctx : Context) (check : Option Check) (c : Container) (target : TypeExpr)
    (found : Findings) : Step Findings :=
  match ctx.program.genericDefinition target with
  | none => (c, .ok { found with noDeclaration := true })
  | some definition =>
    match c.underKey none (c.servicesFor definition) with
    | [] => (c, .ok { found with noDeclaration := true })
    | [opened] =>
      let id := c.follow ctx opened
      match c.registration? id with
      | some source => specializeFrom ctx check c target source found
      | none => (c, .error (.unissuedId id))
    | several => (c, .ok { found with several := true, candidates := several })

def resolveTarget (ctx : Context) (check : Option Check) (c : Container) (key : Option String)
    (target : TypeExpr) (requireNonEmpty : Bool) (found : Findings) : Step Findings :=
  match c.servicesFor target with
  | [] =>
    if key.isSome then (c, .ok { found with noDeclaration := true })
    else
      match ctx.settings.collectionElement? target with
      | some element =>
        let (c, found) := selectCollection c ctx element requireNonEmpty found
        (c, .ok found)
      | none =>
        if target.isGeneric then specialize ctx check c target found
        else (c, .ok { found with noDeclaration := true })
  | ids => (c, .ok (selectAmong c ctx key requireNonEmpty ids found))

/-- The fallback takes back that nothing is declared, where it supplies the type itself. -/
def askFallback (ctx : Context) (c : Container) (key : Option String) (target : TypeExpr)
    (found : Findings) : Container × Findings :=
  if found.noDeclaration then
    match ctx.fallback with
    | none => (c, found)
    | some canProvide =>
      let answer := canProvide key target
      (c.note (.fallbackAsked key target answer),
        if answer then { found with noDeclaration := false, byFallback := true } else found)
  else (c, found)

def resolveParameter (ctx : Context) (check : Option Check) (c : Container)
    (parameter : Parameter) : Step Findings :=
  let target := Container.targetOf ctx (ctx.settings.unwrapNullable parameter.type).1
  match resolveTarget ctx check c parameter.key target parameter.requiresNonEmpty {} with
  | (c, .error fault) => (c, .error fault)
  | (c, .ok found) =>
    let (c, found) := askFallback ctx c parameter.key target found
    (c, .ok found)

end Findings
end Wiring
