import Wiring.Container.Basic
import Wiring.Text.Similar

/-!
What is said of a parameter that nothing satisfies: the registrations it could mean, or the names of
registered types that look like the one asked for.
-/

namespace Wiring.Container

def candidate? (c : Container) (id : RegistrationId) : Option Candidate :=
  (c.registration? id).map fun r => ⟨r.resolvedType.displayName, r.key⟩

def suggestions (c : Container) (ctx : Context) (requested : TypeExpr) : List String :=
  let names := (c.byType.keys.filter (·.isClosed)).map (·.identityText)
  (Text.suggest requested.text names ctx.settings.maxSuggestions).map Text.shorten

def describe (c : Container) (ctx : Context) (p : ParameterResolution) : UnresolvedParameter where
  name := p.parameter.name
  requested := p.type.displayName
  key := p.key
  cause :=
    match p.outcome with
    | .ambiguous ids => .severalDeclared (ids.filterMap c.candidate?)
    | .selected _ | .undeclared | .fallback =>
      .notDeclared (c.suggestions ctx ((ctx.settings.deferredInner? p.type).getD p.type))

end Wiring.Container
