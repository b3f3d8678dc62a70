import Wiring.Proofs.Catalog.Instance
import Wiring.Proofs.Check.Origin

/-!
What a registration constructs serves for the type under which it is registered, and what answers a
request serves for the type requested. There is one exception: a request that is closed over an open
implementation by position, where that implementation does not fit the definition. The closed type
then need not serve the request, and a registration that leads the request to it is as wrong.
-/

namespace Wiring.Container

/-- An open registration closes the request to a type that does not serve it, and its implementation
does not fit the definition of the request. -/
def Misclosed (catalog : Catalog) (ctx : Context) (c : Container) (request closed : TypeExpr) :
    Prop :=
  ∃ source, c.Closes ctx request source ∧ closed = source.resolvedType.construct request.args ∧
    ¬ catalog.Fits ctx.program request source.resolvedType ∧ ¬ ctx.program.Serves request closed

/-- The service came to be the answer by way of a request that was closed to a wrong type. -/
def Misled (catalog : Catalog) (ctx : Context) (c : Container) (target : TypeExpr)
    (service : Service) : Prop :=
  ∃ request closed, ctx.program.Serves target request ∧
    c.Misclosed catalog ctx request closed ∧
    (service.resolvedType = closed ∨ service.type.same closed)

variable {catalog : Catalog} {ctx : Context} {count : Nat} {c : Container}

section Described

variable (hscoped : catalog.WellScoped) (hdescribes : catalog.Describes ctx.program)
include hscoped hdescribes

theorem Closes.serves_or_misclosed {request : TypeExpr} {source : Service}
    (h : c.Closes ctx request source) :
    ctx.program.Serves request (source.resolvedType.construct request.args) ∨
      c.Misclosed catalog ctx request (source.resolvedType.construct request.args) := by
  by_cases hserves : ctx.program.Serves request (source.resolvedType.construct request.args)
  · exact Or.inl hserves
  · exact Or.inr ⟨source, h, rfl, fun hfits => hserves (hfits.serves hscoped hdescribes), hserves⟩

/-- Apart from shapes, a registration is typed or leads its type to a wrong one. -/
theorem isTyped_or_misclosed (horigins : c.Originates ctx count)
    (hdeclared : ∀ id service, id < count → c.register[id]? = some service →
      ctx.program.Serves service.type service.resolvedType) {id : RegistrationId}
    {service : Service} (hid : c.register[id]? = some service) (hshape : ¬ c.IsShape id) :
    ctx.program.Serves service.type service.resolvedType ∨
      c.Misclosed catalog ctx service.type service.resolvedType := by
  by_cases hcount : id < count
  · exact Or.inl (hdeclared id service hcount hid)
  cases horigins id service (Nat.le_of_not_lt hcount) hid with
  | specialized _ himplementation =>
    left
    rw [Service.resolvedType, himplementation]
    exact Or.inl (TypeExpr.same_refl _)
  | base _ _ _ _ hbase hservice =>
    left
    rw [hservice]
    exact Or.inr ⟨_, (List.mem_filter.1 hbase).1, TypeExpr.same_refl _⟩
  | standIn h =>
    cases h with
    | redirect hcloses himplementation _ _ _ =>
      rw [Service.resolvedType, himplementation]
      exact hcloses.serves_or_misclosed hscoped hdescribes
    | shape h => exact absurd h hshape

/-- What answers a request serves for it, unless the answer was misled. -/
theorem Answers.serves_or_misled (horigins : c.Originates ctx count)
    (hdeclared : ∀ id service, id < count → c.register[id]? = some service →
      ctx.program.Serves service.type service.resolvedType) {target : TypeExpr}
    {id : RegistrationId} {service : Service} (h : c.Answers ctx target id)
    (hid : c.register[id]? = some service) (hshape : ¬ c.IsShape id) :
    ctx.program.Serves target service.resolvedType ∨ c.Misled catalog ctx target service := by
  have hthrough {a b c : TypeExpr} (hbc : ctx.program.Serves c b) (hab : ctx.program.Serves b a) :
      ctx.program.Serves c a := hdescribes.serves_trans hbc hab
  -- from a type for which the service is registered, only its own registration can mislead
  have hown (hserves : ctx.program.Serves target service.type) :
      ctx.program.Serves target service.resolvedType ∨ c.Misled catalog ctx target service := by
    rcases isTyped_or_misclosed hscoped hdescribes horigins hdeclared hid hshape with
      htyped | hmisclosed
    · exact Or.inl (hthrough hserves htyped)
    · exact Or.inr ⟨_, _, hserves, hmisclosed, Or.inl rfl⟩
  cases h with
  | @registered first _ service' hfirst htype hfollows =>
    have hregistered : ctx.program.Serves target service'.type := Or.inl htype
    cases hfollows with
    | itself _ =>
      obtain rfl := Option.some.inj (hfirst.symm.trans hid)
      exact hown hregistered
    | shape hfamily _ => exact absurd ⟨_, _, hfamily, by simp [Family.ids]⟩ hshape
    | implementation hfirst' hfirstShape himplementation hnext hsame _ =>
      obtain rfl := Option.some.inj (hfirst.symm.trans hfirst')
      obtain rfl := Option.some.inj (hnext.symm.trans hid)
      have hfollowed :=
        isTyped_or_misclosed hscoped hdescribes horigins hdeclared hfirst hfirstShape
      rw [Service.resolvedType, himplementation] at hfollowed
      rcases hfollowed with htyped | hmisclosed
      · exact hown (hthrough (hthrough hregistered htyped) (Or.inl hsame))
      · exact Or.inr ⟨_, _, hregistered, hmisclosed, Or.inr hsame⟩
  | collection _ hfamily => exact absurd ⟨_, _, hfamily, by simp [Family.ids]⟩ hshape
  | closed hcloses hservice hsame =>
    obtain rfl := Option.some.inj (hservice.symm.trans hid)
    rcases hcloses.serves_or_misclosed hscoped hdescribes with hserves | hmisclosed
    · exact hown (hthrough hserves (Or.inl hsame))
    · exact Or.inr ⟨_, _, Or.inl (TypeExpr.same_refl _), hmisclosed, Or.inr hsame⟩

end Described

end Wiring.Container
