import Wiring.Proofs.Assembly.Emission
import Wiring.Proofs.Check.Typed

/-!
What a successful run selects has the type that was asked for, as far as implementations have the
types they are declared for. The declared ones do by assumption, the bases of a specialization by
the walk that listed them, and chains of both because one type standing for another is transitive.
What is left are requests closed over an open implementation that does not fit, since it is closed
by position and not by name, and shapes of collections that are reached under another name.
-/

namespace Wiring

open Container

/-- A parameter of a stored resolution that asks for `target` is served by the registration, which
is no collection. -/
def Container.Injects (ctx : Context) (c : Container) (target : TypeExpr) (id : RegistrationId)
    (r : Registration) : Prop :=
  ∃ resolution ∈ c.resolutions, ∃ p ∈ resolution.parameters, p.outcome.selected? = some id ∧
    targetOf ctx p.type = target ∧ c.registration? id = some r ∧ r.collected = none

/-- What every declared service constructs serves for the type it is declared under. -/
def DeclaresTyped (program : Program) (provider : TypeExpr) : Prop :=
  ∀ services, program.declaredServices provider = .ok services →
    ∀ service ∈ services, program.Serves service.type service.resolvedType

theorem declared_typed_of_checkAll {ctx : Context} {services : List Service} {c : Container}
    (h : (declared ctx services).checkAll ctx = (c, .ok ()))
    (htyped : ∀ service ∈ services, ctx.program.Serves service.type service.resolvedType)
    (id : RegistrationId) (service : Service) (hid : id < services.length)
    (hservice : c.register[id]? = some service) :
    ctx.program.Serves service.type service.resolvedType := by
  obtain ⟨r, hr, rfl⟩ := register_eq_some_iff.1 hservice
  exact htyped r.toService (toService_mem_of_checkAll h hid hr)

/-- After a run that succeeds whatever serves a parameter without being of its type is a shape of a
collection, or answers it because it was misled by a request closed over an implementation that does
not fit. So there is something of a wrong type exactly if there is one for such a reason. -/
theorem assemble_mistyped_iff (catalog : Catalog) (ctx : Context) (provider : TypeExpr)
    (hscoped : catalog.WellScoped) (hdescribes : catalog.Describes ctx.program)
    (htyped : DeclaresTyped ctx.program provider)
    (h : (assemble ctx provider).result = .ok ()) :
    (∀ target id r, (assemble ctx provider).container.Injects ctx target id r →
      ¬ ctx.program.Serves target r.resolvedType →
        (assemble ctx provider).container.IsShape id ∨
          (assemble ctx provider).container.Misled catalog ctx target r.toService) ∧
    ((∃ target id r, (assemble ctx provider).container.Injects ctx target id r ∧
        ¬ ctx.program.Serves target r.resolvedType) ↔
      ∃ target id r, (assemble ctx provider).container.Injects ctx target id r ∧
        ¬ ctx.program.Serves target r.resolvedType ∧
        ((assemble ctx provider).container.IsShape id ∨
          (assemble ctx provider).container.Misled catalog ctx target r.toService)) := by
  obtain ⟨services, hservices, hchecked, -⟩ := assemble_ok h
  generalize (assemble ctx provider).container = c at hchecked ⊢
  have hwhy (target : TypeExpr) (id : RegistrationId) (r : Registration)
      (hinjects : c.Injects ctx target id r) (hwrong : ¬ ctx.program.Serves target r.resolvedType) :
      c.IsShape id ∨ c.Misled catalog ctx target r.toService := by
    refine or_iff_not_imp_left.2 fun hshape => ?_
    obtain ⟨resolution, hresolution, p, hp, hid, rfl, hr, -⟩ := hinjects
    have hanswers := (reachable_of_checkAll hchecked).answered resolution hresolution p hp id hid
    exact (hanswers.serves_or_misled hscoped hdescribes (originates_of_checkAll hchecked)
      (declared_typed_of_checkAll hchecked (htyped services hservices))
      (register_of_registration hr) hshape).resolve_left hwrong
  refine ⟨hwhy, ?_, ?_⟩
  · rintro ⟨target, id, r, hinjects, hwrong⟩
    exact ⟨target, id, r, hinjects, hwrong, hwhy target id r hinjects hwrong⟩
  · rintro ⟨target, id, r, hinjects, hwrong, -⟩
    exact ⟨target, id, r, hinjects, hwrong⟩

namespace Converters

def text : TypeExpr := ⟨.classType, "app::Text", [], false⟩
def date : TypeExpr := ⟨.classType, "app::Date", [], false⟩
def importer : TypeExpr := ⟨.classType, "app::Importer", [], false⟩
def provider : TypeExpr := ⟨.classType, "app::Provider", [], false⟩
def taken : TypeExpr := ⟨.parameter, "From", [], false⟩
def made : TypeExpr := ⟨.parameter, "To", [], false⟩

def converter (a b : TypeExpr) : TypeExpr := ⟨.interfaceType, "app::Converter", [a, b], false⟩
def parser (a b : TypeExpr) : TypeExpr := ⟨.classType, "app::Parser", [a, b], false⟩

/-- A parser names what it makes first, and a converter what it takes. -/
def catalog : Catalog := .ofDefinitions [
  .built text [],
  .built date [],
  .declaring (converter taken made) [] [],
  { Definition.built (parser made taken) [] with bases := [converter taken made] },
  .built importer [⟨"converter", converter text date, [], none⟩],
  .declaring provider [] [
    .dependency .singleton (converter taken made) (some (parser made taken)) none,
    .dependency .singleton importer none none]]

def context : Context := { program := catalog.program }

theorem wellScoped : catalog.WellScoped := by decide +kernel

/-- Only parsers have a base, and it is no parser. -/
theorem describes : catalog.Describes catalog.program where
  genericDefinition _ := rfl
  baseTypes type := by
    let rank (name : String) : Nat := if name = "app::Parser" then 1 else 0
    have hends : (catalog.baseTypes? Catalog.walkDepth type).isSome := by
      rw [Catalog.baseTypes?, Option.isSome_map]
      have hrank : ∀ d ∈ catalog.definitions, ∀ base ∈ d.bases,
          base.kind ≠ .parameter ∧ rank base.name < rank d.type.name := by decide +kernel
      refine Catalog.addBases_isSome_of_rank hrank [type] ?_
      change (if type.name = "app::Parser" then 1 else 0) < Catalog.walkDepth
      split <;> decide
    obtain ⟨bases, hbases⟩ := Option.isSome_iff_exists.1 hends
    refine ⟨Catalog.walkDepth, ?_⟩
    rw [Catalog.program]
    simp only [hbases, Option.getD_some]

theorem declaresTyped : DeclaresTyped catalog.program provider := by
  intro services hservices
  have hall : (catalog.program.declaredServices provider).toOption.all
      (fun services => services.all fun service =>
        catalog.program.Serves service.type service.resolvedType) = true := by decide +kernel
  rw [hservices] at hall
  simpa [Except.toOption] using hall

/-- The importer asks for a converter of texts to dates, and gets a parser of dates to texts. -/
theorem mistyped :
    ∃ target id r, (assemble context provider).container.Injects context target id r ∧
      ¬ context.program.Serves target r.resolvedType := by
  have hselects : ∃ resolution ∈ (assemble context provider).container.resolutions,
      ∃ p ∈ resolution.parameters, p.outcome.selected? = some 2 ∧
        targetOf context p.type = converter text date := by decide +kernel
  have hselected : ((assemble context provider).container.registration? 2).map
      (fun r => (r.collected, r.resolvedType)) = some (none, parser text date) := by decide +kernel
  have hwrong : ¬ context.program.Serves (converter text date) (parser text date) := by
    decide +kernel
  obtain ⟨resolution, hresolution, p, hp, hid, htarget⟩ := hselects
  obtain ⟨r, hr, hpair⟩ := Option.map_eq_some_iff.1 hselected
  obtain ⟨hcollected, htype⟩ := Prod.mk.inj hpair
  refine ⟨converter text date, 2, r, ?_, by rwa [htype]⟩
  exact ⟨resolution, hresolution, p, hp, hid, htarget, hr, hcollected⟩

end Converters

/-- The importer was misled: parsers do not fit converters by position. -/
theorem importer_misled :
    (assemble Converters.context Converters.provider).result = .ok () ∧
      ∃ target id r,
        (assemble Converters.context Converters.provider).container.Injects Converters.context
          target id r ∧
        ¬ Converters.context.program.Serves target r.resolvedType ∧
        ((assemble Converters.context Converters.provider).container.IsShape id ∨
          (assemble Converters.context Converters.provider).container.Misled Converters.catalog
            Converters.context target r.toService) :=
  ⟨rfl, (assemble_mistyped_iff Converters.catalog Converters.context Converters.provider
    Converters.wellScoped Converters.describes Converters.declaresTyped rfl).2.1
      Converters.mistyped⟩

/-- Every definition is well scoped and every declared implementation has the type it is declared
for, and still a parameter is served by something of another type. -/
theorem importer_selects_wrong_type :
    Converters.catalog.WellScoped ∧ Converters.catalog.Describes Converters.context.program ∧
      DeclaresTyped Converters.context.program Converters.provider ∧
      (assemble Converters.context Converters.provider).result = .ok () ∧
      ∃ target id r,
        (assemble Converters.context Converters.provider).container.Injects Converters.context
          target id r ∧
        ¬ Converters.context.program.Serves target r.resolvedType :=
  ⟨Converters.wellScoped, Converters.describes, Converters.declaresTyped, rfl,
    Converters.mistyped⟩

end Wiring
