import Wiring.Catalog.Basic
import Wiring.Proofs.Assembly.Outcome
import Wiring.Proofs.Check.Survey
import Wiring.Proofs.Provider.Reorder

/-!
Declarations in another order. Checks leave registrations behind that later ones find, so the order
in which services are declared can decide whether a run succeeds. It does not where the declared
services are orderly, as how such a run ends is told from them in whatever order they are.
-/

namespace Wiring

/-- The same engine over a program with other declarations. -/
def Context.redeclare (ctx : Context) (declarations : TypeExpr → List Declaration) : Context :=
  { ctx with program := ctx.program.redeclare declarations }

namespace Forecast

variable {ctx : Context} {services services' : List Service} (h : services.Perm services')
include h

theorem Sound.perm {service : Service} (hs : Sound ctx services service) :
    Sound ctx services' service where
  named := hs.named
  constructed := hs.constructed
  met parameter hparameter := by
    rw [← isMet_perm h parameter]
    exact hs.met parameter hparameter

end Forecast

namespace Container

variable (ctx : Context) (declarations : TypeExpr → List Declaration)

/-! Once the services are declared, no check looks at the declarations again. -/

theorem resolveParameters_redeclare (check : Option Check) (c : Container)
    (parameters : List Parameter) :
    resolveParameters (ctx.redeclare declarations) check c parameters =
      resolveParameters ctx check c parameters := by
  induction parameters generalizing c with
  | nil => rfl
  | cons parameter rest ih =>
    have hfirst : resolveParameter (ctx.redeclare declarations) check c parameter =
        resolveParameter ctx check c parameter := rfl
    unfold resolveParameters
    simp only [hfirst, ih]

theorem checkWithin_redeclare (levels : Nat) :
    checkWithin (ctx.redeclare declarations) levels = checkWithin ctx levels := by
  have hcheck (check : Option Check) :
      checkWith (ctx.redeclare declarations) check = checkWith ctx check := by
    funext c id
    unfold checkWith
    simp only [resolveParameters_redeclare]
    rfl
  induction levels with
  | zero => exact hcheck none
  | succ levels ih =>
    unfold checkWithin
    rw [ih, hcheck]

theorem checkEach_redeclare (c : Container) (ids : List RegistrationId) :
    checkEach (ctx.redeclare declarations) c ids = checkEach ctx c ids := by
  have hcheck (c : Container) (id : RegistrationId) :
      c.check (ctx.redeclare declarations) id = c.check ctx id := by
    unfold check
    rw [checkWithin_redeclare]
    rfl
  induction ids generalizing c with
  | nil => rfl
  | cons id rest ih =>
    unfold checkEach
    simp only [hcheck, ih]

end Container

open Container Forecast

namespace Editors

def user : TypeExpr := ⟨.classType, "app::User", [], false⟩
def clock : TypeExpr := ⟨.interfaceType, "app::Clock", [], false⟩
def systemClock : TypeExpr := ⟨.classType, "app::SystemClock", [], false⟩
def editor : TypeExpr := ⟨.classType, "app::Editor", [], false⟩
def auditor : TypeExpr := ⟨.classType, "app::Auditor", [], false⟩
def directory : TypeExpr := ⟨.classType, "app::Directory", [], false⟩
def declaring : TypeExpr := ⟨.classType, "app::DeclaringProvider", [], false⟩
def relying : TypeExpr := ⟨.classType, "app::RelyingProvider", [], false⟩
def entity : TypeExpr := ⟨.parameter, "T", [], false⟩

def store (stored : TypeExpr) : TypeExpr := ⟨.interfaceType, "app::Store", [stored], false⟩
def repository (stored : TypeExpr) : TypeExpr := ⟨.classType, "app::Repository", [stored], false⟩

/-- The editor asks for a store of users, and the auditor for all of them. One provider declares
what stores are served by; the other declares repositories only, of which one serves as a store once
the directory asked for it. -/
def catalog : Catalog := .ofDefinitions [
  .built user [],
  .built systemClock [],
  .declaring (store entity) [] [],
  { Definition.built (repository entity) [] with bases := [store entity] },
  .built auditor [⟨"stores", Settings.enumerableOf {} (store user), [], none⟩,
    ⟨"clock", clock, [], none⟩],
  .built editor [⟨"users", store user, [], none⟩],
  .built directory [⟨"users", repository user, [], none⟩],
  .declaring declaring [] [
    .dependency .singleton (store entity) (some (repository entity)) none,
    .dependency .singleton clock (some systemClock) none,
    .dependency .transient systemClock none none,
    .dependency .singleton auditor none none,
    .dependency .singleton editor none none],
  .declaring relying [] [
    .dependency .singleton (repository entity) none none,
    .dependency .singleton directory none none,
    .dependency .singleton editor none none]]

def context : Context := { program := catalog.program }

def reversed (owner : TypeExpr) : List Declaration := (context.program.declarations owner).reverse

def declared : List Service := [
  { type := store entity, lifetime := .singleton, implementation := some (repository entity) },
  { type := clock, lifetime := .singleton, implementation := some systemClock },
  { type := systemClock, lifetime := .transient },
  { type := auditor, lifetime := .singleton },
  { type := editor, lifetime := .singleton }]

/-- The types in the collection of stores of users, where a run of the provider has made it. -/
def gathered (ctx : Context) : Option (List TypeExpr) :=
  let c := (assemble ctx declaring).container
  (c.families.get? (store user)).map fun family =>
    (c.elements family).filterMap fun id => (c.registration? id).map (·.type)

/-- The provider that declares its stores is orderly, though system clocks have two lifetimes. -/
theorem orderly (services : List Service)
    (hservices : context.program.declaredServices declaring = .ok services) :
    Orderly context services := by
  have hdeclared : context.program.declaredServices declaring = .ok declared := by decide +kernel
  obtain rfl := Except.ok.inj (hdeclared.symm.trans hservices)
  have hsurvey : Survey context declared [
      { type := auditor, lifetime := .singleton },
      { type := editor, lifetime := .singleton },
      { type := clock, lifetime := .singleton, implementation := some systemClock },
      { type := systemClock, lifetime := .transient },
      { type := repository user, lifetime := .singleton }] := by
    decide +kernel
  exact hsurvey.orderly

end Editors

namespace Disorder

open Editors (user entity store repository)

def provider : TypeExpr := ⟨.classType, "app::Provider", [], false⟩
def reader : TypeExpr := ⟨.classType, "app::Reader", [], false⟩
def writer : TypeExpr := ⟨.classType, "app::Writer", [], false⟩
def item : TypeExpr := ⟨.classType, "app::Item", [], false⟩

def lazily (type : TypeExpr) : TypeExpr := ⟨.classType, "core::Lazy", [type], false⟩

def dependency (lifetime : Lifetime) (type : TypeExpr) (implementation : Option TypeExpr := none) :
    Declaration :=
  .dependency lifetime type implementation none

def programOf (definitions : List Definition) (declarations : List Declaration) : Program :=
  (Catalog.ofDefinitions (definitions ++ [.declaring provider [] declarations])).program

/-- The writer has to have a store of users, and there is none before the reader asks for one. -/
def refused : Context where
  program := programOf [
      .declaring (store entity) [] [],
      { Definition.built (repository entity) [] with bases := [store entity] },
      .built reader [⟨"users", store user, [], none⟩],
      .built writer [⟨"stores", Settings.enumerableOf {} (store user), [.nonEmpty], none⟩]] [
    dependency .singleton (store entity) (some (repository entity)),
    dependency .singleton reader,
    dependency .singleton writer]

/-- Two services are declared for the repository of users; the one waits for the reader. -/
def twofold : Context where
  program := programOf [
      .built (repository entity) [],
      .built item [⟨"reader", reader, [], none⟩],
      .built writer [],
      .built reader [⟨"users", store user, [], none⟩],
      .declaring (store entity) [] []] [
    dependency .singleton (store entity) (some (repository entity)),
    dependency .singleton (repository user) (some item),
    dependency .singleton (repository user) (some writer),
    dependency .singleton reader]

/-- Items are transient for the writer, and otherwise not. -/
def disagreeing : Context where
  program := programOf [
      .built item [⟨"writer", lazily writer, [], none⟩],
      .built writer [⟨"item", .interface "app::Item", [], none⟩]] [
    dependency .transient (.interface "app::Item") (some item),
    dependency .singleton item,
    dependency .transient writer]

/-- A repository of users names its store twice as its base. The reader can do without one. -/
def doubled : Context where
  program := (programOf [
      .declaring (store entity) [] [],
      .built (repository entity) [],
      .built reader [⟨"users", { store user with nullable := true }, [], none⟩],
      .built writer [⟨"users", store user, [], none⟩]] [
    dependency .singleton (store entity) (some (repository entity)),
    dependency .singleton reader,
    dependency .singleton writer]).overrideBases [(repository user, [store user, store user])]

/-- A store needs a repository, and no specialization may be nested in another. -/
def nested : Context where
  program := programOf [
      .built (store entity) [⟨"items", repository entity, [], none⟩],
      .built (repository entity) [],
      .built reader [⟨"users", store user, [], none⟩],
      .built writer [⟨"users", repository user, [], none⟩]] [
    dependency .singleton (store entity),
    dependency .singleton (repository entity),
    dependency .singleton reader,
    dependency .singleton writer]
  settings := { maxSpecializationDepth := 1 }

/-- Two shapes of a collection have the same name. The reader can do without one. -/
def unnamed : Context where
  program := programOf [
      .built item [],
      .built reader [⟨"items", { Settings.enumerableOf {} item with nullable := true }, [], none⟩],
      .built writer [⟨"items", Settings.enumerableOf {} item, [], none⟩]] [
    dependency .singleton item,
    dependency .singleton reader,
    dependency .singleton writer]
  settings := { readOnlyList := ({} : Settings).enumerable }

/-- The writer's items are the collection of items as soon as the reader has asked for that. -/
def shaped : Context where
  program := programOf [
      .built reader [⟨"items", Settings.enumerableOf {} item, [], none⟩],
      .built writer [⟨"items", .interface "app::Items", [.nonEmpty], none⟩]] [
    dependency .singleton (.interface "app::Items") (some (Settings.enumerableOf {} item)),
    dependency .singleton reader,
    dependency .singleton writer]

def succeeds (ctx : Context) : Bool := (assemble ctx provider).result.isOk

def reversed (ctx : Context) : Context :=
  ctx.redeclare fun owner => (ctx.program.declarations owner).reverse

end Disorder

/-- The other conditions are needed too: where one of them fails, the order can decide. -/
theorem disorder_decides :
    ∀ ctx ∈ [Disorder.refused, Disorder.twofold, Disorder.disagreeing, Disorder.doubled,
        Disorder.nested, Disorder.unnamed, Disorder.shaped],
      Disorder.succeeds (Disorder.reversed ctx) ≠ Disorder.succeeds ctx := by
  decide +kernel

end Wiring
