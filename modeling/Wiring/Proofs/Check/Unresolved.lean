import Mathlib.Data.List.Forall2
import Wiring.Proofs.Check.Key
import Wiring.Proofs.Check.Nesting

/-!
What a check reports and what it stores agree. The parameters that nothing satisfies are reported
where their resolution has just been stored, and the checks around the one that fails leave both as
they are; so whoever reads the report finds the resolution that it is of, and the registrations that
it names.
-/

namespace Wiring.Container

variable {ctx : Context} {a b c m start : Container} {id nested : RegistrationId} {count : Nat}
  {service : String} {unresolved : List UnresolvedParameter}

/-- The report says of the resolved parameter what the container holds: a candidate for each of
several registrations, or that none is declared. -/
structure Reports (ctx : Context) (c : Container) (p : ParameterResolution)
    (report : UnresolvedParameter) : Prop where
  name : report.name = p.parameter.name
  requested : report.requested = p.type.displayName
  key : report.key = p.key
  several (ids : List RegistrationId) : p.outcome = .ambiguous ids → ∃ candidates,
    report.cause = .severalDeclared candidates ∧ List.Forall₂ (fun id candidate => ∃ r,
      c.registration? id = some r ∧ candidate = ⟨r.resolvedType.displayName, r.key⟩) ids candidates
  undeclared : p.outcome.isAmbiguous = false →
    report.cause = .notDeclared (c.suggestions ctx (targetOf ctx p.type))

theorem forall₂_candidate? {ids : List RegistrationId}
    (h : ∀ id ∈ ids, ∃ r, c.registration? id = some r) :
    List.Forall₂ (fun id candidate => ∃ r, c.registration? id = some r ∧
      candidate = (⟨r.resolvedType.displayName, r.key⟩ : Candidate)) ids
      (ids.filterMap c.candidate?) := by
  induction ids with
  | nil => exact .nil
  | cons first rest ih =>
    obtain ⟨r, hr⟩ := h first List.mem_cons_self
    have hfirst : c.candidate? first = some ⟨r.resolvedType.displayName, r.key⟩ := by
      rw [candidate?, hr]
      rfl
    rw [List.filterMap_cons_some hfirst]
    exact .cons ⟨r, hr, rfl⟩ (ih fun id hid => h id (List.mem_cons_of_mem _ hid))

theorem reports_describe {p : ParameterResolution}
    (h : ∀ id ∈ p.outcome.candidates, ∃ r, c.registration? id = some r) :
    c.Reports ctx p (c.describe ctx p) where
  name := rfl
  requested := rfl
  key := rfl
  several ids hids := by
    refine ⟨ids.filterMap c.candidate?, by simp [describe, hids], forall₂_candidate? ?_⟩
    rwa [hids] at h
  undeclared hnot := by
    unfold describe
    cases hp : p.outcome with
    | ambiguous ids => rw [hp] at hnot; cases hnot
    | selected _ => rfl
    | undeclared => rfl
    | fallback => rfl

theorem Restates.describe_eq (h : a.Restates b) (p : ParameterResolution) :
    b.describe ctx p = a.describe ctx p := by
  have hcandidate : b.candidate? = a.candidate? := by
    funext id
    rw [candidate?, candidate?, registration?, registration?, h.registrations]
  simp only [describe, suggestions, h.byType, hcandidate]

/-- What checks and specializations keep holds where a nested check sets out. -/
theorem Descends.invariant {P : Container → Prop} (hkept : Kept ctx fun _ a b => P a → P b)
    (hentered : ∀ {m target source}, m.Opens ctx target source →
      m.underKey source.key (m.servicesFor (closedType target source)) = [] → P m →
      P (m.entered ctx target source))
    (h : c.Descends ctx id count start nested) (hc : P c) : P start := by
  induction h with
  | outset => exact hc
  | enter _ hattempts _ ih =>
    obtain ⟨p, hp, -⟩ := hattempts.comes
    exact hentered hattempts.opens hattempts.new (hp.kept hkept ih)

theorem Descends.coherent (h : c.Descends ctx id count start nested) (hc : c.Coherent ctx) :
    start.Coherent ctx :=
  h.invariant (kept_coherent ctx) (maintained_coherent ctx).entered hc

theorem Descends.indexed (h : c.Descends ctx id count start nested) (hc : c.Indexed) :
    start.Indexed :=
  h.invariant (kept_indexed ctx) (fun _ _ hm =>
    hm.of_eq (entered_resolutions _ ctx _ _) (entered_resolutionIndex _ ctx _ _)) hc

/-- Parameters are reported unresolved only after all were resolved and stored. -/
theorem FailsAt.concluded (h : start.FailsAt ctx nested m
    (.unresolvedDependencies service unresolved)) :
    ∃ r construction middle parameters, start.registration? nested = some r ∧
      resolveParameters ctx (some (recheck ctx)) start construction.parameters =
        (middle, .ok parameters) ∧
      parameters.filter (!·.isSatisfied) ≠ [] ∧
      m = (conclude ctx middle nested ⟨r.resolvedType, r.lifetime, construction, parameters⟩).1 ∧
      service = r.resolvedType.displayName ∧
      unresolved = (parameters.filter (!·.isSatisfied)).map (middle.describe ctx) := by
  generalize hfault : Fault.unresolvedDependencies service unresolved = fault at h
  cases h with
  | unissued _ => cases hfault
  | notNamed _ _ => cases hfault
  | unconstructed _ _ hconstruction =>
    obtain ⟨count, hother⟩ | ⟨name, hother⟩ := selectConstruction_error hconstruction
    · cases hfault.trans hother
    · cases hfault.trans hother
  | unopened _ _ _ _ _ _ _ _ => cases hfault
  | stopped _ _ => cases hfault
  | @unresolved r construction middle parameters hr _ _ hparameters hunsatisfied =>
    cases hfault
    exact ⟨r, construction, middle, parameters, hr, hparameters, hunsatisfied,
      (conclude_fst ..).symm, rfl, rfl⟩

/-- A check that by itself reports unresolved parameters has stored the resolution they are of. -/
theorem FailsAt.stored (hcoherent : start.Coherent ctx) (hindexed : start.Indexed)
    (h : start.FailsAt ctx nested m (.unresolvedDependencies service unresolved)) :
    unresolved ≠ [] ∧ ∃ resolution, m.constructs resolution.type nested ∧
      m.resolution? resolution.type = some resolution ∧
      resolution.type.displayName = service ∧
      (∀ p ∈ resolution.parameters, ∀ id ∈ p.outcome.candidates, ∃ r,
        m.registration? id = some r) ∧
      unresolved = (resolution.parameters.filter (!·.isSatisfied)).map (m.describe ctx) := by
  obtain ⟨r, construction, middle, parameters, hr, hparameters, hunsatisfied, rfl, rfl, rfl⟩ :=
    h.concluded
  rw [resolveParameters_rechecks (rechecks_recheck ctx _)] at hparameters
  let resolution : Resolution := ⟨r.resolvedType, r.lifetime, construction, parameters⟩
  have hrestates := restates_conclude ctx middle nested resolution
  have hgrows := ((kept_extends ctx).resolved hparameters hcoherent.collect).2
  have hconstructs : start.constructs r.resolvedType nested := by
    rw [constructs, hr]
    exact TypeExpr.same_refl _
  refine ⟨by simpa using hunsatisfied, resolution,
    (hgrows.trans hrestates.grows).constructs hconstructs, ?_, rfl, ?_, ?_⟩
  · have hmiddle := (kept_indexed ctx).resolved hparameters hindexed
    exact (resolution?_conclude hmiddle nested resolution resolution.type).trans
      (if_pos (TypeExpr.same_refl _))
  · intro p hp candidate hcandidate
    have hunder := (justifies_isUnder ctx).resolveParameters hcoherent hparameters p hp
    have hlt := lt_of_keyOf? (hunder.2 candidate hcandidate)
    exact registration?_isSome (Nat.lt_of_lt_of_le hlt hrestates.grows.size_le)
  · exact List.map_congr_left fun p _ => (hrestates.describe_eq p).symm

/-- A check that reports unresolved parameters, its own or those of a specialization nested in it at
any depth, leaves the resolution that the report is of: stored for the type that the failing
registration constructs, and what is reported are its unsatisfied parameters, in their order, as the
container is left. A check that passes stores nothing that is not satisfied. -/
theorem check_reports_stored (hc : Reachable ctx c) (id : RegistrationId) :
    (∀ b service unresolved,
      c.check ctx id = (b, .error (.unresolvedDependencies service unresolved)) →
        unresolved ≠ [] ∧ ∃ count start nested resolution, c.Descends ctx id count start nested ∧
          b.constructs resolution.type nested ∧ b.resolution? resolution.type = some resolution ∧
          resolution.type.displayName = service ∧
          List.Forall₂ (b.Reports ctx) (resolution.parameters.filter (!·.isSatisfied))
            unresolved) ∧
      ∀ b, c.check ctx id = (b, .ok ()) →
        (∃ new, b.checks = c.checks ++ new ∧ ∀ check ∈ new, check.2.all (·.isSatisfied)) ∧
          ∀ resolution ∈ b.resolutions, resolution ∈ c.resolutions ∨ resolution.IsComplete := by
  constructor
  · intro b service unresolved h
    obtain ⟨count, start, nested, m, hdescends, hfails, rfl⟩ := check_error_iff.1 h
    obtain ⟨hne, resolution, hconstructs, hstored, hservice, hissued, rfl⟩ :=
      hfails.stored (hdescends.coherent hc.coherent) (hdescends.indexed hc.indexed)
    refine ⟨hne, count, start, nested, resolution, hdescends, hconstructs, hstored, hservice, ?_⟩
    rw [List.forall₂_map_right_iff, List.forall₂_same]
    intro p hp
    rw [← (restates_depth m c.specializationDepth).describe_eq p]
    exact reports_describe (hissued p (List.mem_of_mem_filter hp))
  · intro b h
    have hpasses : (c.check ctx id).passes := by rw [h]; rfl
    have hsatisfied := (kept_satisfied ctx).check c id hpasses
    have hcomplete := (kept_complete ctx).check c id hpasses
    rw [h] at hsatisfied hcomplete
    exact ⟨hsatisfied, hcomplete⟩

namespace Ledger

def user : TypeExpr := ⟨.classType, "app::User", [], false⟩
def database : TypeExpr := ⟨.classType, "app::Database", [], false⟩
def clock : TypeExpr := ⟨.classType, "app::Clock", [], false⟩
def report : TypeExpr := ⟨.classType, "app::Report", [], false⟩
def entity : TypeExpr := ⟨.parameter, "T", [], false⟩

def cache (stored : TypeExpr) : TypeExpr := ⟨.classType, "app::Cache", [stored], false⟩
def repository (stored : TypeExpr) : TypeExpr := ⟨.classType, "app::Repository", [stored], false⟩

/-- A report reads a repository, which reads a cache, which reads a database and a clock. -/
def catalog : Catalog := .ofDefinitions [
  .built (cache entity) [⟨"database", database, [], none⟩, ⟨"clock", clock, [], none⟩],
  .built (repository entity) [⟨"cache", cache entity, [], none⟩],
  .built database [],
  .built report [⟨"users", repository user, [], none⟩]]

def context : Context := { program := catalog.program }

/-- Two databases are declared, and no clock. -/
def registered : Container := empty.addAll context [
  { type := cache entity, lifetime := .singleton },
  { type := repository entity, lifetime := .singleton },
  { type := database, lifetime := .singleton }, { type := database, lifetime := .scoped },
  { type := report, lifetime := .transient }]

def checked : Container := (registered.check context 4).1

def missing : List UnresolvedParameter := [
  ⟨"database", "Database", none, .severalDeclared [⟨"Database", none⟩, ⟨"Database", none⟩]⟩,
  ⟨"clock", "Clock", none, .notDeclared []⟩]

end Ledger

/-- The check of the report fails by the cache, two specializations further down; of the three that
were under way only the cache has a resolution. -/
theorem cache_reported :
    Ledger.registered.check Ledger.context 4 =
        (Ledger.checked, .error (.unresolvedDependencies "Cache<User>" Ledger.missing)) ∧
      Ledger.checked.resolutions.map (·.type) = [Ledger.cache Ledger.user] ∧
      ∃ count start nested resolution,
        Ledger.registered.Descends Ledger.context 4 count start nested ∧
        Ledger.checked.resolution? resolution.type = some resolution ∧
        resolution.type.displayName = "Cache<User>" ∧
        List.Forall₂ (Ledger.checked.Reports Ledger.context)
          (resolution.parameters.filter (!·.isSatisfied)) Ledger.missing := by
  have hreachable : Reachable Ledger.context Ledger.registered := Evolves.refl.addAll _
  have hfails : Ledger.registered.check Ledger.context 4 =
      (Ledger.checked, .error (.unresolvedDependencies "Cache<User>" Ledger.missing)) := by
    decide +kernel
  obtain ⟨-, count, start, nested, resolution, hdescends, -, hstored, hservice, hreports⟩ :=
    (check_reports_stored hreachable 4).1 _ _ _ hfails
  exact ⟨hfails, by decide +kernel, count, start, nested, resolution, hdescends, hstored, hservice,
    hreports⟩

end Wiring.Container
