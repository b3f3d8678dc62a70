import Wiring.Proofs.Check.Excuse
import Wiring.Proofs.Check.Key
import Wiring.Proofs.Check.Latest

/-!
Consumers of types that differ in annotations only. Whether they pass their checks is the same, but
for one thing: an annotation of a type argument is handed on to the parameters of what is
specialized, and a parameter that is nullable may stay unsatisfied.
-/

namespace Wiring.Container

open TypeExpr

variable {ctx : Context}

/-- Who fails has no excuse of his own: a check that passes was not excused by another. -/
theorem not_excuses_of_passes {c : Container} (hc : Reachable ctx c) {id : RegistrationId}
    (hpasses : (c.check ctx id).passes) (a : Container) :
    ¬ Excuses c.size a (c.check ctx id).1 := by
  rintro ⟨k, ps, qs, hk, -, hqs, ⟨x, y⟩, hpair, hexcused⟩
  obtain ⟨new, hnew, hsatisfied⟩ := (kept_satisfied ctx).check c id hpasses
  rw [hnew] at hqs
  rcases List.mem_append.1 hqs with hold | hlater
  · exact absurd (hc.onRecord.latest.issued (k, qs) hold) (Nat.not_lt_of_le hk)
  · have hall := hsatisfied (k, qs) hlater
    exact hexcused.unsatisfied (List.all_eq_true.1 hall y (List.of_mem_zip hpair).2)

/-- What the check of the registration constructs its type by. -/
def construction? (ctx : Context) (c : Container) (id : RegistrationId) : Option Construction :=
  match c.registration? id with
  | none => none
  | some r =>
    if r.resolvedType.isNamed then (selectConstruction ctx r.resolvedType r.member).toOption.join
    else none

/-- Checking the registration is resolving this one parameter. -/
def Takes (ctx : Context) (c : Container) (id : RegistrationId) (parameter : Parameter) : Prop :=
  (c.construction? ctx id).map (·.parameters) = some [parameter]

instance (ctx : Context) (c : Container) (id : RegistrationId) (parameter : Parameter) :
    Decidable (c.Takes ctx id parameter) :=
  inferInstanceAs (Decidable (_ = _))

theorem construction?_eq_some {c : Container} {id : RegistrationId} {construction : Construction}
    (h : c.construction? ctx id = some construction) :
    ∃ r, c.registration? id = some r ∧ r.resolvedType.isNamed ∧
      selectConstruction ctx r.resolvedType r.member = .ok (some construction) := by
  unfold construction? at h
  split at h
  · cases h
  next r hr =>
  split at h
  · next hnamed =>
    refine ⟨r, hr, hnamed, ?_⟩
    cases hs : selectConstruction ctx r.resolvedType r.member with
    | error _ => simp [hs, Except.toOption] at h
    | ok found => simpa [hs, Except.toOption] using h
  · cases h

theorem checkWithin_takes {c : Container} {id : RegistrationId} {p : Parameter}
    (h : c.Takes ctx id p) (levels : Nat) :
    ∃ resolution : ParameterResolution → Resolution, (∀ x, (resolution x).parameters = [x]) ∧
      checkWithin ctx levels c id =
        match resolveParameter ctx (inner ctx levels) c p with
        | (b, .error fault) => (b, .error fault)
        | (b, .ok x) => conclude ctx b id (resolution x) := by
  obtain ⟨construction, hsome, hparameters⟩ := Option.map_eq_some_iff.1 h
  obtain ⟨r, hr, hnamed, hconstruction⟩ := construction?_eq_some hsome
  refine ⟨fun x => ⟨r.resolvedType, r.lifetime, construction, [x]⟩, fun _ => rfl, ?_⟩
  rw [checkWithin_eq]
  unfold checkWith
  simp only [hr, hnamed, hconstruction, hparameters, Bool.not_true, Bool.false_eq_true, if_false]
  unfold resolveParameters
  cases hs : resolveParameter ctx (inner ctx levels) c p with
  | mk b result => cases result <;> rfl

/-- What a parameter selects is registered. -/
theorem registration?_of_selected {c b : Container} (hc : c.Coherent ctx) {levels : Nat}
    {p : Parameter} {x : ParameterResolution}
    (hs : resolveParameter ctx (inner ctx levels) c p = (b, .ok x)) {id : RegistrationId}
    (hid : x.outcome = .selected id) : ∃ r, b.registration? id = some r := by
  have hunder : b.IsUnder x.key x.outcome := (justifies_isUnder ctx).resolveParameter hc hs
  rw [hid] at hunder
  obtain ⟨r, hr, -⟩ := Option.map_eq_some_iff.1 (hunder.1 id rfl)
  exact ⟨r, hr⟩

theorem registration?_conclude (b : Container) (id other : RegistrationId)
    (resolution : Resolution) :
    (conclude ctx b id resolution).1.registration? other = b.registration? other := by
  unfold registration?
  rw [conclude_fst]
  exact congrArg (·[other]?) (store_registrations b resolution)

section Consumers

variable {c : Container} (hprogram : ctx.program.IgnoresAnnotations)
  (hfallback : Fallback.IgnoresAnnotations ctx.fallback) (hc : c.Coherent ctx)
  {i j : RegistrationId} {p q : Parameter} (hi : c.Takes ctx i p)
  (hj : c.Takes ctx j q) (hpq : p.Alike q) (hnullable : p.type.nullable = q.type.nullable)
include hprogram hfallback hc hi hj hpq hnullable

/-- Where the check of the first consumer passes, that of the second passes and selects the same, or
it fails where the first had an excuse. -/
theorem check_parallel (hpasses : (c.check ctx i).passes) :
    ((c.check ctx j).passes ∧ (c.check ctx i).1.Alike (c.check ctx j).1 ∧
      ∃ x y, (c.check ctx i).1.checks.getLast? = some (i, [x]) ∧
        (c.check ctx j).1.checks.getLast? = some (j, [y]) ∧ x.outcome = y.outcome ∧
        ∀ id, x.outcome = .selected id → ∃ r, (c.check ctx i).1.registration? id = some r) ∨
    (¬ (c.check ctx j).passes ∧ Excuses c.size (c.check ctx i).1 (c.check ctx j).1) := by
  let levels := ctx.settings.maxSpecializationDepth - c.specializationDepth
  obtain ⟨first, hfirst, hcheck⟩ := checkWithin_takes hi levels
  obtain ⟨second, hsecond, hcheck'⟩ := checkWithin_takes hj levels
  have hresolve : Parallel c.size ParameterResolution.Tallies
      (resolveParameter ctx (inner ctx levels) c p) (resolveParameter ctx (inner ctx levels) c q) :=
    resolveParameter_parallel hprogram
      (fun n _ a b id hab hfloor hid => checkWithin_parallel hprogram hfallback n hab hfloor hid)
      hfallback (Alike.refl c) (Nat.le_refl _) hpq
  change (checkWithin ctx levels c i).passes at hpasses
  change ((checkWithin ctx levels c j).passes ∧
    (checkWithin ctx levels c i).1.Alike (checkWithin ctx levels c j).1 ∧
      ∃ x y, (checkWithin ctx levels c i).1.checks.getLast? = some (i, [x]) ∧
        (checkWithin ctx levels c j).1.checks.getLast? = some (j, [y]) ∧ x.outcome = y.outcome ∧
        ∀ id, x.outcome = .selected id →
          ∃ r, (checkWithin ctx levels c i).1.registration? id = some r) ∨
    (¬ (checkWithin ctx levels c j).passes ∧
      Excuses c.size (checkWithin ctx levels c i).1 (checkWithin ctx levels c j).1)
  rw [hcheck] at hpasses ⊢
  rw [hcheck']
  cases hs : resolveParameter ctx (inner ctx levels) c p with
  | mk a result =>
  rw [hs] at hpasses
  cases result with
  | error fault => cases hpasses
  | ok x =>
  dsimp only at hpasses ⊢
  have hlast (b : Container) (id : RegistrationId) (resolution : Resolution) :
      (conclude ctx b id resolution).1.checks.getLast? = some (id, resolution.parameters) := by
    rw [checks_conclude, List.getLast?_append]
    rfl
  rcases hresolve a x hs with ⟨b, y, ht, halike, htallies⟩ | ⟨b, fault, ht, hexcuses⟩
  · rw [ht]
    dsimp only
    rw [conclude_passes, hfirst, List.all_cons, List.all_nil, Bool.and_true] at hpasses
    have hx : x.parameter = p := resolveParameter_parameter hs
    have hy : y.parameter = q := resolveParameter_parameter ht
    have hsatisfied : y.isSatisfied := by
      refine (htallies.satisfied_or_excused hpasses).resolve_right fun hexcused => ?_
      have hannotated := hexcused.annotated
      rw [hx, hnullable, ← hy] at hannotated
      exact hexcused.unannotated hannotated
    refine Or.inl ⟨?_, ?_, x, y, ?_, ?_, htallies.outcome, fun id hid => ?_⟩
    · rw [conclude_passes, hsecond, List.all_cons, hsatisfied]
      rfl
    · rw [conclude_fst, conclude_fst]
      exact (halike.store _ _).note _ _
    · rw [hlast, hfirst]
    · rw [hlast, hsecond]
    · rw [registration?_conclude]
      exact registration?_of_selected hc hs hid
  · rw [ht]
    refine Or.inr ⟨Bool.false_ne_true, hexcuses.grow ?_⟩
    rw [checks_conclude]
    exact List.prefix_append _ _

end Consumers

/-- Two consumers that ask for the same, up to annotations of arguments. From one container both
checks pass or both fail, unless one of them lets a parameter of a new registration pass for an
annotation that it does not have in the other; and where both pass, they select the same. -/
theorem check_annotated_iff {catalog : Catalog} {c : Container}
    (hprogram : ctx.program = catalog.program)
    (hfallback : Fallback.IgnoresAnnotations ctx.fallback) (hc : Reachable ctx c)
    {i j : RegistrationId} {p q : Parameter} (hi : c.Takes ctx i p) (hj : c.Takes ctx j q)
    (hpq : p.Alike q) (hnullable : p.type.nullable = q.type.nullable) :
    ((c.check ctx i).passes = (c.check ctx j).passes ↔
      ¬ ((c.check ctx i).passes ∧ Excuses c.size (c.check ctx i).1 (c.check ctx j).1) ∧
        ¬ ((c.check ctx j).passes ∧ Excuses c.size (c.check ctx j).1 (c.check ctx i).1)) ∧
    ((c.check ctx i).passes → (c.check ctx j).passes →
      ∃ x y, (c.check ctx i).1.checks.getLast? = some (i, [x]) ∧
        (c.check ctx j).1.checks.getLast? = some (j, [y]) ∧ x.outcome = y.outcome ∧
        ∀ id, x.outcome = .selected id → ∃ r s,
          (c.check ctx i).1.registration? id = some r ∧
            (c.check ctx j).1.registration? id = some s ∧
            r.type.same s.type ∧ r.resolvedType.same s.resolvedType) := by
  have hignores : ctx.program.IgnoresAnnotations := by
    rw [hprogram]
    exact catalog.program_ignoresAnnotations
  have hforth := check_parallel hignores hfallback hc.coherent hi hj hpq hnullable
  have hback := check_parallel hignores hfallback hc.coherent hj hi hpq.symm hnullable.symm
  refine ⟨⟨fun hsame => ⟨?_, ?_⟩, ?_⟩, fun hpasses hpasses' => ?_⟩
  · rintro ⟨hpasses, hexcuses⟩
    exact not_excuses_of_passes hc (hsame ▸ hpasses) _ hexcuses
  · rintro ⟨hpasses, hexcuses⟩
    exact not_excuses_of_passes hc (hsame ▸ hpasses) _ hexcuses
  · rintro ⟨hnone, hnone'⟩
    rw [Bool.eq_iff_iff]
    refine ⟨fun hpasses => ?_, fun hpasses => ?_⟩
    · rcases hforth hpasses with ⟨hother, -⟩ | ⟨-, hexcuses⟩
      · exact hother
      · exact absurd ⟨hpasses, hexcuses⟩ hnone
    · rcases hback hpasses with ⟨hother, -⟩ | ⟨-, hexcuses⟩
      · exact hother
      · exact absurd ⟨hpasses, hexcuses⟩ hnone'
  · rcases hforth hpasses with ⟨-, halike, x, y, hx, hy, houtcome, hselected⟩ | ⟨hfails, -⟩
    · refine ⟨x, y, hx, hy, houtcome, fun id hid => ?_⟩
      obtain ⟨r, hr⟩ := hselected id hid
      rcases halike.registration?_cases id with ⟨hnone, -⟩ | ⟨r', s, hr', hs, hsame⟩
      · rw [hr] at hnone
        cases hnone
      · exact ⟨r', s, hr', hs, Service.type_same hsame, Service.resolvedType_same hsame⟩
    · exact absurd hpasses' hfails

namespace Shelves

def book : TypeExpr := ⟨.classType, "lib::Book", [], false⟩
def browser : TypeExpr := ⟨.classType, "lib::Browser", [], false⟩
def reader : TypeExpr := ⟨.classType, "lib::Reader", [], false⟩
def content : TypeExpr := ⟨.parameter, "T", [], false⟩

def shelf (stored : TypeExpr) : TypeExpr := ⟨.classType, "lib::Shelf", [stored], false⟩

/-- The browser does with a shelf that may be without a book. -/
def loose : Parameter := ⟨"shelf", shelf { book with nullable := true }, [], none⟩

/-- The reader wants the book. -/
def strict : Parameter := ⟨"shelf", shelf book, [], none⟩

def catalog : Catalog := .ofDefinitions [
  .built book [],
  .built (shelf content) [⟨"content", content, [], none⟩],
  .built browser [loose],
  .built reader [strict]]

def context : Context := { program := catalog.program }

/-- Nobody registered the book. -/
def bare : Container :=
  Container.empty.addAll context [
    { type := shelf content, lifetime := .singleton },
    { type := browser, lifetime := .singleton },
    { type := reader, lifetime := .singleton }]

def stocked : Container := bare.add context { type := book, lifetime := .singleton }

theorem reachable_bare : Reachable context bare := Evolves.addAll .refl _

theorem reachable_stocked : Reachable context stocked := reachable_bare.add _

theorem loose_alike : loose.Alike strict := ⟨by decide +kernel, rfl, rfl, rfl⟩

end Shelves

/-- Without a book the browser has an excuse that the reader has not. With a book on the shelf the
two select the same. -/
theorem shelves_checked :
    Excuses 3 (Shelves.bare.check Shelves.context 1).1 (Shelves.bare.check Shelves.context 2).1 ∧
      (Shelves.stocked.check Shelves.context 1).passes ∧
      (Shelves.stocked.check Shelves.context 2).passes ∧
      ∃ x y, (Shelves.stocked.check Shelves.context 1).1.checks.getLast? = some (1, [x]) ∧
        (Shelves.stocked.check Shelves.context 2).1.checks.getLast? = some (2, [y]) ∧
        x.outcome = y.outcome ∧
        ∀ id, x.outcome = .selected id → ∃ r s,
          (Shelves.stocked.check Shelves.context 1).1.registration? id = some r ∧
            (Shelves.stocked.check Shelves.context 2).1.registration? id = some s ∧
            r.type.same s.type ∧ r.resolvedType.same s.resolvedType := by
  have hprogram : Shelves.context.program = Shelves.catalog.program := rfl
  have hbare := (check_annotated_iff hprogram Fallback.ignoresAnnotations_none
    Shelves.reachable_bare (i := 1) (j := 2) (by decide +kernel) (by decide +kernel)
    Shelves.loose_alike rfl).1
  have hstocked := (check_annotated_iff hprogram Fallback.ignoresAnnotations_none
    Shelves.reachable_stocked (i := 1) (j := 2) (by decide +kernel) (by decide +kernel)
    Shelves.loose_alike rfl).2
  have hreader : ¬ (Shelves.bare.check Shelves.context 2).passes := by decide +kernel
  have hdiffer : (Shelves.bare.check Shelves.context 1).passes ≠
      (Shelves.bare.check Shelves.context 2).passes := by decide +kernel
  have hbrowser : (Shelves.stocked.check Shelves.context 1).passes := by decide +kernel
  have hboth : (Shelves.stocked.check Shelves.context 2).passes := by decide +kernel
  refine ⟨?_, hbrowser, hboth, hstocked hbrowser hboth⟩
  by_contra hnone
  exact hdiffer (hbare.2 ⟨fun h => hnone h.2, fun h => hreader h.1⟩)

/-- Without a book the browser gets its shelf, since the annotation of the argument makes the
content of the shelf nullable, and the reader, from the same container, does not. -/
theorem shelves_bare :
    Reachable Shelves.context Shelves.bare ∧
      Shelves.bare.Takes Shelves.context 1 Shelves.loose ∧
      Shelves.bare.Takes Shelves.context 2 Shelves.strict ∧
      Shelves.loose.type.same Shelves.strict.type ∧
      Shelves.loose.type.nullable = Shelves.strict.type.nullable ∧
      Shelves.loose.attributes = [] ∧ Shelves.strict.attributes = [] ∧
      Shelves.loose.default? = none ∧ Shelves.strict.default? = none ∧
      (Shelves.bare.check Shelves.context 1).passes ∧
      ¬ (Shelves.bare.check Shelves.context 2).passes :=
  ⟨Shelves.reachable_bare, by decide +kernel, by decide +kernel, by decide +kernel, rfl, rfl, rfl,
    rfl, rfl, by decide +kernel, by decide +kernel⟩

end Wiring.Container
