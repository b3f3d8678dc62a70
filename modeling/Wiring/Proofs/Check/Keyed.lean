import Wiring.Catalog.Basic
import Wiring.Proofs.Check.Forecast
import Wiring.Proofs.Check.Key

/-!
A new registration under a key, and the requests without one. Among the registrations of a type they
pass over it: where the type had a registration before, they are answered as they were. But an open
registration is closed only for a type that has none, whatever the key; so a request that was served
that way no longer is.
-/

namespace Wiring.Container

open Forecast (requested)

variable {ctx : Context} {c : Container} {service : Service}

theorem registration?_size (c : Container) : c.registration? c.size = none :=
  List.getElem?_eq_none (Nat.le_refl _)

theorem registration?_add_of_lt {id : RegistrationId} (hid : id < c.size) :
    (c.add ctx service).registration? id = c.registration? id := by
  rw [registration?_add, if_neg (Nat.ne_of_lt hid)]

/-- A request without a key does not see a new registration under one. -/
theorem underKey_none_add (hkey : service.key ≠ none) (ids : List RegistrationId) :
    (c.add ctx service).underKey none ids = c.underKey none ids := by
  refine List.filter_congr fun id _ => ?_
  rw [registration?_add]
  by_cases hid : id = c.size
  · rw [if_pos hid, hid, registration?_size]
    exact beq_eq_false_iff_ne.2 hkey
  · rw [if_neg hid]

theorem underKey_none_servicesFor_add (hkey : service.key ≠ none) (type : TypeExpr) :
    (c.add ctx service).underKey none ((c.add ctx service).servicesFor type) =
      c.underKey none (c.servicesFor type) := by
  rw [underKey_none_add hkey, servicesFor_add]
  split
  · simp [underKey, registration?_size]
  · rfl

theorem follow_add (hkey : service.key ≠ none) {id : RegistrationId} {r : Registration}
    (hid : c.registration? id = some r) (hunkeyed : r.key = none) :
    (c.add ctx service).follow ctx id = c.follow ctx id := by
  have hsame : (c.add ctx service).registration? id = c.registration? id :=
    registration?_add_of_lt (registration?_eq_some_lt hid)
  have hfamily : (c.add ctx service).familyOf? ctx id = c.familyOf? ctx id := by
    unfold familyOf?
    rw [hsame]
    rfl
  unfold follow
  rw [hfamily, hsame, hid]
  split
  · rfl
  · dsimp only
    split
    · rfl
    · rw [hunkeyed, underKey_none_servicesFor_add hkey]

theorem isEmptyCollection_add {id : RegistrationId} (hid : id < c.size) :
    (c.add ctx service).isEmptyCollection id = c.isEmptyCollection id := by
  unfold isEmptyCollection
  rw [registration?_add_of_lt hid]

theorem selectAmong_none_add (hc : c.Coherent ctx) (hkey : service.key ≠ none)
    (requireNonEmpty : Bool) (type : TypeExpr) :
    (c.add ctx service).selectAmong ctx none requireNonEmpty
        ((c.add ctx service).servicesFor type) =
      c.selectAmong ctx none requireNonEmpty (c.servicesFor type) := by
  unfold selectAmong
  rw [underKey_none_servicesFor_add hkey]
  split
  · rfl
  · next id hid =>
    have hmem : id ∈ c.underKey none (c.servicesFor type) := by
      rw [hid]
      exact List.mem_singleton_self id
    obtain ⟨_, hregister, hunkeyed⟩ := (mem_underKey.1 hmem).2
    obtain ⟨r, hr, rfl⟩ := register_eq_some_iff.1 hregister
    dsimp only
    rw [follow_add hkey hr hunkeyed,
      isEmptyCollection_add (hc.follow_lt (registration?_eq_some_lt hr))]
  · rfl

/-! What a parameter comes to is what its target comes to, after the fallback was asked. -/

theorem servicesFor_of_same {type other : TypeExpr} (h : type.same other) :
    c.servicesFor type = c.servicesFor other := by
  rw [servicesFor, servicesFor, TypeMap.get?_congr c.byType h]

theorem selectAmong_single {key : Option String} {ids : List RegistrationId} {id : RegistrationId}
    (requireNonEmpty : Bool) (h : c.underKey key ids = [id]) :
    c.selectAmong ctx key requireNonEmpty ids =
      if requireNonEmpty && c.isEmptyCollection (c.follow ctx id) then .undeclared
      else .selected (c.follow ctx id) := by
  rw [selectAmong, h]

/-- The resolution of a parameter whose target came to this. -/
def concluded (ctx : Context) (parameter : Parameter) (outcome : Outcome) : ParameterResolution :=
  let (type, nullable) := ctx.settings.unwrapNullable parameter.type
  ⟨parameter, type, nullable, (ctx.settings.deferredInner? type).isSome,
    if outcome = .undeclared ∧
      Fallback.supplies ctx.fallback parameter.key (requested ctx parameter) then .fallback
    else outcome⟩

theorem resolveParameter_snd (ctx : Context) (check : Option Check) (c : Container)
    (parameter : Parameter) :
    (resolveParameter ctx check c parameter).2 =
      (resolveTarget ctx check c parameter.key (requested ctx parameter)
        parameter.requiresNonEmpty).2.map (concluded ctx parameter) := by
  unfold resolveParameter
  dsimp only [requested]
  split
  · next hs =>
    rw [hs]
    rfl
  · next hs =>
    rw [hs]
    dsimp only
    rw [askFallback_snd]
    rfl

theorem selectAmong_ne_fallback (key : Option String) (requireNonEmpty : Bool)
    (ids : List RegistrationId) : c.selectAmong ctx key requireNonEmpty ids ≠ .fallback := by
  unfold selectAmong
  split
  · simp
  · dsimp only
    split <;> simp
  · simp

theorem selectCollection_ne_fallback (element : TypeExpr) (requireNonEmpty : Bool) :
    (c.selectCollection ctx element requireNonEmpty).2 ≠ .fallback := by
  unfold selectCollection
  split
  · split <;> simp
  · dsimp only
    split <;> simp

theorem specialize_ne_fallback (check : Option Check) (target : TypeExpr) :
    (specialize ctx check c target).2 ≠ .ok .fallback := by
  unfold specialize
  split
  · simp
  split
  · simp
  · dsimp only
    split
    · unfold specializeFrom
      dsimp only
      split
      · simp
      split
      · split <;> simp
      · split
        · simp
        · split <;> simp
    · simp
  · simp

/-- Only where it is asked does the fallback supply anything. -/
theorem resolveTarget_ne_fallback (check : Option Check) (key : Option String) (target : TypeExpr)
    (requireNonEmpty : Bool) :
    (resolveTarget ctx check c key target requireNonEmpty).2 ≠ .ok .fallback := by
  unfold resolveTarget
  split
  · split
    · simp
    split
    · simpa using selectCollection_ne_fallback _ requireNonEmpty
    · split
      · exact specialize_ne_fallback check target
      · simp
  · simpa using selectAmong_ne_fallback key requireNonEmpty _

theorem withoutFallback_concluded {parameter : Parameter} {outcome : Outcome}
    (h : outcome ≠ .fallback) :
    (concluded ctx parameter outcome).outcome.withoutFallback = outcome := by
  unfold concluded
  dsimp only
  split
  · next hasked => rw [hasked.1]; rfl
  · cases outcome <;> first | rfl | exact absurd rfl h

theorem outcome_concluded {parameter : Parameter} {outcome : Outcome}
    (h : outcome ≠ .undeclared) : (concluded ctx parameter outcome).outcome = outcome :=
  if_neg fun hasked => h hasked.1

theorem outcome_concluded_eq_selected {parameter : Parameter} {outcome : Outcome}
    {id : RegistrationId} :
    (concluded ctx parameter outcome).outcome = .selected id ↔ outcome = .selected id := by
  unfold concluded
  dsimp only
  split
  · next hasked => exact iff_of_false nofun fun h => by rw [h] at hasked; cases hasked.1
  · rfl

/-- The fallback is not asked where something is declared. -/
theorem resolveParameter_of_declared {check : Option Check} {b : Container} {parameter : Parameter}
    {outcome : Outcome} (h : resolveTarget ctx check c parameter.key (requested ctx parameter)
      parameter.requiresNonEmpty = (b, .ok outcome)) (hdeclared : outcome ≠ .undeclared) :
    resolveParameter ctx check c parameter = (b, .ok (concluded ctx parameter outcome)) := by
  have hsnd := resolveParameter_snd ctx check c parameter
  rw [h] at hsnd
  refine Prod.ext ?_ hsnd
  rw [requested] at h
  unfold resolveParameter
  dsimp only
  rw [h]
  cases outcome with
  | undeclared => exact absurd rfl hdeclared
  | selected _ => rfl
  | ambiguous _ => rfl
  | fallback => rfl

/-- What the fallback is asked, where there is one, for a request that comes to this. -/
def inquiries (ctx : Context) (key : Option String) (target : TypeExpr) : Outcome → List Event
  | .undeclared =>
    ctx.fallback.toList.map fun canProvide =>
      .fallbackAsked key target (canProvide key target)
  | .selected _ | .ambiguous _ | .fallback => []

/-- To ask the fallback leaves a remark, and nothing else. -/
theorem askFallback_asks (ctx : Context) (c : Container) (key : Option String) (target : TypeExpr)
    (outcome : Outcome) :
    (askFallback ctx c key target outcome).1 =
      { c with journal := c.journal ++ inquiries ctx key target outcome } := by
  cases outcome with
  | undeclared => cases hfallback : ctx.fallback <;> simp [askFallback, inquiries, note, hfallback]
  | selected _ => simp [askFallback, inquiries]
  | ambiguous _ => simp [askFallback, inquiries]
  | fallback => simp [askFallback, inquiries]

/-- With a registration of the type under a key, a request without one is a choice among the others
of the type, and the fallback is asked where there are none. -/
theorem resolveParameter_add (hc : c.Coherent ctx) (check : Option Check)
    {parameter : Parameter} (hkey : service.key ≠ none) (hunkeyed : parameter.key = none)
    (htype : service.type.same (requested ctx parameter)) :
    resolveParameter ctx check (c.add ctx service) parameter =
      ((askFallback ctx (c.add ctx service) none (requested ctx parameter)
          (c.selectAmong ctx none parameter.requiresNonEmpty
            (c.servicesFor (requested ctx parameter)))).1,
        .ok (concluded ctx parameter (c.selectAmong ctx none parameter.requiresNonEmpty
          (c.servicesFor (requested ctx parameter))))) := by
  have hsome : (c.add ctx service).servicesFor (requested ctx parameter) ≠ [] := by
    rw [servicesFor_add, if_pos htype]
    simp
  have htarget : resolveTarget ctx check (c.add ctx service) none (requested ctx parameter) _ = _ :=
    resolveTarget_served check parameter.requiresNonEmpty (Or.inl hsome)
  rw [selectAmong_none_add hc hkey] at htarget
  refine Prod.ext ?_ ?_
  · rw [requested] at htarget ⊢
    unfold resolveParameter
    dsimp only
    rw [hunkeyed, htarget]
  · rw [resolveParameter_snd, hunkeyed, htarget]
    rfl

/-- Nothing is declared for a parameter exactly where nothing is found for its target. -/
theorem resolveTarget_of_undeclared {check : Option Check} {parameter : Parameter}
    {p : ParameterResolution} (hp : (resolveParameter ctx check c parameter).2 = .ok p)
    (hundeclared : p.outcome.withoutFallback = .undeclared) :
    (resolveTarget ctx check c parameter.key (requested ctx parameter)
      parameter.requiresNonEmpty).2 = .ok .undeclared := by
  rw [resolveParameter_snd] at hp
  cases htarget : (resolveTarget ctx check c parameter.key (requested ctx parameter)
      parameter.requiresNonEmpty).2 with
  | error fault =>
    rw [htarget] at hp
    cases hp
  | ok outcome =>
    rw [htarget] at hp
    obtain rfl := Except.ok.inj hp
    have hne : outcome ≠ .fallback := by
      rintro rfl
      exact resolveTarget_ne_fallback _ _ _ _ htarget
    rw [← withoutFallback_concluded hne, hundeclared]

/-- A new registration of its type under a key leaves a parameter without a key as it was, exactly
where there was a registration of the type already or nothing was declared for the parameter. Else,
where an open registration was closed for it, nothing is declared for it any more. Either way the
parameter is resolved without a failure, and all that this leaves behind is what the fallback was
asked, which is asked where nothing is declared. -/
theorem keyed_passed_over (hc : Reachable ctx c) (check : Option Check) {parameter : Parameter}
    (hkey : service.key ≠ none) (hunkeyed : parameter.key = none)
    (htype : service.type.same (requested ctx parameter)) :
    ((resolveParameter ctx check (c.add ctx service) parameter).2 =
        (resolveParameter ctx check c parameter).2 ↔
      c.servicesFor (requested ctx parameter) ≠ [] ∨
        ∃ p, (resolveParameter ctx check c parameter).2 = .ok p ∧
          p.outcome.withoutFallback = .undeclared) ∧
    ∃ p, (resolveParameter ctx check (c.add ctx service) parameter).2 = .ok p ∧
      (c.servicesFor (requested ctx parameter) = [] →
        p.outcome.withoutFallback = .undeclared) ∧
      (∀ id, p.outcome = .selected id → ∃ r, c.registration? id = some r ∧
        (c.add ctx service).registration? id = some r) ∧
      (resolveParameter ctx check (c.add ctx service) parameter).1 =
        { c.add ctx service with
          journal := c.journal ++
            inquiries ctx none (requested ctx parameter) p.outcome.withoutFallback } := by
  have hadded := resolveParameter_add hc.coherent check hkey hunkeyed htype
  have hafter := congrArg Prod.snd hadded
  have hbefore := resolveParameter_snd ctx check c parameter
  have hfound : (concluded ctx parameter (c.selectAmong ctx none parameter.requiresNonEmpty
      (c.servicesFor (requested ctx parameter)))).outcome.withoutFallback =
      c.selectAmong ctx none parameter.requiresNonEmpty (c.servicesFor (requested ctx parameter)) :=
    withoutFallback_concluded (selectAmong_ne_fallback none _ _)
  have hnone (h : c.servicesFor (requested ctx parameter) = []) :
      c.selectAmong ctx none parameter.requiresNonEmpty (c.servicesFor (requested ctx parameter)) =
        .undeclared := by rw [h]; rfl
  refine ⟨⟨fun hsame => ?same, ?unseen⟩, _, hafter, fun h => hfound.trans (hnone h),
    fun id hid => ?selected, ?asked⟩
  case same =>
    refine or_iff_not_imp_left.2 fun h => ⟨_, hsame.symm.trans hafter, ?_⟩
    exact hfound.trans (hnone (not_not.1 h))
  case unseen =>
    intro hunseen
    by_cases h : c.servicesFor (requested ctx parameter) = []
    · obtain ⟨p, hp, hundeclared⟩ := hunseen.resolve_left (not_not.2 h)
      rw [hafter, hbefore, resolveTarget_of_undeclared hp hundeclared, hnone h]
      rfl
    · rw [hafter, hbefore, resolveTarget_served _ _ (Or.inl h), hunkeyed]
      rfl
  case selected =>
    rw [hid] at hfound
    have hlt := (selectAmong_answers hc.coherent hfound.symm).lt hc.coherent
    obtain ⟨r, hr⟩ := registration?_isSome hlt
    exact ⟨r, hr, (registration?_add_of_lt hlt).trans hr⟩
  case asked =>
    rw [congrArg Prod.fst hadded, hfound]
    exact askFallback_asks _ _ _ _ _

namespace Archives

def user : TypeExpr := ⟨.classType, "shop::User", [], false⟩
def report : TypeExpr := ⟨.classType, "shop::Report", [], false⟩
def entity : TypeExpr := ⟨.parameter, "T", [], false⟩

def repository (stored : TypeExpr) : TypeExpr := ⟨.classType, "shop::Repository", [stored], false⟩

/-- The report takes its users from a repository. -/
def users : Parameter := ⟨"users", repository user, [], none⟩

def catalog : Catalog := .ofDefinitions [.built (repository entity) [], .built report [users]]

def context : Context := { program := catalog.program }

def opened : Container :=
  Container.empty.addAll context [
    { type := repository entity, lifetime := .singleton },
    { type := report, lifetime := .singleton }]

/-- The repository of users is registered itself, too. -/
def closed : Container :=
  opened.add context { type := repository user, lifetime := .singleton }

/-- A running program that supplies repositories itself. -/
def supplied : Context := { context with fallback := some (Fallback.byName ["shop::Repository"]) }

/-- Another repository of users, under a key. -/
def archive : Service :=
  { type := repository user, lifetime := .singleton, key := some "archive" }

theorem reachable_opened : Reachable context opened := Evolves.addAll .refl _

theorem reachable_closed : Reachable context closed := reachable_opened.add _

theorem reachable_supplied : Reachable supplied opened := Evolves.addAll .refl _

/-- Where the users come from. -/
def outcome (c : Container) : Option Outcome :=
  (resolveParameter context (inner context 16) c users).2.toOption.map (·.outcome)

end Archives

/-- Where the repository of users is registered itself, the archive is passed over, and nothing is
left behind. Where it would be closed from the open one, the fallback is asked for it, which is all
that is left behind; that it supplies one is what the parameter comes to. -/
theorem archive_passed_over :
    (Archives.outcome Archives.closed = some (.selected 2) ∧
      (resolveParameter Archives.context (inner Archives.context 16)
          (Archives.closed.add Archives.context Archives.archive) Archives.users).2 =
        (resolveParameter Archives.context (inner Archives.context 16) Archives.closed
          Archives.users).2 ∧
      (resolveParameter Archives.context (inner Archives.context 16)
          (Archives.closed.add Archives.context Archives.archive) Archives.users).1 =
        Archives.closed.add Archives.context Archives.archive) ∧
    ∃ p, (resolveParameter Archives.supplied (inner Archives.supplied 16)
          (Archives.opened.add Archives.supplied Archives.archive) Archives.users) =
        ((Archives.opened.add Archives.supplied Archives.archive).note
          (.fallbackAsked none (Archives.repository Archives.user) true), .ok p) ∧
      p.outcome = .fallback := by
  have hkey : Archives.archive.key ≠ none := by decide
  have hunkeyed : Archives.users.key = none := by decide
  obtain ⟨hiff, p, -, -, -, hafter⟩ := keyed_passed_over Archives.reachable_closed
    (inner Archives.context 16) hkey hunkeyed (by decide +kernel)
  obtain ⟨-, q, hq, hundeclared, -, hasked⟩ := keyed_passed_over Archives.reachable_supplied
    (inner Archives.supplied 16) hkey hunkeyed (by decide +kernel)
  have hnone : inquiries Archives.context none (requested Archives.context Archives.users)
      p.outcome.withoutFallback = [] := by
    cases p.outcome.withoutFallback <;> rfl
  refine ⟨⟨by decide +kernel, hiff.2 (Or.inl (by decide +kernel)), ?_⟩, q, Prod.ext ?_ hq, ?_⟩
  · rw [hafter, hnone, List.append_nil]
    rfl
  · rw [hasked, hundeclared (by decide +kernel)]
    rfl
  · have hsupplied : (resolveParameter Archives.supplied (inner Archives.supplied 16)
        (Archives.opened.add Archives.supplied Archives.archive) Archives.users).2.toOption.map
          (·.outcome) = some .fallback := by decide +kernel
    rw [hq] at hsupplied
    exact Option.some.inj hsupplied

/-- Where it is closed from the open one, the archive stands in the way: the same request, still
without a key, finds nothing declared, and the report that was ready fails its check. -/
theorem archive_stands_in_the_way :
    Reachable Archives.context Archives.opened ∧
      Archives.archive.key ≠ none ∧ Archives.users.key = none ∧
      Archives.archive.type.same (requested Archives.context Archives.users) ∧
      Archives.context.settings.collectionElement? (requested Archives.context Archives.users) =
        none ∧
      Archives.outcome Archives.opened = some (.selected 2) ∧
      (Archives.opened.check Archives.context 1).passes ∧
      Archives.outcome (Archives.opened.add Archives.context Archives.archive) =
        some .undeclared ∧
      ¬ ((Archives.opened.add Archives.context Archives.archive).check Archives.context 1).passes :=
  ⟨Archives.reachable_opened, by decide, by decide, by decide +kernel, by decide +kernel,
    by decide +kernel, by decide +kernel, by decide +kernel, by decide +kernel⟩

end Wiring.Container
