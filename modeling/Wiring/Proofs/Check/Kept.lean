import Wiring.Assembly
import Wiring.Container.History

/-!
What checks keep. A check changes a container by a few updates only: remarks in the journal, the
family of a collection, an alias, a specialization with the check nested in it, and the resolution
it concludes with. A relation between containers that holds of these and can be chained holds of
every check, however deeply specializations nest. The relation is told whether the step passed, so
that it may speak of all checks or only of those that pass; where it has to tell the check of a
registration from the resolving of its parameters, it is one of two.
-/

namespace Wiring

/-- Neither a specialization nor a resolution. -/
def Event.isRemark : Event → Bool
  | warned _ | fallbackAsked .. => true
  | specialized _ | resolved .. => false

/-- The step was not stopped by a failure. -/
def Step.passes {α : Type} (s : Step α) : Bool := s.2.isOk

@[simp] theorem Step.passes_ok {α : Type} (c : Container) (a : α) :
    Step.passes (c, Except.ok a) = true := rfl

@[simp] theorem Step.passes_error {α : Type} (c : Container) (fault : Fault) :
    Step.passes (α := α) (c, Except.error fault) = false := rfl

namespace Container

/-- The check that a check with this allowance nests. -/
def inner (ctx : Context) : Nat → Option Check
  | 0 => none
  | levels + 1 => some (checkWithin ctx levels)

theorem checkWithin_eq (ctx : Context) (levels : Nat) :
    checkWithin ctx levels = checkWith ctx (inner ctx levels) := by
  cases levels <;> rfl

theorem inner_eq_some {ctx : Context} {levels : Nat} {check : Check}
    (h : inner ctx levels = some check) : ∃ n, levels = n + 1 ∧ check = checkWithin ctx n := by
  cases levels with
  | zero => cases h
  | succ n => exact ⟨n, rfl, (Option.some.inj h).symm⟩

/-- A request for `target` is closed from the open registration `source`. -/
structure Opens (ctx : Context) (c : Container) (target : TypeExpr) (source : Registration) :
    Prop where
  unserved : c.servicesFor target = []
  noCollection : ctx.settings.collectionElement? target = none
  generic : target.isGeneric
  opened : ∃ definition id, ctx.program.genericDefinition target = some definition ∧
    c.underKey none (c.servicesFor definition) = [id] ∧
    c.registration? (c.follow ctx id) = some source
  arity : source.resolvedType.args.length = target.args.length

/-- The type that a request for `target` closes `source` to. -/
abbrev closedType (target : TypeExpr) (source : Registration) : TypeExpr :=
  source.resolvedType.construct target.args

/-- The container in which a new specialization is checked. -/
def entered (c : Container) (ctx : Context) (target : TypeExpr) (source : Registration) :
    Container :=
  let added := c.addSpecialization ctx (closedOver target source)
  { added with specializationDepth := added.specializationDepth + 1 }

/-- The container after the check of a specialization. -/
def left (c : Container) : Container := { c with specializationDepth := c.specializationDepth - 1 }

theorem checkNested_entered (check : Check) (c : Container) (ctx : Context) (target : TypeExpr)
    (source : Registration) (id : RegistrationId) :
    checkNested check (c.addSpecialization ctx (closedOver target source)) id =
      ((check (c.entered ctx target source) id).1.left,
        (check (c.entered ctx target source) id).2) := rfl

/-- `R ok a b` holds of the updates that resolving parameters consists of, and `C id ok a b` of the
check of `id`, where `ok` tells whether they pass. -/
structure Keeps (ctx : Context) (R : Bool → Container → Container → Prop)
    (C : RegistrationId → Bool → Container → Container → Prop) : Prop where
  refl (ok : Bool) (c : Container) : R ok c c
  trans {ok : Bool} {a b c : Container} : R true a b → R ok b c → R ok a c
  remark (c : Container) {event : Event} : event.isRemark → R true c (c.note event)
  family {c : Container} {target element : TypeExpr} :
    c.servicesFor target = [] → ctx.settings.collectionElement? target = some element →
    c.families.get? element = none →
    R true c (c.addFamily ctx element (c.members ctx element))
  redirect {c : Container} {target : TypeExpr} {source : Registration} :
    c.Opens ctx target source →
    c.underKey source.key (c.servicesFor (closedType target source)) ≠ [] →
    ¬ (closedType target source).same target →
    R true c (c.add ctx (aliasOf target (closedType target source) source))
  nested {c : Container} {target : TypeExpr} {source : Registration} {levels : Nat}
    {s : Step Unit} :
    c.Opens ctx target source →
    c.underKey source.key (c.servicesFor (closedType target source)) = [] →
    c.specializationDepth < ctx.settings.maxSpecializationDepth →
    checkWithin ctx levels (c.entered ctx target source) c.size = s →
    C c.size s.passes (c.entered ctx target source) s.1 → R s.passes c s.1.left
  stopped (id : RegistrationId) {ok : Bool} {a b : Container} : R ok a b → C id ok a b
  conclude {a b : Container} {id : RegistrationId} {r : Registration} {levels : Nat}
    {construction : Construction} {parameters : List ParameterResolution} :
    a.registration? id = some r →
    selectConstruction ctx r.resolvedType r.member = .ok (some construction) →
    resolveParameters ctx (inner ctx levels) a construction.parameters = (b, .ok parameters) →
    R true a b →
    C id (parameters.all (·.isSatisfied)) a
      (conclude ctx b id ⟨r.resolvedType, r.lifetime, construction, parameters⟩).1

/-- One relation for both. -/
abbrev Kept (ctx : Context) (R : Bool → Container → Container → Prop) : Prop :=
  Keeps ctx R fun _ => R

theorem conclude_passes (ctx : Context) (c : Container) (id : RegistrationId)
    (resolution : Resolution) :
    (conclude ctx c id resolution).passes = resolution.parameters.all (·.isSatisfied) := by
  unfold conclude
  by_cases h : resolution.parameters.all (·.isSatisfied)
  · have hnone : resolution.parameters.filter (!·.isSatisfied) = [] := by simpa using h
    simp [hnone, h]
  · have hsome : resolution.parameters.filter (!·.isSatisfied) ≠ [] := by simpa using h
    simp [hsome, h]

theorem conclude_fst (ctx : Context) (c : Container) (id : RegistrationId)
    (resolution : Resolution) :
    (conclude ctx c id resolution).1 =
      (c.store resolution).note (.resolved id resolution.parameters) := by
  unfold conclude
  dsimp only
  split <;> rfl

namespace Keeps

variable {ctx : Context} {R : Bool → Container → Container → Prop}
  {C : RegistrationId → Bool → Container → Container → Prop} (h : Keeps ctx R C)
include h

theorem askFallback (c : Container) (key : Option String) (target : TypeExpr) (outcome : Outcome) :
    R true c (askFallback ctx c key target outcome).1 := by
  unfold Container.askFallback
  split
  · split
    · exact h.refl true c
    · exact h.remark c rfl
  · exact h.refl true c

theorem selectCollection {c : Container} {target element : TypeExpr} (requireNonEmpty : Bool)
    (hfree : c.servicesFor target = [])
    (helement : ctx.settings.collectionElement? target = some element) :
    R true c (c.selectCollection ctx element requireNonEmpty).1 := by
  unfold Container.selectCollection
  split
  · split <;> exact h.refl true c
  · next hnew =>
    dsimp only
    split
    · exact h.refl true c
    · exact h.family hfree helement hnew

section Nested

variable {levels : Nat}
  (ih : ∀ n < levels, ∀ c id, C id (checkWithin ctx n c id).passes c (checkWithin ctx n c id).1)
include ih

theorem specializeFrom {c : Container} {target : TypeExpr} {source : Registration}
    (hopens : source.resolvedType.args.length = target.args.length → c.Opens ctx target source) :
    R (specializeFrom ctx (inner ctx levels) c target source).passes c
      (specializeFrom ctx (inner ctx levels) c target source).1 := by
  unfold Container.specializeFrom
  dsimp only
  split
  · exact h.remark c rfl
  next harity =>
  have hopens := hopens (Decidable.not_not.1 harity)
  split
  · next existing rest hexisting =>
    split
    · exact h.refl true c
    · next hother => exact h.redirect hopens (by rw [hexisting]; simp) hother
  next hnew =>
  split
  · exact h.refl false c
  next check hcheck =>
  split at hcheck
  · next hdepth =>
    obtain ⟨n, rfl, rfl⟩ := inner_eq_some hcheck
    have hinner := ih n (Nat.lt_succ_self n) (c.entered ctx target source) c.size
    have hnested := h.nested hopens hnew hdepth rfl hinner
    rw [checkNested_entered]
    rcases hs : checkWithin ctx n (c.entered ctx target source) c.size with ⟨after, result⟩
    rw [hs] at hnested
    cases result with
    | ok _ => exact hnested
    | error _ => exact hnested
  · cases hcheck

theorem specialize {c : Container} {target : TypeExpr} (hfree : c.servicesFor target = [])
    (hcollection : ctx.settings.collectionElement? target = none) (hgeneric : target.isGeneric) :
    R (specialize ctx (inner ctx levels) c target).passes c
      (specialize ctx (inner ctx levels) c target).1 := by
  unfold Container.specialize
  split
  · exact h.refl true c
  next definition hdefinition =>
  split
  · exact h.refl true c
  · next id hid =>
    dsimp only
    split
    · next source hsource =>
      exact h.specializeFrom ih fun harity =>
        ⟨hfree, hcollection, hgeneric, ⟨definition, id, hdefinition, hid, hsource⟩, harity⟩
    · exact h.refl false c
  · exact h.refl true c

theorem resolveTarget (c : Container) (key : Option String) (target : TypeExpr)
    (requireNonEmpty : Bool) :
    R (resolveTarget ctx (inner ctx levels) c key target requireNonEmpty).passes c
      (resolveTarget ctx (inner ctx levels) c key target requireNonEmpty).1 := by
  unfold Container.resolveTarget
  split
  · next hfree =>
    split
    · exact h.refl true c
    split
    · next element helement => exact h.selectCollection requireNonEmpty hfree helement
    · next hcollection =>
      split
      · next hgeneric => exact h.specialize ih hfree hcollection hgeneric
      · exact h.refl true c
  · exact h.refl true c

theorem resolveParameter (c : Container) (parameter : Parameter) :
    R (resolveParameter ctx (inner ctx levels) c parameter).passes c
      (resolveParameter ctx (inner ctx levels) c parameter).1 := by
  unfold Container.resolveParameter
  dsimp only
  have htarget := h.resolveTarget ih c parameter.key
    (targetOf ctx (ctx.settings.unwrapNullable parameter.type).1) parameter.requiresNonEmpty
  split
  · next hs => rwa [hs] at htarget
  · next hs =>
    rw [hs] at htarget
    exact h.trans htarget (h.askFallback _ _ _ _)

theorem resolveParameters (c : Container) (parameters : List Parameter) :
    R (resolveParameters ctx (inner ctx levels) c parameters).passes c
      (resolveParameters ctx (inner ctx levels) c parameters).1 := by
  induction parameters generalizing c with
  | nil => exact h.refl true c
  | cons parameter rest ihrest =>
    unfold Container.resolveParameters
    have hfirst := h.resolveParameter ih c parameter
    split
    · next hs => rwa [hs] at hfirst
    · next middle first hs =>
      rw [hs] at hfirst
      have hrest := ihrest middle
      split
      · next hs' =>
        rw [hs'] at hrest
        exact h.trans hfirst hrest
      · next hs' =>
        rw [hs'] at hrest
        exact h.trans hfirst hrest

end Nested

/-- Every check keeps what the updates it consists of keep. -/
theorem checkWithin (levels : Nat) (c : Container) (id : RegistrationId) :
    C id (checkWithin ctx levels c id).passes c (checkWithin ctx levels c id).1 := by
  induction levels using Nat.strongRecOn generalizing c id with
  | _ levels ih =>
    rw [checkWithin_eq]
    unfold checkWith
    split
    · exact h.stopped id (h.refl false c)
    next r hr =>
    dsimp only
    split
    · exact h.stopped id (h.refl false c)
    split
    · exact h.stopped id (h.refl false c)
    · exact h.stopped id (h.refl true c)
    next construction hconstruction =>
    have hparameters := h.resolveParameters ih c construction.parameters
    split
    · next hs =>
      rw [hs] at hparameters
      exact h.stopped id hparameters
    · next hs =>
      rw [hs] at hparameters
      rw [conclude_passes]
      exact h.conclude hr hconstruction hs hparameters

theorem resolved {levels : Nat} {a b : Container} {parameters : List Parameter}
    {resolved : List ParameterResolution}
    (hs : Container.resolveParameters ctx (inner ctx levels) a parameters = (b, .ok resolved)) :
    R true a b := by
  have hparameters : R _ a (Container.resolveParameters ctx (inner ctx levels) a parameters).1 :=
    h.resolveParameters (fun n _ => h.checkWithin n) a parameters
  rwa [hs] at hparameters

theorem check (c : Container) (id : RegistrationId) :
    C id (c.check ctx id).passes c (c.check ctx id).1 := h.checkWithin _ c id

end Keeps

theorem Keeps.checkEach {ctx : Context} {R : Bool → Container → Container → Prop}
    {C : RegistrationId → Bool → Container → Container → Prop} (h : Keeps ctx R C)
    {ids : List RegistrationId} (hids : ∀ id ∈ ids, ∀ ok a b, C id ok a b → R ok a b)
    (c : Container) : R (checkEach ctx c ids).passes c (checkEach ctx c ids).1 := by
  induction ids generalizing c with
  | nil => exact h.refl true c
  | cons id rest ih =>
    have hrest := ih fun id hid => hids id (List.mem_cons_of_mem _ hid)
    unfold Container.checkEach
    split
    · have hcheck := hids id List.mem_cons_self _ _ _ (h.check c id)
      split
      · next hs => rwa [hs] at hcheck
      · next hs =>
        rw [hs] at hcheck
        exact h.trans hcheck (hrest _)
    · exact hrest c

theorem Kept.checkEach {ctx : Context} {R : Bool → Container → Container → Prop} (h : Kept ctx R)
    (c : Container) (ids : List RegistrationId) :
    R (checkEach ctx c ids).passes c (checkEach ctx c ids).1 :=
  Keeps.checkEach h (fun _ _ _ _ _ hc => hc) c

/-- What holds of the empty container and is kept by registering and by checks holds of every
container. -/
theorem Reachable.invariant {ctx : Context} {P : Container → Prop} (hempty : P .empty)
    (hadd : ∀ c service, P c → P (c.add ctx service))
    (hcheck : ∀ c id, P c → P (c.check ctx id).1) {c : Container} (hc : Reachable ctx c) : P c := by
  induction hc with
  | refl => exact hempty
  | add service _ ih => exact hadd _ service ih
  | check id _ ih => exact hcheck _ id ih

theorem Evolves.checkEach {ctx : Context} {a b : Container} (h : Evolves ctx a b)
    (ids : List RegistrationId) : Evolves ctx a (checkEach ctx b ids).1 := by
  induction ids generalizing b with
  | nil => exact h
  | cons id rest ih =>
    unfold Container.checkEach
    split
    · have hcheck := h.check id
      split
      · next hs => rwa [hs] at hcheck
      · next hs =>
        rw [hs] at hcheck
        exact ih hcheck
    · exact ih h

end Container
end Wiring
