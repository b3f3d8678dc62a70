import Wiring.Proofs.Check.Recursion

/-!
Checks inside checks. A check comes to one parameter after another, and where a parameter is served
by a new specialization, that one is checked before the next parameter is come to. A failure ends
all checks around the one that failed by itself, and they change nothing any more. So a check fails
exactly if it, or one nested in it, fails by itself, and the container is as that one left it.
-/

namespace Wiring.Container

open Forecast (requested)

variable {ctx : Context} {b c m : Container} {id : RegistrationId} {p : Parameter}
  {target : TypeExpr} {source : Registration} {fault : Fault} {count : Nat}

/-- The check of `id` from `c` has resolved the parameters before `p`, which left `m`. -/
def Comes (ctx : Context) (c : Container) (id : RegistrationId) (m : Container) (p : Parameter) :
    Prop :=
  ∃ r construction before after resolved, c.registration? id = some r ∧ r.resolvedType.isNamed ∧
    selectConstruction ctx r.resolvedType r.member = .ok (some construction) ∧
    construction.parameters = before ++ p :: after ∧
    resolveParameters ctx (some (recheck ctx)) c before = (m, .ok resolved)

/-- The check of `id` from `c` comes in `m` to closing `source` over the arguments of `target`, to a
type that is not registered. -/
structure Attempts (ctx : Context) (c : Container) (id : RegistrationId) (m : Container)
    (target : TypeExpr) (source : Registration) : Prop where
  comes : ∃ p, c.Comes ctx id m p ∧ p.key = none ∧ requested ctx p = target
  opens : m.Opens ctx target source
  new : m.underKey source.key (m.servicesFor (closedType target source)) = []

/-- The check of `id` from `c` descends to the check of `nested`, which sets out from `start` as the
innermost of `count` specializations that are checked inside one another. -/
inductive Descends (ctx : Context) (c : Container) (id : RegistrationId) :
    Nat → Container → RegistrationId → Prop
  | outset : Descends ctx c id 0 c id
  | enter {count : Nat} {start m : Container} {nested : RegistrationId} {target : TypeExpr}
      {source : Registration} : Descends ctx c id count start nested →
      start.Attempts ctx nested m target source →
      m.specializationDepth < ctx.settings.maxSpecializationDepth →
      Descends ctx c id (count + 1) (m.entered ctx target source) m.size

/-- The check of `id` from `c` fails in `m`, and none that it nests. -/
inductive FailsAt (ctx : Context) (c : Container) (id : RegistrationId) : Container → Fault → Prop
  | unissued : c.registration? id = none → FailsAt ctx c id c (.unissuedId id)
  | notNamed {r : Registration} : c.registration? id = some r → r.resolvedType.isNamed = false →
      FailsAt ctx c id c (.notNamedType r.resolvedType)
  | unconstructed {r : Registration} {fault : Fault} : c.registration? id = some r →
      r.resolvedType.isNamed → selectConstruction ctx r.resolvedType r.member = .error fault →
      FailsAt ctx c id c fault
  | unopened {m : Container} {p : Parameter} {definition : TypeExpr} {opened : RegistrationId} :
      c.Comes ctx id m p → p.key = none → m.servicesFor (requested ctx p) = [] →
      ctx.settings.collectionElement? (requested ctx p) = none → (requested ctx p).isGeneric →
      ctx.program.genericDefinition (requested ctx p) = some definition →
      m.underKey none (m.servicesFor definition) = [opened] →
      m.registration? (m.follow ctx opened) = none →
      FailsAt ctx c id m (.unissuedId (m.follow ctx opened))
  | stopped {m : Container} {target : TypeExpr} {source : Registration} :
      c.Attempts ctx id m target source →
      ctx.settings.maxSpecializationDepth ≤ m.specializationDepth →
      FailsAt ctx c id m (.specializationDepthExceeded (closedType target source)
        ctx.settings.maxSpecializationDepth)
  | unresolved {r : Registration} {construction : Construction} {m : Container}
      {parameters : List ParameterResolution} : c.registration? id = some r →
      r.resolvedType.isNamed →
      selectConstruction ctx r.resolvedType r.member = .ok (some construction) →
      resolveParameters ctx (some (recheck ctx)) c construction.parameters =
        (m, .ok parameters) →
      parameters.filter (!·.isSatisfied) ≠ [] →
      FailsAt ctx c id
        ((m.store ⟨r.resolvedType, r.lifetime, construction, parameters⟩).note
          (.resolved id parameters))
        (.unresolvedDependencies r.resolvedType.displayName
          ((parameters.filter (!·.isSatisfied)).map (m.describe ctx)))

/-! How far a check has come. -/

theorem resolveParameters_append (ctx : Context) (check : Option Check) (c : Container)
    (before after : List Parameter) :
    resolveParameters ctx check c (before ++ after) =
      (resolveParameters ctx check c before).andThen fun c first =>
        (resolveParameters ctx check c after).andThen fun c second =>
          (c, .ok (first ++ second)) := by
  induction before generalizing c with
  | nil =>
    rw [List.nil_append, resolveParameters, Step.andThen_ok]
    generalize resolveParameters ctx check c after = s
    obtain ⟨_, _ | _⟩ := s <;> rfl
  | cons parameter before ih =>
    rw [List.cons_append, resolveParameters_cons, resolveParameters_cons]
    rcases resolveParameter ctx check c parameter with ⟨middle, _ | first⟩
    · rfl
    rw [Step.andThen_ok, Step.andThen_ok, ih middle]
    rcases resolveParameters ctx check middle before with ⟨later, _ | others⟩
    · rfl
    rw [Step.andThen_ok, Step.andThen_ok, Step.andThen_ok]
    rcases resolveParameters ctx check later after with ⟨_, _ | _⟩ <;> rfl

/-- Parameters that are not all resolved are resolved up to one that is not. -/
theorem resolveParameters_error {check : Option Check} {parameters : List Parameter}
    (h : resolveParameters ctx check c parameters = (b, .error fault)) :
    ∃ before p after m resolved, parameters = before ++ p :: after ∧
      resolveParameters ctx check c before = (m, .ok resolved) ∧
      resolveParameter ctx check m p = (b, .error fault) := by
  induction parameters generalizing c with
  | nil => cases h
  | cons parameter rest ih =>
    rw [resolveParameters_cons] at h
    rcases hfirst : resolveParameter ctx check c parameter with ⟨middle, _ | first⟩
    · rw [hfirst, Step.andThen_error] at h
      cases h
      exact ⟨[], parameter, rest, c, [], rfl, rfl, hfirst⟩
    · rw [hfirst, Step.andThen_ok] at h
      rcases hrest : resolveParameters ctx check middle rest with ⟨later, _ | others⟩
      · rw [hrest, Step.andThen_error] at h
        cases h
        obtain ⟨before, p, after, m, resolved, rfl, hbefore, hp⟩ := ih hrest
        refine ⟨parameter :: before, p, after, m, first :: resolved, rfl, ?_, hp⟩
        rw [resolveParameters_cons, hfirst, Step.andThen_ok, hbefore, Step.andThen_ok]
      · rw [hrest, Step.andThen_ok] at h
        cases h

/-- What is kept by checks that pass is kept on the way to a parameter. -/
theorem Comes.kept {R : Bool → Container → Container → Prop}
    {C : RegistrationId → Bool → Container → Container → Prop} (hkeeps : Keeps ctx R C)
    (h : c.Comes ctx id m p) : R true c m := by
  obtain ⟨r, construction, before, after, resolved, -, -, -, -, hbefore⟩ := h
  rw [resolveParameters_rechecks (rechecks_recheck ctx _)] at hbefore
  exact hkeeps.resolved hbefore

theorem Comes.depth_eq (h : c.Comes ctx id m p) :
    m.specializationDepth = c.specializationDepth := h.kept (kept_specializationDepth ctx)

theorem Attempts.depth_eq (h : c.Attempts ctx id m target source) :
    m.specializationDepth = c.specializationDepth := by
  obtain ⟨p, hp, -⟩ := h.comes
  exact hp.depth_eq

theorem Descends.depth_eq {start : Container} {nested : RegistrationId}
    (h : c.Descends ctx id count start nested) :
    start.specializationDepth = c.specializationDepth + count := by
  induction h with
  | outset => rfl
  | enter _ hattempts _ ih =>
    rw [entered_specializationDepth, hattempts.depth_eq, ih, Nat.add_assoc]

/-- Specializations nest as deep as the limit leaves room. -/
theorem Descends.count_le {start : Container} {nested : RegistrationId}
    (h : c.Descends ctx id count start nested) : count ≤ c.room ctx := by
  cases h with
  | outset => exact Nat.zero_le _
  | enter hdescends hattempts hdepth =>
    rw [hattempts.depth_eq, hdescends.depth_eq] at hdepth
    unfold room
    omega

/-- What is nested in the check of a new specialization is nested, one deeper, in the check that
made it. -/
theorem Descends.under {start : Container} {nested : RegistrationId}
    (hattempts : c.Attempts ctx id m target source)
    (hdepth : m.specializationDepth < ctx.settings.maxSpecializationDepth)
    (h : (m.entered ctx target source).Descends ctx m.size count start nested) :
    c.Descends ctx id (count + 1) start nested := by
  induction h with
  | outset => exact .enter .outset hattempts hdepth
  | enter _ hinner hlimit ih => exact .enter ih hinner hlimit

/-! How a failure comes about, and how it is passed on. -/

theorem Opens.resolveTarget_eq (h : m.Opens ctx target source) (check : Option Check)
    (requireNonEmpty : Bool) :
    resolveTarget ctx check m none target requireNonEmpty =
      specializeFrom ctx check m target source := by
  obtain ⟨definition, opened, hdefinition, hunder, hsource⟩ := h.opened
  simp only [resolveTarget, h.unserved, Option.isSome_none, Bool.false_eq_true, if_false,
    h.noCollection, h.generic, if_true, specialize, hdefinition, hunder, hsource]

theorem specializeFrom_stopped {check : Option Check}
    (harity : source.resolvedType.args.length = target.args.length)
    (hnew : m.underKey source.key (m.servicesFor (closedType target source)) = [])
    (hdepth : ctx.settings.maxSpecializationDepth ≤ m.specializationDepth) :
    specializeFrom ctx check m target source =
      (m, .error (.specializationDepthExceeded (closedType target source)
        ctx.settings.maxSpecializationDepth)) := by
  simp only [specializeFrom, harity, ne_eq, not_true, if_false, hnew,
    if_neg (Nat.not_lt_of_le hdepth)]

theorem specializeFrom_entered {check : Check}
    (harity : source.resolvedType.args.length = target.args.length)
    (hnew : m.underKey source.key (m.servicesFor (closedType target source)) = [])
    (hdepth : m.specializationDepth < ctx.settings.maxSpecializationDepth) :
    specializeFrom ctx (some check) m target source =
      let s := check (m.entered ctx target source) m.size
      (s.1.left, s.2.map fun _ => .selected m.size) := by
  simp only [specializeFrom, harity, ne_eq, not_true, if_false, hnew, if_pos hdepth,
    checkNested_entered]
  rcases check (m.entered ctx target source) m.size with ⟨after, _ | _⟩ <;> rfl

/-- A target that is not served because of a failure: the open registration cannot be found, or it
would be closed to a new type. -/
theorem resolveTarget_error {check : Option Check} {key : Option String} {requireNonEmpty : Bool}
    (h : resolveTarget ctx check m key target requireNonEmpty = (b, .error fault)) :
    key = none ∧
      ((m.servicesFor target = [] ∧ ctx.settings.collectionElement? target = none ∧
          target.isGeneric ∧ ∃ definition opened,
            ctx.program.genericDefinition target = some definition ∧
            m.underKey none (m.servicesFor definition) = [opened] ∧
            m.registration? (m.follow ctx opened) = none ∧ b = m ∧
            fault = .unissuedId (m.follow ctx opened)) ∨
        ∃ source, m.Opens ctx target source ∧
          m.underKey source.key (m.servicesFor (closedType target source)) = [] ∧
          specializeFrom ctx check m target source = (b, .error fault)) := by
  unfold resolveTarget at h
  split at h
  · next hfree =>
    split at h
    · cases h
    next hkey =>
    refine ⟨Option.not_isSome_iff_eq_none.1 hkey, ?_⟩
    split at h
    · cases h
    next hcollection =>
    split at h
    · next hgeneric =>
      unfold specialize at h
      split at h
      · cases h
      next definition hdefinition =>
      split at h
      · cases h
      · next opened hopened =>
        dsimp only at h
        split at h
        · next source hsource =>
          refine Or.inr ⟨source, ?_⟩
          have hclosing := h
          unfold specializeFrom at h
          dsimp only at h
          split at h
          · cases h
          next harity =>
          split at h
          · split at h <;> cases h
          next hnew =>
          exact ⟨⟨hfree, hcollection, hgeneric, ⟨definition, opened, hdefinition, hopened, hsource⟩,
            Decidable.not_not.1 harity⟩, hnew, hclosing⟩
        · next hnone =>
          cases h
          exact Or.inl ⟨hfree, hcollection, hgeneric, definition, opened, hdefinition, hopened,
            hnone, rfl, rfl⟩
      · cases h
    · cases h
  · cases h

/-- A parameter that cannot be resolved because of a failure fails the check. -/
theorem Comes.check_error (h : c.Comes ctx id m p)
    (htarget : resolveTarget ctx (some (recheck ctx)) m p.key (requested ctx p)
      p.requiresNonEmpty = (b, .error fault)) : c.check ctx id = (b, .error fault) := by
  obtain ⟨r, construction, before, after, resolved, hr, hnamed, hconstruction, hparameters,
    hbefore⟩ := h
  have hp : resolveParameter ctx (some (recheck ctx)) m p = (b, .error fault) := by
    rw [requested] at htarget
    rw [resolveParameter_eq_andThen]
    dsimp only
    rw [htarget, Step.andThen_error]
  rw [check_eq_checkWith, checkWith_eq_andThen, hr]
  simp only [hnamed, Bool.not_true, Bool.false_eq_true, if_false, hconstruction, hparameters]
  rw [resolveParameters_append, hbefore, Step.andThen_ok, resolveParameters_cons, hp]
  rfl

/-- The failure of a nested check is that of the check around it, which counts the specialization
out and leaves everything else as it is. -/
theorem Descends.check_error {start : Container} {nested : RegistrationId}
    (h : c.Descends ctx id count start nested)
    (hfails : start.check ctx nested = (m, .error fault)) :
    c.check ctx id = ({ m with specializationDepth := c.specializationDepth }, .error fault) := by
  induction h generalizing m with
  | outset =>
    have hdepth := (kept_specializationDepth ctx).check c id
    rw [hfails] at hdepth
    rw [hfails, ← hdepth]
  | @enter count start middle nested target source _ hattempts hdepth ih =>
    obtain ⟨p, hp, hkey, htarget⟩ := hattempts.comes
    refine ih (m := m.left) (hp.check_error ?_)
    rw [hkey, htarget, hattempts.opens.resolveTarget_eq,
      specializeFrom_entered hattempts.opens.arity hattempts.new hdepth, recheck, hfails]
    rfl

theorem FailsAt.check_eq (h : c.FailsAt ctx id m fault) : c.check ctx id = (m, .error fault) := by
  cases h with
  | unissued hr => rw [check_eq_checkWith, checkWith_eq_andThen, hr]
  | notNamed hr hnamed =>
    rw [check_eq_checkWith, checkWith_eq_andThen, hr]
    simp [hnamed]
  | unconstructed hr hnamed hconstruction =>
    rw [check_eq_checkWith, checkWith_eq_andThen, hr]
    simp [hnamed, hconstruction]
  | unopened hp hkey hfree hcollection hgeneric hdefinition hopened hnone =>
    refine hp.check_error ?_
    simp [resolveTarget, hkey, hfree, hcollection, hgeneric, specialize, hdefinition, hopened,
      hnone]
  | stopped hattempts hdepth =>
    obtain ⟨p, hp, hkey, htarget⟩ := hattempts.comes
    refine hp.check_error ?_
    rw [hkey, htarget, hattempts.opens.resolveTarget_eq,
      specializeFrom_stopped hattempts.opens.arity hattempts.new hdepth]
  | unresolved hr hnamed hconstruction hparameters hunsatisfied =>
    rw [check_eq_checkWith, checkWith_eq_andThen, hr]
    simp only [hnamed, Bool.not_true, Bool.false_eq_true, if_false, hconstruction]
    rw [hparameters, Step.andThen_ok, conclude]
    simp [hunsatisfied]

/-- A parameter that cannot be resolved fails the check by itself, or because the check of a new
specialization fails. -/
theorem Comes.failsAt_or_nested (h : c.Comes ctx id m p)
    (hp : resolveParameter ctx (some (recheck ctx)) m p = (b, .error fault)) :
    c.FailsAt ctx id b fault ∨ ∃ source after, c.Attempts ctx id m (requested ctx p) source ∧
      m.specializationDepth < ctx.settings.maxSpecializationDepth ∧
      (m.entered ctx (requested ctx p) source).check ctx m.size = (after, .error fault) ∧
      b = after.left := by
  have htarget : resolveTarget ctx (some (recheck ctx)) m p.key (requested ctx p)
      p.requiresNonEmpty = (b, .error fault) := by
    rw [resolveParameter_eq_andThen] at hp
    dsimp only at hp
    rw [requested]
    revert hp
    rcases resolveTarget ctx (some (recheck ctx)) m p.key _ p.requiresNonEmpty with ⟨_, _ | _⟩
    · rw [Step.andThen_error]
      intro hp
      cases hp
      rfl
    · rw [Step.andThen_ok]
      intro hp
      cases hp
  obtain ⟨hkey, ⟨hfree, hcollection, hgeneric, definition, opened, hdefinition, hopened, hnone, rfl,
    rfl⟩ | ⟨source, hopens, hnew, hfrom⟩⟩ := resolveTarget_error htarget
  · exact Or.inl (.unopened h hkey hfree hcollection hgeneric hdefinition hopened hnone)
  have hattempts : c.Attempts ctx id m (requested ctx p) source := ⟨⟨p, h, hkey, rfl⟩, hopens, hnew⟩
  rcases Nat.lt_or_ge m.specializationDepth ctx.settings.maxSpecializationDepth with hdepth | hdepth
  · rw [specializeFrom_entered hopens.arity hnew hdepth, recheck] at hfrom
    rcases hs : (m.entered ctx (requested ctx p) source).check ctx m.size with ⟨after, _ | _⟩
    · rw [hs] at hfrom
      cases hfrom
      exact Or.inr ⟨source, after, hattempts, hdepth, hs, rfl⟩
    · rw [hs] at hfrom
      cases hfrom
  · rw [specializeFrom_stopped hopens.arity hnew hdepth] at hfrom
    cases hfrom
    exact Or.inl (.stopped hattempts hdepth)

theorem failsAt_or_nested_of_check (h : c.check ctx id = (b, .error fault)) :
    c.FailsAt ctx id b fault ∨ ∃ m target source after, c.Attempts ctx id m target source ∧
      m.specializationDepth < ctx.settings.maxSpecializationDepth ∧
      (m.entered ctx target source).check ctx m.size = (after, .error fault) ∧ b = after.left := by
  rw [check_eq_checkWith, checkWith_eq_andThen] at h
  split at h
  · next hr =>
    cases h
    exact Or.inl (.unissued hr)
  next r hr =>
  split at h
  · next hnamed =>
    cases h
    exact Or.inl (.notNamed hr (by simpa using hnamed))
  next hnamed =>
  have hnamed : r.resolvedType.isNamed := by simpa using hnamed
  split at h
  · next hconstruction =>
    cases h
    exact Or.inl (.unconstructed hr hnamed hconstruction)
  · cases h
  next construction hconstruction =>
  rcases hs : resolveParameters ctx (some (recheck ctx)) c construction.parameters with
    ⟨middle, other | parameters⟩
  · rw [hs, Step.andThen_error] at h
    cases h
    obtain ⟨before, p, after, m, resolved, hparameters, hbefore, hp⟩ := resolveParameters_error hs
    have hcomes : c.Comes ctx id m p :=
      ⟨r, construction, before, after, resolved, hr, hnamed, hconstruction, hparameters, hbefore⟩
    refine (hcomes.failsAt_or_nested hp).imp_right ?_
    rintro ⟨source, left, hnested⟩
    exact ⟨m, requested ctx p, source, left, hnested⟩
  · rw [hs, Step.andThen_ok, conclude] at h
    dsimp only at h
    split at h
    · cases h
    · next hunsatisfied =>
      cases h
      refine Or.inl (.unresolved hr hnamed hconstruction hs fun hnone => hunsatisfied ?_)
      rw [hnone]
      rfl

/-- A check fails exactly if it, or a check nested in it, fails by itself. What that one left is
left but for the count of the specializations under way. -/
theorem check_error_iff : c.check ctx id = (b, .error fault) ↔
    ∃ count start nested m, c.Descends ctx id count start nested ∧
      start.FailsAt ctx nested m fault ∧
      b = { m with specializationDepth := c.specializationDepth } := by
  constructor
  · intro h
    induction hroom : c.room ctx using Nat.strongRecOn generalizing c id b with
    | _ levels ih =>
      rcases failsAt_or_nested_of_check h with
        hfails | ⟨m, target, source, after, hattempts, hdepth, hnested, rfl⟩
      · have hdepth := (kept_specializationDepth ctx).check c id
        rw [h] at hdepth
        exact ⟨0, c, id, b, .outset, hfails, by rw [← hdepth]⟩
      · have hentered := entered_specializationDepth m ctx target source
        have hkept := hattempts.depth_eq
        obtain ⟨count, start, nested, failed, hdescends, hfails, rfl⟩ :=
          ih _ (by unfold room at hroom ⊢; omega) hnested rfl
        refine ⟨count + 1, start, nested, failed, hdescends.under hattempts hdepth, hfails, ?_⟩
        rw [left, hentered, hkept]
        rfl
  · rintro ⟨count, start, nested, m, hdescends, hfails, rfl⟩
    exact hdescends.check_error hfails.check_eq

theorem selectConstruction_error {type : TypeExpr} {member : Option Member}
    (h : selectConstruction ctx type member = .error fault) :
    (∃ count, fault = .ambiguousConstructor type count) ∨
      ∃ name, fault = .invalidFactory type name := by
  unfold selectConstruction at h
  split at h
  · split at h
    · cases h
    · cases h
      exact Or.inr ⟨_, rfl⟩
  · unfold usableConstructor at h
    dsimp only at h
    split at h
    · cases h
    · cases h
    · cases h
      exact Or.inl ⟨_, rfl⟩

/-- Only the limit reports that it is exceeded. -/
theorem FailsAt.attempts {type : TypeExpr} {limit : Nat}
    (h : c.FailsAt ctx id m (.specializationDepthExceeded type limit)) :
    limit = ctx.settings.maxSpecializationDepth ∧ limit ≤ m.specializationDepth ∧
      ∃ target source, c.Attempts ctx id m target source ∧ type = closedType target source := by
  generalize hfault : Fault.specializationDepthExceeded type limit = fault at h
  cases h with
  | unissued _ => cases hfault
  | notNamed _ _ => cases hfault
  | unconstructed _ _ hconstruction =>
    obtain ⟨count, hother⟩ | ⟨name, hother⟩ := selectConstruction_error hconstruction
    · cases hfault.trans hother
    · cases hfault.trans hother
  | unopened _ _ _ _ _ _ _ _ => cases hfault
  | stopped hattempts hdepth =>
    cases hfault
    exact ⟨rfl, hdepth, _, _, hattempts, rfl⟩
  | unresolved _ _ _ _ _ => cases hfault

/-- A check ends, whatever its constructors ask for. Unrolled once more than the limit leaves room,
it does not depend on what comes then; no more specializations are ever checked inside one another;
with that many under way, an attempt at a further one fails the check with the limit and the type
that was attempted, and the container stays as it was before the attempt; and no other failure reads
like that one. However the check ends, as many specializations are under way as before. -/
theorem nesting_ends (ctx : Context) (c : Container) (id : RegistrationId) :
    (∀ (last : Check) (count : Nat), c.room ctx < count →
        (fun check => checkWith ctx (some check))^[count] last c id = c.check ctx id) ∧
      (∀ count start nested, c.Descends ctx id count start nested → count ≤ c.room ctx) ∧
      (∀ start nested m target source, c.Descends ctx id (c.room ctx) start nested →
        start.Attempts ctx nested m target source →
        c.check ctx id = ({ m with specializationDepth := c.specializationDepth },
          .error (.specializationDepthExceeded (closedType target source)
            ctx.settings.maxSpecializationDepth))) ∧
      (∀ type limit, (c.check ctx id).2 = .error (.specializationDepthExceeded type limit) →
        limit = ctx.settings.maxSpecializationDepth ∧
          ∃ start nested m target source, c.Descends ctx id (c.room ctx) start nested ∧
            start.Attempts ctx nested m target source ∧ type = closedType target source) ∧
      (c.check ctx id).1.specializationDepth = c.specializationDepth := by
  refine ⟨fun last count hcount => iterate_checkWith last hcount id,
    fun count start nested hdescends => hdescends.count_le, ?_, ?_,
    (kept_specializationDepth ctx).check c id⟩
  · intro start nested m target source hdescends hattempts
    have hdepth : ctx.settings.maxSpecializationDepth ≤ m.specializationDepth := by
      rw [hattempts.depth_eq, hdescends.depth_eq, room]
      omega
    exact check_error_iff.2 ⟨_, _, _, _, hdescends, .stopped hattempts hdepth, rfl⟩
  · intro type limit hstopped
    rcases hs : c.check ctx id with ⟨b, result⟩
    rw [hs] at hstopped
    subst hstopped
    obtain ⟨count, start, nested, m, hdescends, hfails, -⟩ := check_error_iff.1 hs
    obtain ⟨rfl, hdepth, target, source, hattempts, htype⟩ := hfails.attempts
    refine ⟨rfl, start, nested, m, target, source, ?_, hattempts, htype⟩
    have hle := hdescends.count_le
    rw [hattempts.depth_eq, hdescends.depth_eq] at hdepth
    have hcount : count = c.room ctx := by
      unfold room at hle ⊢
      omega
    rwa [← hcount]

namespace Crates

def item : TypeExpr := ⟨.classType, "app::Item", [], false⟩
def warehouse : TypeExpr := ⟨.classType, "app::Warehouse", [], false⟩
def entity : TypeExpr := ⟨.parameter, "T", [], false⟩

def crate (stored : TypeExpr) : TypeExpr := ⟨.classType, "app::Crate", [stored], false⟩

/-- Each crate comes in a crate of crates. -/
def catalog : Catalog := .ofDefinitions [
  .built (crate entity) [⟨"outer", crate (crate entity), [], none⟩],
  .built warehouse [⟨"crate", crate item, [], none⟩]]

def context : Context :=
  { program := catalog.program, settings := { maxSpecializationDepth := 2 } }

def registered : Container := empty.addAll context [
  { type := crate entity, lifetime := .singleton }, { type := warehouse, lifetime := .singleton }]

end Crates

/-- Two crates are registered for the warehouse, one checked inside the other; the third is not. -/
theorem crates_stopped :
    (Crates.registered.check Crates.context 1).2 = .error (.specializationDepthExceeded
        (Crates.crate (Crates.crate (Crates.crate Crates.item))) 2) ∧
      ((Crates.registered.check Crates.context 1).1.registrations.drop 2).map (·.type) =
        [Crates.crate Crates.item, Crates.crate (Crates.crate Crates.item)] ∧
      ∃ start nested m target source, Crates.registered.Descends Crates.context 1 2 start nested ∧
        start.Attempts Crates.context nested m target source ∧
        Crates.registered.check Crates.context 1 = ({ m with specializationDepth := 0 },
          .error (.specializationDepthExceeded (closedType target source) 2)) := by
  have hfails : (Crates.registered.check Crates.context 1).2 = .error (.specializationDepthExceeded
      (Crates.crate (Crates.crate (Crates.crate Crates.item))) 2) := by decide +kernel
  obtain ⟨-, -, hstops, hstopped, -⟩ := nesting_ends Crates.context Crates.registered 1
  obtain ⟨-, start, nested, m, target, source, hdescends, hattempts, -⟩ := hstopped _ _ hfails
  exact ⟨hfails, by decide +kernel, start, nested, m, target, source, hdescends, hattempts,
    hstops start nested m target source hdescends hattempts⟩

end Wiring.Container
