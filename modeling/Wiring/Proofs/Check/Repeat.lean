import Wiring.Catalog.Basic
import Wiring.Proofs.Check.Fallback
import Wiring.Proofs.Check.Frame
import Wiring.Proofs.Check.Keyed
import Wiring.Proofs.Check.Register

/-!
Checking the same registration again. What resolves a parameter reads the registrations and the
collections, not the resolutions, so a check that registered nothing comes to the same when it is
repeated. One that did may have changed what its own requests find: the second check is the look-up
of all of them in the container that the first one left.
-/

namespace Wiring.Container

open Forecast (requested)

variable {ctx : Context} {a b c : Container} {levels levels' : Nat}

/-- What requests are resolved from: all but the resolutions and the events. -/
def core (c : Container) : Container :=
  { c with resolutions := [], resolutionIndex := [], journal := [] }

/-- What does not read the resolutions or the events is the same where the rest is. -/
theorem view_eq {β : Type} (view : Container → β) (hview : ∀ c, view c.core = view c)
    (h : a.core = b.core) : view a = view b := by rw [← hview a, h, hview]

/-- The second container is the first with other events on record. -/
def Still (a b : Container) : Prop := b = { a with journal := b.journal }

theorem Still.refl (c : Container) : Still c c := rfl

theorem Still.trans (hab : Still a b) (hbc : Still b c) : Still a c := by
  rw [Still, hbc, hab]

theorem Still.size (h : Still a b) : b.size = a.size := by rw [h]; rfl

theorem still_note (c : Container) (event : Event) : Still c (c.note event) := rfl

theorem Still.core (h : Still a b) : b.core = a.core := by
  rw [h]
  rfl

theorem still_askFallback (ctx : Context) (c : Container) (key : Option String)
    (target : TypeExpr) (outcome : Outcome) :
    Still c (askFallback ctx c key target outcome).1 := by
  unfold askFallback
  split
  · split
    · exact .refl c
    · exact still_note c _
  · exact .refl c

/-- The two steps, from `a` and from `b`, register nothing and come to the same. -/
structure Echoes {α : Type} (a b : Container) (s t : Step α) : Prop where
  first : Still a s.1
  second : Still b t.1
  result : t.2 = s.2

theorem echoes_refl {α : Type} (a b : Container) (result : Except Fault α) :
    Echoes a b (a, result) (b, result) := ⟨.refl a, .refl b, rfl⟩

/-- A nested check comes after a registration. -/
theorem lt_size_checkNested (c : Container) (ctx : Context) (target : TypeExpr)
    (source : Registration) (n : Nat) : c.size < (checkNested (checkWithin ctx n)
      (c.addSpecialization ctx (closedOver target source)) c.size).1.size := by
  rw [checkNested_entered]
  have hadded : c.size < (c.entered ctx target source).size :=
    lt_of_register (register_addSpecialization_self c ctx (closedOver target source))
  exact Nat.lt_of_lt_of_le hadded
    ((keeps_records ctx).checkWithin n (c.entered ctx target source) c.size).size_le

section Steps

variable {target : TypeExpr}

/-- A step that registers nothing does the same elsewhere. Where it fails, it may be for want of
levels, which therefore have to be the same. -/
theorem specializeFrom_echoes (hcore : a.core = b.core) {source : Registration}
    (hsize : (specializeFrom ctx (inner ctx levels) a target source).1.size = a.size)
    (hlevels : levels' = levels ∨ (specializeFrom ctx (inner ctx levels) a target source).passes) :
    Echoes a b (specializeFrom ctx (inner ctx levels) a target source)
      (specializeFrom ctx (inner ctx levels') b target source) := by
  have hunder : a.underKey source.key (a.servicesFor (closedType target source)) =
      b.underKey source.key (b.servicesFor (closedType target source)) :=
    view_eq (fun c => c.underKey source.key (c.servicesFor (closedType target source)))
      (fun _ => rfl) hcore
  have hdepth : a.specializationDepth = b.specializationDepth :=
    view_eq (·.specializationDepth) (fun _ => rfl) hcore
  unfold specializeFrom at hsize hlevels ⊢
  dsimp only at hsize hlevels ⊢
  rw [← hunder, ← hdepth]
  by_cases harity : source.resolvedType.args.length ≠ target.args.length
  · rw [if_pos harity, if_pos harity]
    exact ⟨still_note a _, still_note b _, rfl⟩
  simp only [if_neg harity] at hsize hlevels ⊢
  cases hold : a.underKey source.key (a.servicesFor (closedType target source)) with
  | cons existing rest =>
    simp only [hold] at hsize ⊢
    by_cases hsame : (closedType target source).same target
    · simp only [if_pos hsame]
      exact echoes_refl a b _
    · rw [if_neg hsame, size_add] at hsize
      omega
  | nil =>
    simp only [hold] at hsize hlevels ⊢
    cases hnested : (if a.specializationDepth < ctx.settings.maxSpecializationDepth then
        inner ctx levels else none) with
    | none =>
      simp only [hnested, Step.passes_error, Bool.false_eq_true, or_false] at hlevels
      rw [hlevels, hnested]
      exact echoes_refl a b _
    | some nested =>
      simp only [hnested] at hsize
      split at hnested
      · obtain ⟨n, -, rfl⟩ := inner_eq_some hnested
        have hlt := lt_size_checkNested a ctx target source n
        split at hsize
        all_goals
          next hs =>
            rw [hs] at hlt
            exact absurd hsize (Nat.ne_of_gt hlt)
      · cases hnested

theorem specialize_echoes (hcore : a.core = b.core)
    (hsize : (specialize ctx (inner ctx levels) a target).1.size = a.size)
    (hlevels : levels' = levels ∨ (specialize ctx (inner ctx levels) a target).passes) :
    Echoes a b (specialize ctx (inner ctx levels) a target)
      (specialize ctx (inner ctx levels') b target) := by
  have hopened (definition : TypeExpr) : a.underKey none (a.servicesFor definition) =
      b.underKey none (b.servicesFor definition) :=
    view_eq (fun c => c.underKey none (c.servicesFor definition)) (fun _ => rfl) hcore
  have hsource (id : RegistrationId) :
      a.registration? (a.follow ctx id) = b.registration? (b.follow ctx id) :=
    view_eq (fun c => c.registration? (c.follow ctx id)) (fun _ => rfl) hcore
  have hfollow (id : RegistrationId) : a.follow ctx id = b.follow ctx id :=
    view_eq (·.follow ctx id) (fun _ => rfl) hcore
  unfold specialize at hsize hlevels ⊢
  cases hdefinition : ctx.program.genericDefinition target with
  | none => exact echoes_refl a b _
  | some definition =>
    simp only [hdefinition] at hsize hlevels ⊢
    rw [← hopened]
    match hids : a.underKey none (a.servicesFor definition) with
    | [] => exact echoes_refl a b _
    | [opened] =>
      simp only [hids] at hsize hlevels ⊢
      rw [← hsource, ← hfollow]
      cases hr : a.registration? (a.follow ctx opened) with
      | none => exact echoes_refl a b _
      | some source =>
        simp only [hr] at hsize hlevels ⊢
        exact specializeFrom_echoes hcore hsize hlevels
    | first :: second :: rest => exact echoes_refl a b _

theorem selectCollection_echoes (hcore : a.core = b.core) {element : TypeExpr}
    {requireNonEmpty : Bool}
    (hsize : (a.selectCollection ctx element requireNonEmpty).1.size = a.size) :
    Still a (a.selectCollection ctx element requireNonEmpty).1 ∧
      Still b (b.selectCollection ctx element requireNonEmpty).1 ∧
      (b.selectCollection ctx element requireNonEmpty).2 =
        (a.selectCollection ctx element requireNonEmpty).2 := by
  have hfamilies : a.families = b.families := view_eq (·.families) (fun _ => rfl) hcore
  have hempty (id : RegistrationId) : a.isEmptyCollection id = b.isEmptyCollection id :=
    view_eq (·.isEmptyCollection id) (fun _ => rfl) hcore
  have hmembers : a.members ctx element = b.members ctx element :=
    view_eq (·.members ctx element) (fun _ => rfl) hcore
  unfold selectCollection at hsize ⊢
  rw [← hfamilies]
  cases hfamily : a.families.get? element with
  | some family =>
    simp only [hempty]
    split <;> exact ⟨.refl a, .refl b, rfl⟩
  | none =>
    simp only [hfamily, ← hmembers] at hsize ⊢
    split
    · exact ⟨.refl a, .refl b, rfl⟩
    · next hmake =>
      rw [if_neg hmake] at hsize
      have hregister := congrArg List.length (register_addFamily a ctx element
        (a.members ctx element))
      rw [List.length_append, length_register, length_register, hsize] at hregister
      simp [shapesOf] at hregister

theorem resolveTarget_echoes (hcore : a.core = b.core) {key : Option String}
    {requireNonEmpty : Bool}
    (hsize : (resolveTarget ctx (inner ctx levels) a key target requireNonEmpty).1.size = a.size)
    (hlevels : levels' = levels ∨
      (resolveTarget ctx (inner ctx levels) a key target requireNonEmpty).passes) :
    Echoes a b (resolveTarget ctx (inner ctx levels) a key target requireNonEmpty)
      (resolveTarget ctx (inner ctx levels') b key target requireNonEmpty) := by
  have hservices : a.servicesFor target = b.servicesFor target :=
    view_eq (·.servicesFor target) (fun _ => rfl) hcore
  have hselect (ids : List RegistrationId) :
      a.selectAmong ctx key requireNonEmpty ids = b.selectAmong ctx key requireNonEmpty ids :=
    view_eq (·.selectAmong ctx key requireNonEmpty ids) (fun _ => rfl) hcore
  unfold resolveTarget at hsize hlevels ⊢
  rw [← hservices]
  match hids : a.servicesFor target with
  | [] =>
    simp only [hids] at hsize hlevels ⊢
    split
    · exact echoes_refl a b _
    next hkey =>
    simp only [if_neg hkey] at hsize hlevels
    cases helement : ctx.settings.collectionElement? target with
    | some element =>
      simp only [helement] at hsize ⊢
      obtain ⟨hfirst, hsecond, hresult⟩ := selectCollection_echoes hcore hsize
      exact ⟨hfirst, hsecond, congrArg Except.ok hresult⟩
    | none =>
      simp only [helement] at hsize hlevels ⊢
      split
      · next hgeneric =>
        simp only [if_pos hgeneric] at hsize hlevels
        exact specialize_echoes hcore hsize hlevels
      · exact echoes_refl a b _
  | first :: rest =>
    dsimp only
    rw [hselect]
    exact echoes_refl a b _

theorem resolveParameter_echoes (hcore : a.core = b.core) {parameter : Parameter}
    (hsize : (resolveParameter ctx (inner ctx levels) a parameter).1.size = a.size)
    (hlevels : levels' = levels ∨ (resolveParameter ctx (inner ctx levels) a parameter).passes) :
    Echoes a b (resolveParameter ctx (inner ctx levels) a parameter)
      (resolveParameter ctx (inner ctx levels') b parameter) := by
  unfold resolveParameter at hsize hlevels ⊢
  dsimp only at hsize hlevels ⊢
  generalize targetOf ctx (ctx.settings.unwrapNullable parameter.type).1 = target at *
  let s := resolveTarget ctx (inner ctx levels) a parameter.key target parameter.requiresNonEmpty
  let t := resolveTarget ctx (inner ctx levels') b parameter.key target parameter.requiresNonEmpty
  have hecho (hsize : s.1.size = a.size) (hlevels : levels' = levels ∨ s.passes) :
      Echoes a b s t := resolveTarget_echoes hcore hsize hlevels
  rcases hs : resolveTarget ctx (inner ctx levels) a parameter.key target
    parameter.requiresNonEmpty with ⟨after, result⟩
  rcases ht : resolveTarget ctx (inner ctx levels') b parameter.key target
    parameter.requiresNonEmpty with ⟨after', result'⟩
  simp only [s, t, hs, ht] at hecho
  simp only [hs] at hsize hlevels
  cases result with
  | error fault =>
    obtain ⟨hfirst, hsecond, rfl⟩ := hecho hsize hlevels
    exact ⟨hfirst, hsecond, rfl⟩
  | ok outcome =>
    have hasked := still_askFallback ctx after parameter.key target outcome
    have hasked' := still_askFallback ctx after' parameter.key target outcome
    obtain ⟨hfirst, hsecond, rfl⟩ := hecho (hasked.size.symm.trans hsize) hlevels
    refine ⟨hfirst.trans hasked, hsecond.trans hasked', ?_⟩
    simp only [askFallback_snd]

/-- Where resolving all parameters registers nothing, resolving each does not. -/
theorem resolveParameters_echoes (hcore : a.core = b.core) {parameters : List Parameter}
    (hsize : (resolveParameters ctx (inner ctx levels) a parameters).1.size = a.size)
    (hlevels : levels' = levels ∨
      (resolveParameters ctx (inner ctx levels) a parameters).passes) :
    Echoes a b (resolveParameters ctx (inner ctx levels) a parameters)
      (resolveParameters ctx (inner ctx levels') b parameters) := by
  induction parameters generalizing a b with
  | nil => exact echoes_refl a b _
  | cons parameter rest ih =>
    have hgrows (c : Container) (parameters : List Parameter) :
        c.size ≤ (resolveParameters ctx (inner ctx levels) c parameters).1.size :=
      ((keeps_records ctx).resolveParameters (fun n _ => (keeps_records ctx).checkWithin n)
        c parameters).size_le
    have hgrows' : a.size ≤ (resolveParameter ctx (inner ctx levels) a parameter).1.size :=
      ((keeps_records ctx).resolveParameter (fun n _ => (keeps_records ctx).checkWithin n)
        a parameter).size_le
    let s := resolveParameter ctx (inner ctx levels) a parameter
    let t := resolveParameter ctx (inner ctx levels') b parameter
    have hecho (hsize : s.1.size = a.size) (hlevels : levels' = levels ∨ s.passes) :
        Echoes a b s t := resolveParameter_echoes hcore hsize hlevels
    unfold resolveParameters at hsize hlevels ⊢
    rcases hs : resolveParameter ctx (inner ctx levels) a parameter with ⟨middle, result⟩
    rcases ht : resolveParameter ctx (inner ctx levels') b parameter with ⟨middle', result'⟩
    simp only [s, t, hs, ht] at hecho
    simp only [hs] at hsize hlevels hgrows'
    cases result with
    | error fault =>
      obtain ⟨hfirst, hsecond, rfl⟩ := hecho hsize hlevels
      exact ⟨hfirst, hsecond, rfl⟩
    | ok p =>
      have hrest := hgrows middle rest
      have hthen (hcore : middle.core = middle'.core)
          (hsize : (resolveParameters ctx (inner ctx levels) middle rest).1.size = middle.size)
          (hlevels : levels' = levels ∨
            (resolveParameters ctx (inner ctx levels) middle rest).passes) := ih hcore hsize hlevels
      rcases hs' : resolveParameters ctx (inner ctx levels) middle rest with ⟨after, others⟩
      rcases ht' : resolveParameters ctx (inner ctx levels') middle' rest with ⟨after', others'⟩
      simp only [hs', ht'] at hsize hlevels hrest hthen ⊢
      have hsizes : middle.size = a.size ∧ after.size = middle.size := by
        cases others <;> simp only at hsize <;> omega
      obtain ⟨hfirst, hsecond, rfl⟩ := hecho hsizes.1 (Or.inr rfl)
      have hcore : middle.core = middle'.core := by rw [hfirst.core, hsecond.core, hcore]
      cases others with
      | error fault =>
        obtain ⟨hfirst', hsecond', rfl⟩ := hthen hcore hsizes.2 hlevels
        simp only [ht']
        exact ⟨hfirst.trans hfirst', hsecond.trans hsecond', rfl⟩
      | ok ps =>
        obtain ⟨hfirst', hsecond', rfl⟩ := hthen hcore hsizes.2 (Or.inr rfl)
        simp only [ht']
        exact ⟨hfirst.trans hfirst', hsecond.trans hsecond', rfl⟩

end Steps

theorem core_conclude (c : Container) (id : RegistrationId) (resolution : Resolution) :
    (conclude ctx c id resolution).1.core = c.core := by
  rw [conclude_fst]
  unfold store
  split <;> rfl

/-- A check that registers nothing stops elsewhere where it stops here, or concludes with the
same. -/
theorem checkWithin_echoes (hcore : a.core = b.core) {id : RegistrationId}
    (hsize : (checkWithin ctx levels a id).1.size = a.size) :
    Echoes a b (checkWithin ctx levels a id) (checkWithin ctx levels b id) ∨
      ∃ resolution after after', Still a after ∧ Still b after' ∧
        checkWithin ctx levels a id = conclude ctx after id resolution ∧
        checkWithin ctx levels b id = conclude ctx after' id resolution := by
  have hregistration : a.registration? id = b.registration? id :=
    view_eq (·.registration? id) (fun _ => rfl) hcore
  simp only [checkWithin_eq] at hsize ⊢
  unfold checkWith at hsize ⊢
  rw [← hregistration]
  cases hr : a.registration? id with
  | none => exact Or.inl (echoes_refl a b _)
  | some r =>
    simp only [hr] at hsize ⊢
    by_cases hnamed : r.resolvedType.isNamed
    · simp only [hnamed, Bool.not_true, Bool.false_eq_true, if_false] at hsize ⊢
      match hconstruction : selectConstruction ctx r.resolvedType r.member with
      | .error fault => exact Or.inl (echoes_refl a b _)
      | .ok none => exact Or.inl (echoes_refl a b _)
      | .ok (some construction) =>
        simp only [hconstruction] at hsize ⊢
        have hecho
            (hsize : (resolveParameters ctx (inner ctx levels) a construction.parameters).1.size =
              a.size) := resolveParameters_echoes hcore hsize (Or.inl (Eq.refl levels))
        rcases hs : resolveParameters ctx (inner ctx levels) a construction.parameters with
          ⟨after, result⟩
        rcases ht : resolveParameters ctx (inner ctx levels) b construction.parameters with
          ⟨after', result'⟩
        simp only [hs, ht] at hsize hecho ⊢
        cases result with
        | error fault =>
          obtain ⟨hfirst, hsecond, rfl⟩ := hecho hsize
          exact Or.inl ⟨hfirst, hsecond, rfl⟩
        | ok parameters =>
          simp only [size_conclude] at hsize
          obtain ⟨hfirst, hsecond, rfl⟩ := hecho hsize
          exact Or.inr ⟨_, after, after', hfirst, hsecond, rfl, rfl⟩
    · simp only [hnamed, Bool.not_false, if_true]
      exact Or.inl (echoes_refl a b _)

/-- What a resolution of the type takes for each parameter. -/
def selections (c : Container) (type : TypeExpr) :
    Option (List (Parameter × Option RegistrationId)) :=
  (c.resolution? type).map fun resolution =>
    resolution.parameters.map fun p => (p.parameter, p.outcome.selected?)

/-- Checked again at once, the registration passes if it did, and then takes what it took. -/
def Repeats (ctx : Context) (c : Container) (id : RegistrationId) : Prop :=
  let first := c.check ctx id
  let second := first.1.check ctx id
  second.passes = first.passes ∧ (first.passes → ∀ r, c.registration? id = some r →
    second.1.selections r.resolvedType = first.1.selections r.resolvedType)

/-- The parameter is resolved so without anything being registered for it. -/
def Recalls (ctx : Context) (c : Container) (parameter : Parameter) (p : ParameterResolution) :
    Prop :=
  (resolveParameter ctx none c parameter).2 = .ok p ∧
    (resolveParameter ctx none c parameter).1.size = c.size

theorem Still.resolution? (h : Still a b) (type : TypeExpr) :
    b.resolution? type = a.resolution? type := by rw [h]; rfl

theorem Still.indexed (h : Still a b) (ha : a.Indexed) : b.Indexed := by
  rw [h]
  exact ha

theorem core_checkWithin {id : RegistrationId}
    (hsize : (checkWithin ctx levels c id).1.size = c.size) :
    (checkWithin ctx levels c id).1.core = c.core := by
  rcases checkWithin_echoes (Eq.refl c.core) hsize with
    hecho | ⟨resolution, after, -, hstill, -, hconclude, -⟩
  · exact hecho.first.core
  · rw [hconclude, core_conclude, hstill.core]

/-- A check that registers nothing repeats. -/
theorem repeats_of_size (hc : c.Indexed) {id : RegistrationId}
    (hsize : (c.check ctx id).1.size = c.size) : Repeats ctx c id := by
  have hindexed : (c.check ctx id).1.Indexed := (kept_indexed ctx).check c id hc
  have hcore : (c.check ctx id).1.core = c.core := core_checkWithin hsize
  have hagain : (c.check ctx id).1.check ctx id = checkWithin ctx
      (ctx.settings.maxSpecializationDepth - c.specializationDepth) (c.check ctx id).1 id := by
    have hdepth := (kept_specializationDepth ctx).check c id
    rw [check, hdepth]
  unfold Repeats selections
  dsimp only
  rw [hagain]
  rcases checkWithin_echoes hcore.symm hsize with
    ⟨-, hstill, hresult⟩ | ⟨resolution, after, after', hstill, hstill', hfirst, hsecond⟩
  · refine ⟨by rw [Step.passes, hresult]; rfl, fun _ r _ => ?_⟩
    rw [hstill.resolution?]
  · refine ⟨?_, fun _ r _ => ?_⟩
    · rw [hsecond, conclude_passes, check, hfirst, conclude_passes]
    · have hstored (type : TypeExpr) : (c.check ctx id).1.resolution? type =
          if resolution.type.same type then some resolution else after.resolution? type := by
        rw [check, hfirst, resolution?_conclude (hstill.indexed hc)]
      rw [hsecond, resolution?_conclude (hstill'.indexed hindexed), hstill'.resolution?, hstored]
      split <;> rfl

theorem Recalls.congr {parameter : Parameter} {p : ParameterResolution}
    (h : a.Recalls ctx parameter p) (hcore : a.core = b.core) : b.Recalls ctx parameter p := by
  obtain ⟨hresult, hsize⟩ := h
  have hecho : Echoes a b (resolveParameter ctx (inner ctx 0) a parameter)
      (resolveParameter ctx (inner ctx 0) b parameter) :=
    resolveParameter_echoes hcore hsize (Or.inl rfl)
  exact ⟨hecho.result.trans hresult, hecho.second.size⟩

/-- What is recalled is resolved so, whatever checks may be nested. -/
theorem resolveParameters_of_recalls (levels : Nat) {parameters : List Parameter}
    {recalled : List ParameterResolution} (h : List.Forall₂ (c.Recalls ctx) parameters recalled) :
    ∃ after, Still c after ∧
      resolveParameters ctx (inner ctx levels) c parameters = (after, .ok recalled) := by
  induction parameters generalizing c recalled with
  | nil =>
    cases h
    exact ⟨c, .refl c, rfl⟩
  | cons parameter rest ih =>
    cases h with
    | @cons _ p _ others hfirst hrest =>
      obtain ⟨hresult, hsize⟩ := hfirst
      have hpasses : (resolveParameter ctx (inner ctx 0) c parameter).passes := by
        change (resolveParameter ctx none c parameter).2.isOk
        rw [hresult]
        rfl
      have hecho : Echoes c c (resolveParameter ctx (inner ctx 0) c parameter)
          (resolveParameter ctx (inner ctx levels) c parameter) :=
        resolveParameter_echoes rfl hsize (Or.inr hpasses)
      have hresult := hecho.result.trans hresult
      unfold resolveParameters
      rcases hs : resolveParameter ctx (inner ctx levels) c parameter with ⟨middle, result⟩
      rw [hs] at hecho hresult
      dsimp only at hresult
      subst hresult
      have hcore : c.core = middle.core := hecho.second.core.symm
      obtain ⟨after, hstill, hothers⟩ := ih (hrest.imp fun _ _ hrecalls => hrecalls.congr hcore)
      simp only [hothers]
      exact ⟨after, hecho.second.trans hstill, rfl⟩

theorem check_of_recalls {id : RegistrationId} {r : Registration} {construction : Construction}
    {recalled : List ParameterResolution} (hr : c.registration? id = some r)
    (hnamed : r.resolvedType.isNamed)
    (hconstruction : selectConstruction ctx r.resolvedType r.member = .ok (some construction))
    (hrecalled : List.Forall₂ (c.Recalls ctx) construction.parameters recalled) :
    ∃ after, Still c after ∧ c.check ctx id =
      conclude ctx after id ⟨r.resolvedType, r.lifetime, construction, recalled⟩ := by
  obtain ⟨after, hstill, hresolved⟩ := resolveParameters_of_recalls
    (ctx.settings.maxSpecializationDepth - c.specializationDepth) hrecalled
  refine ⟨after, hstill, ?_⟩
  rw [check, checkWithin_eq, checkWith, hr]
  simp only [hnamed, hconstruction, hresolved, Bool.not_true, Bool.false_eq_true, if_false]

/-- There is a registration of what the parameter asks for, or nothing that one could be made
from. -/
def OnHand (ctx : Context) (c : Container) (parameter : Parameter) : Prop :=
  c.servicesFor (requested ctx parameter) ≠ [] ∨ parameter.key.isSome ∨
    ctx.settings.collectionElement? (requested ctx parameter) = none ∧
      ((requested ctx parameter).isGeneric → ∀ definition,
        ctx.program.genericDefinition (requested ctx parameter) = some definition →
          c.underKey none (c.servicesFor definition) = [])

/-- What the parameter comes to among the registrations of the type that it asks for. -/
def lookUp (ctx : Context) (c : Container) (parameter : Parameter) : ParameterResolution :=
  concluded ctx parameter (c.selectAmong ctx parameter.key parameter.requiresNonEmpty
    (c.servicesFor (requested ctx parameter)))

theorem OnHand.resolveTarget {parameter : Parameter} (h : c.OnHand ctx parameter)
    (check : Option Check) :
    resolveTarget ctx check c parameter.key (requested ctx parameter) parameter.requiresNonEmpty =
      (c, .ok (c.selectAmong ctx parameter.key parameter.requiresNonEmpty
        (c.servicesFor (requested ctx parameter)))) := by
  by_cases hnone : c.servicesFor (requested ctx parameter) = []
  swap
  · exact resolveTarget_served check _ (Or.inl hnone)
  unfold Container.resolveTarget
  rw [hnone]
  by_cases hkey : parameter.key.isSome
  · exact if_pos hkey
  obtain ⟨hcollection, hopened⟩ := (h.resolve_left (not_not_intro hnone)).resolve_left hkey
  simp only [if_neg hkey, hcollection]
  split
  · next hgeneric =>
    unfold specialize
    cases hdefinition : ctx.program.genericDefinition (requested ctx parameter) with
    | none => rfl
    | some definition =>
      simp only [hopened hgeneric definition hdefinition]
      rfl
  · rfl

theorem OnHand.recalls {parameter : Parameter} (h : c.OnHand ctx parameter) :
    c.Recalls ctx parameter (c.lookUp ctx parameter) := by
  have htarget := h.resolveTarget none
  refine ⟨by rw [resolveParameter_snd, htarget]; rfl, ?_⟩
  rw [requested] at htarget
  unfold resolveParameter
  dsimp only
  rw [htarget]
  exact (still_askFallback ctx c _ _ _).size

/-- The first check is repeated by a second one that comes to these resolutions. -/
def Confirms (ctx : Context) (c : Container) (id : RegistrationId) (type : TypeExpr)
    (recalled : List ParameterResolution) : Prop :=
  if (c.check ctx id).passes then
    recalled.all (·.isSatisfied) ∧ (c.check ctx id).1.selections type =
      some (recalled.map fun p => (p.parameter, p.outcome.selected?))
  else ¬ recalled.all (·.isSatisfied)

/-- A check repeats where the second one finds all that it needs exactly if this confirms it. -/
theorem repeats_iff_confirms (hc : Reachable ctx c) {id : RegistrationId} {r : Registration}
    {construction : Construction} {recalled : List ParameterResolution}
    (hr : c.registration? id = some r) (hnamed : r.resolvedType.isNamed)
    (hconstruction : selectConstruction ctx r.resolvedType r.member = .ok (some construction))
    (hrecalled : List.Forall₂ ((c.check ctx id).1.Recalls ctx) construction.parameters recalled) :
    Repeats ctx c id ↔ Confirms ctx c id r.resolvedType recalled := by
  have hindexed : (c.check ctx id).1.Indexed := (kept_indexed ctx).check c id hc.indexed
  have hgrows : c.Grows (c.check ctx id).1 :=
    ((kept_extends ctx).check c id hc.enumerablesCollect).2
  obtain ⟨r', hr', htype, hmember⟩ := hgrows.registration?_eq_some hr
  rw [← htype] at hnamed hconstruction
  rw [← hmember] at hconstruction
  obtain ⟨after, hstill, hsecond⟩ := check_of_recalls hr' hnamed hconstruction hrecalled
  unfold Repeats Confirms
  dsimp only
  have hpasses : ((c.check ctx id).1.check ctx id).passes = recalled.all (·.isSatisfied) := by
    rw [hsecond, conclude_passes]
  have hselections : ((c.check ctx id).1.check ctx id).1.selections r.resolvedType =
      some (recalled.map fun p => (p.parameter, p.outcome.selected?)) := by
    rw [selections, hsecond, resolution?_conclude (hstill.indexed hindexed), htype,
      if_pos (TypeExpr.same_refl _)]
    rfl
  rw [hpasses]
  cases (c.check ctx id).passes with
  | false => simp
  | true =>
    simp only [true_implies, if_true, hr, Option.some.injEq]
    constructor
    · rintro ⟨hall, hsame⟩
      exact ⟨hall, (hsame r rfl).symm.trans hselections⟩
    · rintro ⟨hall, htaken⟩
      refine ⟨hall, fun other hother => ?_⟩
      rw [← hother, hselections, htaken]

/-- The check of a registration that registers nothing repeats. Where all that is needed is on hand
after the first check, it repeats exactly if what is found then is what was taken, or, if the first
one failed, does not satisfy the parameters either. What is found is told by the container that the
first check left, where each type that is asked for has a registration or could not be given one:
it is what there is among the registrations of these types. -/
theorem check_repeats_iff (hc : Reachable ctx c) (id : RegistrationId) :
    ((c.check ctx id).1.size = c.size → Repeats ctx c id) ∧
      (∀ r construction recalled, c.registration? id = some r → r.resolvedType.isNamed →
        selectConstruction ctx r.resolvedType r.member = .ok (some construction) →
        List.Forall₂ ((c.check ctx id).1.Recalls ctx) construction.parameters recalled →
        (Repeats ctx c id ↔
          if (c.check ctx id).passes then
            recalled.all (·.isSatisfied) ∧ (c.check ctx id).1.selections r.resolvedType =
              some (recalled.map fun p => (p.parameter, p.outcome.selected?))
          else ¬ recalled.all (·.isSatisfied))) ∧
      ∀ r construction, c.registration? id = some r → r.resolvedType.isNamed →
        selectConstruction ctx r.resolvedType r.member = .ok (some construction) →
        (∀ parameter ∈ construction.parameters, (c.check ctx id).1.OnHand ctx parameter) →
        (Repeats ctx c id ↔
          if (c.check ctx id).passes then
            (∀ parameter ∈ construction.parameters,
              ((c.check ctx id).1.lookUp ctx parameter).isSatisfied) ∧
            (c.check ctx id).1.selections r.resolvedType =
              some (construction.parameters.map fun parameter =>
                (parameter, ((c.check ctx id).1.lookUp ctx parameter).outcome.selected?))
          else ∃ parameter ∈ construction.parameters,
            ¬ ((c.check ctx id).1.lookUp ctx parameter).isSatisfied) := by
  refine ⟨repeats_of_size hc.indexed, ?_, fun r construction hr hnamed hconstruction honHand => ?_⟩
  · exact fun r construction recalled hr hnamed hconstruction hrecalled =>
      repeats_iff_confirms hc hr hnamed hconstruction hrecalled
  have hrecalled : List.Forall₂ ((c.check ctx id).1.Recalls ctx) construction.parameters
      (construction.parameters.map ((c.check ctx id).1.lookUp ctx)) :=
    List.forall₂_map_right_iff.2 (List.forall₂_same.2 fun parameter hparameter =>
      (honHand parameter hparameter).recalls)
  rw [repeats_iff_confirms hc hr hnamed hconstruction hrecalled, Confirms, List.all_map,
    List.map_map]
  simp only [List.all_eq_true, Function.comp_apply, not_forall, exists_prop]
  rfl

namespace Audits

def user : TypeExpr := ⟨.classType, "app::User", [], false⟩
def report : TypeExpr := ⟨.classType, "app::Report", [], false⟩
def reader : TypeExpr := ⟨.classType, "app::Reader", [], false⟩
def entity : TypeExpr := ⟨.parameter, "T", [], false⟩

def store (stored : TypeExpr) : TypeExpr := ⟨.interfaceType, "app::Store", [stored], false⟩
def repository (stored : TypeExpr) : TypeExpr := ⟨.classType, "app::Repository", [stored], false⟩
def audit (stored : TypeExpr) : TypeExpr := ⟨.classType, "app::Audit", [stored], false⟩

def users : Parameter := ⟨"users", store user, [], none⟩

/-- An audit is a store as well, but is not declared as one. -/
def catalog : Catalog := .ofDefinitions [
  .built user [],
  .declaring (store entity) [] [],
  { Definition.built (repository entity) [] with bases := [store entity] },
  { Definition.built (audit entity) [] with bases := [store entity] },
  .built report [users, ⟨"audit", audit user, [], none⟩],
  .built reader [users]]

def context : Context := { program := catalog.program }

def registered : Container := empty.addAll context [
  { type := store entity, lifetime := .singleton, implementation := some (repository entity) },
  { type := audit entity, lifetime := .singleton },
  { type := report, lifetime := .singleton },
  { type := reader, lifetime := .singleton }]

theorem reachable : Reachable context registered := Evolves.refl.addAll _

end Audits

/-- The reader got the repository that its check registered, and finds it when it is checked
again. -/
theorem audits_reader_repeats :
    (Audits.registered.check Audits.context 3).1.size = 6 ∧
      Repeats Audits.context Audits.registered 3 := by
  obtain ⟨r, hr, htype⟩ : ∃ r, Audits.registered.registration? 3 = some r ∧
      r.resolvedType = Audits.reader := ⟨_, rfl, rfl⟩
  obtain ⟨construction, hconstruction, hparameters⟩ : ∃ construction,
      selectConstruction Audits.context r.resolvedType r.member = .ok (some construction) ∧
        construction.parameters = [Audits.users] := by
    cases hr
    exact ⟨_, rfl, rfl⟩
  have hrecalls : List.Forall₂
      ((Audits.registered.check Audits.context 3).1.Recalls Audits.context)
      construction.parameters
      [⟨Audits.users, Audits.store Audits.user, false, false, .selected 4⟩] := by
    rw [hparameters]
    exact .cons ⟨by rfl, by decide +kernel⟩ .nil
  refine ⟨by decide +kernel, ((check_repeats_iff Audits.reachable 3).2.1 r construction _ hr
    (by rw [htype]; rfl) hconstruction hrecalls).2 ?_⟩
  rw [htype]
  decide +kernel

/-- The report is checked and passes, and fails at once when it is checked again: the repository and
the audit that its check registered are both stores of users. -/
theorem audits_report_checked_twice :
    Reachable Audits.context Audits.registered ∧
      (Audits.registered.check Audits.context 2).passes = true ∧
      ((Audits.registered.check Audits.context 2).1.check Audits.context 2).passes = false ∧
      ¬ Repeats Audits.context Audits.registered 2 := by
  have hfirst : (Audits.registered.check Audits.context 2).passes = true := by decide +kernel
  have hsecond : ((Audits.registered.check Audits.context 2).1.check Audits.context 2).passes =
      false := by decide +kernel
  refine ⟨Audits.reachable, hfirst, hsecond, ?_⟩
  rintro ⟨hpasses, -⟩
  rw [hfirst, hsecond] at hpasses
  cases hpasses

end Wiring.Container
