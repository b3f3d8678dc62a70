import Mathlib.Data.List.Forall2
import Wiring.Proofs.Check.Passed

/-!
Checks under two fallbacks. The fallback is asked only where nothing is declared, and its answer
decides no more than whether a parameter that selects nothing is satisfied. So two containers that
differ in such answers only stay so under every check, and a check that passes also passes under a
fallback that supplies more.
-/

namespace Wiring

/-- Without a fallback nothing is supplied. -/
def Fallback.supplies (fallback : Option Fallback) (key : Option String) (type : TypeExpr) : Bool :=
  fallback.any fun canProvide => canProvide key type

/-- What the container itself found. -/
def Outcome.withoutFallback : Outcome → Outcome
  | fallback => undeclared
  | selected id => selected id
  | undeclared => undeclared
  | ambiguous ids => ambiguous ids

namespace ParameterResolution

def withoutFallback (p : ParameterResolution) : ParameterResolution :=
  { p with outcome := p.outcome.withoutFallback }

/-- The same but for what a fallback answered, and the second satisfied if the first is. -/
structure Refines (p q : ParameterResolution) : Prop where
  found : p.withoutFallback = q.withoutFallback
  satisfied : p.isSatisfied → q.isSatisfied

theorem selected?_withoutFallback (p : ParameterResolution) :
    p.withoutFallback.outcome.selected? = p.outcome.selected? := by
  cases h : p.outcome <;> simp [withoutFallback, h, Outcome.withoutFallback, Outcome.selected?]

theorem isHard_withoutFallback (p : ParameterResolution) : p.withoutFallback.isHard = p.isHard := by
  unfold isHard
  rw [selected?_withoutFallback]
  rfl

/-- What the parameters select is the same, and that they are satisfied is carried over. -/
theorem found_of_refines {ps qs : List ParameterResolution} (h : List.Forall₂ Refines ps qs) :
    ps.map (·.withoutFallback) = qs.map (·.withoutFallback) ∧
      (ps.all (·.isSatisfied) → qs.all (·.isSatisfied)) := by
  induction h with
  | nil => exact ⟨rfl, id⟩
  | cons hpq _ ih =>
    refine ⟨by simp only [List.map_cons, hpq.found, ih.1], ?_⟩
    simp only [List.all_cons, Bool.and_eq_true]
    exact And.imp hpq.satisfied ih.2

end ParameterResolution

def Resolution.withoutFallback (resolution : Resolution) : Resolution :=
  { resolution with parameters := resolution.parameters.map (·.withoutFallback) }

/-- The same engine over another fallback. -/
def Context.withFallback (ctx : Context) (fallback : Option Fallback) : Context :=
  { ctx with fallback }

namespace Container

/-- The containers differ in answers of fallbacks only. -/
structure Agrees (a b : Container) : Prop where
  registrations : a.registrations = b.registrations
  byType : a.byType = b.byType
  families : a.families = b.families
  resolutions :
    a.resolutions.map (·.withoutFallback) = b.resolutions.map (·.withoutFallback)
  resolutionIndex : a.resolutionIndex = b.resolutionIndex
  specializationDepth : a.specializationDepth = b.specializationDepth

/-- If the first step passes, then so does the second, to a container that agrees. -/
def Matches {α : Type} (rel : α → α → Prop) (s t : Step α) : Prop :=
  ∀ a x, s = (a, .ok x) → ∃ b y, t = (b, .ok y) ∧ a.Agrees b ∧ rel x y

theorem matches_error {α : Type} {rel : α → α → Prop} {t : Step α} (c : Container) (fault : Fault) :
    Matches rel (c, .error fault) t := by
  intro a x h
  cases h

variable {a b : Container}

theorem Agrees.matches_ok {α : Type} {rel : α → α → Prop} {x y : α} (h : a.Agrees b)
    (hxy : rel x y) : Matches rel (a, .ok x) (b, .ok y) := by
  intro c z hs
  cases hs
  exact ⟨b, y, rfl, h, hxy⟩

namespace Agrees

theorem refl (c : Container) : c.Agrees c := ⟨rfl, rfl, rfl, rfl, rfl, rfl⟩

theorem symm (h : a.Agrees b) : b.Agrees a :=
  ⟨h.registrations.symm, h.byType.symm, h.families.symm, h.resolutions.symm,
    h.resolutionIndex.symm, h.specializationDepth.symm⟩

theorem trans {c : Container} (hab : a.Agrees b) (hbc : b.Agrees c) : a.Agrees c :=
  ⟨hab.registrations.trans hbc.registrations, hab.byType.trans hbc.byType,
    hab.families.trans hbc.families, hab.resolutions.trans hbc.resolutions,
    hab.resolutionIndex.trans hbc.resolutionIndex,
    hab.specializationDepth.trans hbc.specializationDepth⟩

/-! What a check looks up. -/

theorem registration? (h : a.Agrees b) (id : RegistrationId) :
    a.registration? id = b.registration? id := by
  unfold Container.registration?
  rw [h.registrations]

theorem size_eq (h : a.Agrees b) : a.size = b.size := congrArg List.length h.registrations

theorem servicesFor (h : a.Agrees b) (type : TypeExpr) :
    a.servicesFor type = b.servicesFor type := by
  unfold Container.servicesFor
  rw [h.byType]

theorem isClosed (h : a.Agrees b) (id : RegistrationId) : a.isClosed id = b.isClosed id := by
  unfold Container.isClosed
  rw [h.registration?]

theorem underKey (h : a.Agrees b) (key : Option String) (ids : List RegistrationId) :
    a.underKey key ids = b.underKey key ids := by
  unfold Container.underKey
  simp only [h.registration?]

theorem follow (h : a.Agrees b) (ctx : Context) (F G : Option Fallback) (id : RegistrationId) :
    a.follow (ctx.withFallback F) id = b.follow (ctx.withFallback G) id := by
  unfold Container.follow familyOf?
  simp only [h.registration?, h.families, h.servicesFor, h.underKey]
  rfl

theorem isEmptyCollection (h : a.Agrees b) (id : RegistrationId) :
    a.isEmptyCollection id = b.isEmptyCollection id := by
  unfold Container.isEmptyCollection
  rw [h.registration?]

theorem members (h : a.Agrees b) (ctx : Context) (F G : Option Fallback) (element : TypeExpr) :
    a.members (ctx.withFallback F) element = b.members (ctx.withFallback G) element := by
  unfold Container.members
  rw [h.servicesFor, funext h.isClosed, funext (h.follow ctx F G)]

theorem selectAmong (h : a.Agrees b) (ctx : Context) (F G : Option Fallback)
    (key : Option String) (requireNonEmpty : Bool) (ids : List RegistrationId) :
    a.selectAmong (ctx.withFallback F) key requireNonEmpty ids =
      b.selectAmong (ctx.withFallback G) key requireNonEmpty ids := by
  unfold Container.selectAmong
  simp only [h.underKey, h.follow ctx F G, h.isEmptyCollection]

/-! What a check changes. -/

theorem note (h : a.Agrees b) (first second : Event) : (a.note first).Agrees (b.note second) :=
  ⟨h.registrations, h.byType, h.families, h.resolutions, h.resolutionIndex, h.specializationDepth⟩

theorem add (h : a.Agrees b) (ctx : Context) (F G : Option Fallback) (service : Service) :
    (a.add (ctx.withFallback F) service).Agrees (b.add (ctx.withFallback G) service) where
  registrations := by
    simp only [registrations_add, registrationOf, h.registrations, h.size_eq, h.servicesFor,
      funext h.isClosed]
    rfl
  byType := by
    change TypeMap.alter _ _ _ = TypeMap.alter _ _ _
    rw [h.byType, h.size_eq]
  families := h.families
  resolutions := h.resolutions
  resolutionIndex := h.resolutionIndex
  specializationDepth := h.specializationDepth

theorem addAll (h : a.Agrees b) (ctx : Context) (F G : Option Fallback) (services : List Service) :
    (a.addAll (ctx.withFallback F) services).Agrees (b.addAll (ctx.withFallback G) services) := by
  induction services generalizing a b with
  | nil => exact h
  | cons service services ih => exact ih (h.add ctx F G service)

theorem addFamily (h : a.Agrees b) (ctx : Context) (F G : Option Fallback) (element : TypeExpr)
    (ids : List RegistrationId) :
    (a.addFamily (ctx.withFallback F) element ids).Agrees
      (b.addFamily (ctx.withFallback G) element ids) := by
  have hadded := h.addAll ctx F G [
    { type := TypeExpr.arrayOf element, lifetime := .transient },
    { type := ctx.settings.readOnlyListOf element, lifetime := .transient,
      implementation := some (TypeExpr.arrayOf element) },
    { type := ctx.settings.readOnlyCollectionOf element, lifetime := .transient,
      implementation := some (TypeExpr.arrayOf element) },
    { type := ctx.settings.enumerableOf element, lifetime := .transient,
      implementation := some (TypeExpr.arrayOf element), collected := some ids }]
  refine ⟨hadded.registrations, hadded.byType, ?_, hadded.resolutions, hadded.resolutionIndex,
    hadded.specializationDepth⟩
  rw [addFamily_families, addFamily_families, h.families, h.size_eq]

theorem enlist (h : a.Agrees b) (element : TypeExpr) (id : RegistrationId) :
    (a.enlist element id).Agrees (b.enlist element id) := by
  have hfamily : a.families.get? element = b.families.get? element := by rw [h.families]
  unfold Container.enlist
  rw [hfamily]
  split
  · exact ⟨by simp only [h.registrations], h.byType, h.families, h.resolutions, h.resolutionIndex,
      h.specializationDepth⟩
  · exact h

theorem addSpecialization (h : a.Agrees b) (ctx : Context) (F G : Option Fallback)
    (template : Service) :
    (a.addSpecialization (ctx.withFallback F) template).Agrees
      (b.addSpecialization (ctx.withFallback G) template) := by
  have hbases {a b : Container} (hab : a.Agrees b) (closed : TypeExpr) (id : RegistrationId)
      (bases : List TypeExpr) :
      (bases.foldl (addBase (ctx.withFallback F) template closed id) a).Agrees
        (bases.foldl (addBase (ctx.withFallback G) template closed id) b) := by
    induction bases generalizing a b with
    | nil => exact hab
    | cons base bases ih => exact ih ((hab.add ctx F G _).enlist base id)
  unfold Container.addSpecialization
  rw [h.size_eq]
  exact (hbases ((h.add ctx F G template).note _ _) _ _ _).enlist _ _

theorem withDepth (h : a.Agrees b) {depth depth' : Nat} (hdepth : depth = depth') :
    Agrees { a with specializationDepth := depth } { b with specializationDepth := depth' } :=
  ⟨h.registrations, h.byType, h.families, h.resolutions, h.resolutionIndex, hdepth⟩

theorem entered (h : a.Agrees b) (ctx : Context) (F G : Option Fallback) (target : TypeExpr)
    (source : Registration) :
    (a.entered (ctx.withFallback F) target source).Agrees
      (b.entered (ctx.withFallback G) target source) := by
  have hadded := h.addSpecialization ctx F G (closedOver target source)
  exact hadded.withDepth (congrArg (· + 1) hadded.specializationDepth)

theorem left (h : a.Agrees b) : a.left.Agrees b.left :=
  h.withDepth (congrArg (· - 1) h.specializationDepth)

theorem store (h : a.Agrees b) {first second : Resolution}
    (hfound : first.withoutFallback = second.withoutFallback) :
    (a.store first).Agrees (b.store second) := by
  have htype : first.withoutFallback.type = second.withoutFallback.type := by rw [hfound]
  change first.type = second.type at htype
  have hlength : a.resolutions.length = b.resolutions.length := by
    simpa using congrArg List.length h.resolutions
  have hindex : a.resolutionIndex.get? first.type = b.resolutionIndex.get? second.type := by
    rw [h.resolutionIndex, htype]
  unfold Container.store
  rw [hindex]
  split
  · refine ⟨h.registrations, h.byType, h.families, ?_, h.resolutionIndex, h.specializationDepth⟩
    simp only [List.map_set, h.resolutions, hfound]
  · refine ⟨h.registrations, h.byType, h.families, ?_, ?_, h.specializationDepth⟩
    · simp only [List.map_append, h.resolutions, List.map_cons, hfound, List.map_nil]
    · simp only [hlength, h.resolutionIndex, htype]

end Agrees

theorem selectCollection_agrees (h : a.Agrees b) (ctx : Context) (F G : Option Fallback)
    (element : TypeExpr) (requireNonEmpty : Bool) :
    (a.selectCollection (ctx.withFallback F) element requireNonEmpty).1.Agrees
        (b.selectCollection (ctx.withFallback G) element requireNonEmpty).1 ∧
      (a.selectCollection (ctx.withFallback F) element requireNonEmpty).2 =
        (b.selectCollection (ctx.withFallback G) element requireNonEmpty).2 := by
  unfold selectCollection
  rw [h.families, h.members ctx F G, h.size_eq]
  split
  · rw [h.isEmptyCollection]
    split <;> exact ⟨h, rfl⟩
  · dsimp only
    split
    · exact ⟨h, rfl⟩
    · exact ⟨h.addFamily ctx F G _ _, rfl⟩

/-- Where a fallback is asked, only the question is put on record. -/
theorem agrees_asked (ctx : Context) (c : Container) (key : Option String) (target : TypeExpr)
    (outcome : Outcome) : c.Agrees (askFallback ctx c key target outcome).1 := by
  unfold askFallback
  split
  · split <;> exact ⟨rfl, rfl, rfl, rfl, rfl, rfl⟩
  · exact Agrees.refl c

section TwoFallbacks

variable {ctx : Context} {F G : Option Fallback}
  (hFG : ∀ key type, Fallback.supplies F key type → Fallback.supplies G key type)

theorem agrees_askFallback (h : a.Agrees b) (key : Option String) (target : TypeExpr)
    (outcome : Outcome) :
    (askFallback (ctx.withFallback F) a key target outcome).1.Agrees
      (askFallback (ctx.withFallback G) b key target outcome).1 :=
  ((agrees_asked _ a key target outcome).symm.trans h).trans (agrees_asked _ b key target outcome)

theorem askFallback_snd (ctx : Context) (c : Container) (key : Option String) (target : TypeExpr)
    (outcome : Outcome) :
    (askFallback ctx c key target outcome).2 =
      if outcome = .undeclared ∧ Fallback.supplies ctx.fallback key target then .fallback
      else outcome := by
  cases outcome with
  | undeclared =>
    unfold askFallback Fallback.supplies
    cases ctx.fallback with
    | none => simp
    | some canProvide => simp
  | selected id => simp [askFallback]
  | ambiguous ids => simp [askFallback]
  | fallback => simp [askFallback]

include hFG in
/-- A fallback that supplies more satisfies more, and decides nothing else. -/
theorem askFallback_refines (key : Option String) (target type : TypeExpr) (parameter : Parameter)
    (nullable deferred : Bool) (outcome : Outcome) :
    ParameterResolution.Refines
      ⟨parameter, type, nullable, deferred,
        (askFallback (ctx.withFallback F) a key target outcome).2⟩
      ⟨parameter, type, nullable, deferred,
        (askFallback (ctx.withFallback G) b key target outcome).2⟩ := by
  have hF : (ctx.withFallback F).fallback = F := rfl
  have hG : (ctx.withFallback G).fallback = G := rfl
  rw [askFallback_snd, askFallback_snd, hF, hG]
  by_cases hundeclared : outcome = .undeclared
  · subst hundeclared
    have hmore := hFG key target
    by_cases hsF : Fallback.supplies F key target
    · simp only [hsF, hmore hsF, and_self, if_true]
      exact ⟨rfl, id⟩
    · by_cases hsG : Fallback.supplies G key target
      · simp only [hsF, hsG, and_false, and_self, if_true, if_false, Bool.false_eq_true]
        exact ⟨rfl, fun _ => by simp [ParameterResolution.isSatisfied]⟩
      · simp only [hsF, hsG, and_false, if_false, Bool.false_eq_true]
        exact ⟨rfl, id⟩
  · simp only [hundeclared, false_and, if_false]
    exact ⟨rfl, id⟩

section Nested

variable {levels : Nat}
  (ih : ∀ n < levels, ∀ a b id, Agrees a b → Matches (fun _ _ => True)
    (checkWithin (ctx.withFallback F) n a id) (checkWithin (ctx.withFallback G) n b id))
include ih

theorem specializeFrom_matches (h : a.Agrees b) (target : TypeExpr) (source : Registration) :
    Matches Eq
      (specializeFrom (ctx.withFallback F) (inner (ctx.withFallback F) levels) a target source)
      (specializeFrom (ctx.withFallback G) (inner (ctx.withFallback G) levels) b target
        source) := by
  unfold specializeFrom
  dsimp only
  rw [h.servicesFor, h.underKey]
  split
  · exact (h.note _ _).matches_ok rfl
  split
  · split
    · exact h.matches_ok rfl
    · exact (h.add ctx F G _).matches_ok rfl
  have hlimit : (ctx.withFallback G).settings.maxSpecializationDepth =
      (ctx.withFallback F).settings.maxSpecializationDepth := rfl
  rw [← h.specializationDepth, hlimit, ← h.size_eq]
  by_cases hdepth : a.specializationDepth < (ctx.withFallback F).settings.maxSpecializationDepth
  · simp only [if_pos hdepth]
    cases levels with
    | zero => exact matches_error _ _
    | succ n =>
      simp only [inner, checkNested_entered]
      have hinner := ih n (Nat.lt_succ_self n) _ _ a.size (h.entered ctx F G target source)
      cases hs : checkWithin (ctx.withFallback F) n
          (a.entered (ctx.withFallback F) target source) a.size with
      | mk after result =>
      cases result with
      | error fault => exact matches_error _ _
      | ok _ =>
        obtain ⟨after', _, ht, hafter, -⟩ := hinner after () hs
        rw [ht]
        exact hafter.left.matches_ok rfl
  · simp only [if_neg hdepth]
    exact matches_error _ _

theorem specialize_matches (h : a.Agrees b) (target : TypeExpr) :
    Matches Eq
      (specialize (ctx.withFallback F) (inner (ctx.withFallback F) levels) a target)
      (specialize (ctx.withFallback G) (inner (ctx.withFallback G) levels) b target) := by
  unfold specialize
  have hprogram : (ctx.withFallback G).program = (ctx.withFallback F).program := rfl
  rw [hprogram]
  split
  · exact h.matches_ok rfl
  rw [h.servicesFor, h.underKey]
  split
  · exact h.matches_ok rfl
  · dsimp only
    rw [h.follow ctx F G, h.registration?]
    split
    · exact specializeFrom_matches ih h _ _
    · exact matches_error _ _
  · exact h.matches_ok rfl

theorem resolveTarget_matches (h : a.Agrees b) (key : Option String) (target : TypeExpr)
    (requireNonEmpty : Bool) :
    Matches Eq
      (resolveTarget (ctx.withFallback F) (inner (ctx.withFallback F) levels) a key target
        requireNonEmpty)
      (resolveTarget (ctx.withFallback G) (inner (ctx.withFallback G) levels) b key target
        requireNonEmpty) := by
  unfold resolveTarget
  have hsettings : (ctx.withFallback G).settings = (ctx.withFallback F).settings := rfl
  rw [h.servicesFor, hsettings]
  split
  · split
    · exact h.matches_ok rfl
    split
    · next element _ =>
      obtain ⟨hagrees, houtcome⟩ :=
        selectCollection_agrees h ctx F G element requireNonEmpty
      exact hagrees.matches_ok houtcome
    · split
      · exact specialize_matches ih h target
      · exact h.matches_ok rfl
  · exact h.matches_ok (h.selectAmong ctx F G key requireNonEmpty _)

include hFG

theorem resolveParameter_matches (h : a.Agrees b) (parameter : Parameter) :
    Matches ParameterResolution.Refines
      (resolveParameter (ctx.withFallback F) (inner (ctx.withFallback F) levels) a parameter)
      (resolveParameter (ctx.withFallback G) (inner (ctx.withFallback G) levels) b parameter) := by
  unfold resolveParameter
  dsimp only
  have hsettings : (ctx.withFallback G).settings = (ctx.withFallback F).settings := rfl
  have htargetOf : targetOf (ctx.withFallback G) = targetOf (ctx.withFallback F) := rfl
  rw [hsettings, htargetOf]
  have htarget := resolveTarget_matches ih h parameter.key
    (targetOf (ctx.withFallback F) ((ctx.withFallback F).settings.unwrapNullable parameter.type).1)
    parameter.requiresNonEmpty
  split
  · exact matches_error _ _
  next after outcome hs =>
  obtain ⟨after', _, ht, hafter, rfl⟩ := htarget after outcome hs
  rw [ht]
  exact (agrees_askFallback hafter _ _ _).matches_ok (askFallback_refines hFG _ _ _ _ _ _ _)

theorem resolveParameters_matches (h : a.Agrees b) (parameters : List Parameter) :
    Matches (List.Forall₂ ParameterResolution.Refines)
      (resolveParameters (ctx.withFallback F) (inner (ctx.withFallback F) levels) a parameters)
      (resolveParameters (ctx.withFallback G) (inner (ctx.withFallback G) levels) b
        parameters) := by
  induction parameters generalizing a b with
  | nil => exact h.matches_ok .nil
  | cons parameter rest ihrest =>
    unfold resolveParameters
    have hfirst := resolveParameter_matches hFG ih h parameter
    split
    · exact matches_error _ _
    next middle first hs =>
    obtain ⟨middle', first', ht, hmiddle, hrefines⟩ := hfirst middle first hs
    rw [ht]
    have hrest := ihrest hmiddle
    dsimp only
    split
    · exact matches_error _ _
    next last others hs =>
    obtain ⟨last', others', ht, hlast, hothers⟩ := hrest last others hs
    rw [ht]
    exact hlast.matches_ok (.cons hrefines hothers)

end Nested

theorem conclude_matches (h : a.Agrees b) (id : RegistrationId) (type : TypeExpr)
    (lifetime : Lifetime) (construction : Construction) {ps qs : List ParameterResolution}
    (hpq : List.Forall₂ ParameterResolution.Refines ps qs) :
    Matches (fun _ _ => True)
      (conclude (ctx.withFallback F) a id ⟨type, lifetime, construction, ps⟩)
      (conclude (ctx.withFallback G) b id ⟨type, lifetime, construction, qs⟩) := by
  intro after _ hs
  obtain ⟨hfound, hsatisfied⟩ := ParameterResolution.found_of_refines hpq
  have hpasses := conclude_passes (ctx.withFallback F) a id ⟨type, lifetime, construction, ps⟩
  have hfst := conclude_fst (ctx.withFallback F) a id ⟨type, lifetime, construction, ps⟩
  rw [hs] at hpasses hfst
  have hpasses' := conclude_passes (ctx.withFallback G) b id ⟨type, lifetime, construction, qs⟩
  have hfst' := conclude_fst (ctx.withFallback G) b id ⟨type, lifetime, construction, qs⟩
  rw [hsatisfied hpasses.symm] at hpasses'
  cases ht : conclude (ctx.withFallback G) b id ⟨type, lifetime, construction, qs⟩ with
  | mk after' result =>
  rw [ht] at hpasses' hfst'
  cases result with
  | error _ => cases hpasses'
  | ok _ =>
    refine ⟨after', (), rfl, ?_, trivial⟩
    change after = _ at hfst
    change after' = _ at hfst'
    rw [hfst, hfst']
    exact (h.store (by simp only [Resolution.withoutFallback, hfound])).note _ _

include hFG

/-- A check that passes also passes under a fallback that supplies more, with the same result but
for the fallback's answers. -/
theorem checkWithin_matches (levels : Nat) (h : a.Agrees b) (id : RegistrationId) :
    Matches (fun _ _ => True) (checkWithin (ctx.withFallback F) levels a id)
      (checkWithin (ctx.withFallback G) levels b id) := by
  induction levels using Nat.strongRecOn generalizing a b id with
  | _ levels ih =>
    have hconstruction : selectConstruction (ctx.withFallback G) =
        selectConstruction (ctx.withFallback F) := rfl
    rw [checkWithin_eq, checkWithin_eq]
    unfold checkWith
    rw [← h.registration?, hconstruction]
    split
    · exact matches_error _ _
    dsimp only
    split
    · exact matches_error _ _
    split
    · exact matches_error _ _
    · exact h.matches_ok trivial
    next construction _ =>
    have hparameters := resolveParameters_matches hFG
      (fun n hn a b id hab => ih n hn hab id) h construction.parameters
    split
    · exact matches_error _ _
    next middle parameters hs =>
    obtain ⟨middle', parameters', ht, hmiddle, hrefines⟩ := hparameters middle parameters hs
    rw [ht]
    exact conclude_matches hmiddle id _ _ construction hrefines

theorem check_matches (h : a.Agrees b) (id : RegistrationId) :
    Matches (fun _ _ => True) (a.check (ctx.withFallback F) id)
      (b.check (ctx.withFallback G) id) := by
  unfold check
  rw [h.specializationDepth]
  exact checkWithin_matches hFG _ h id

theorem checkEach_matches (h : a.Agrees b) (ids : List RegistrationId) :
    Matches (fun _ _ => True) (checkEach (ctx.withFallback F) a ids)
      (checkEach (ctx.withFallback G) b ids) := by
  induction ids generalizing a b with
  | nil => exact h.matches_ok trivial
  | cons id rest ih =>
    unfold checkEach
    rw [h.isClosed]
    split
    · have hcheck : Matches (fun _ _ => True) (a.check (ctx.withFallback F) id)
          (b.check (ctx.withFallback G) id) := check_matches hFG h id
      split
      · exact matches_error _ _
      next middle hs =>
      obtain ⟨middle', _, ht, hmiddle, -⟩ := hcheck middle () hs
      rw [ht]
      exact ih hmiddle
    · exact ih h

end TwoFallbacks
end Container
end Wiring
