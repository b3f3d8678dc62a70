import Mathlib.Data.List.Forall2
import Wiring.Proofs.Check.Alike
import Wiring.Proofs.Check.Fallback
import Wiring.Proofs.Check.Record
import Wiring.Proofs.Check.Sequence

/-!
Checks of parameters whose types differ in annotations only. They look up the same and register
what differs in annotations only. But substitution hands the annotations of type arguments on to the
parameters of what is specialized, and there an annotation decides whether a parameter may stay
unsatisfied. So two such checks come to the same unless one of them lets a parameter of a new
specialization pass for an annotation that the other does not have.
-/

namespace Wiring

open TypeExpr

/-- The parameters ask for the same, up to annotations. -/
structure Parameter.Alike (p q : Parameter) : Prop where
  type : p.type.same q.type
  key : p.key = q.key
  requiresNonEmpty : p.requiresNonEmpty = q.requiresNonEmpty
  default : p.default?.isSome = q.default?.isSome

theorem Parameter.Alike.symm {p q : Parameter} (h : p.Alike q) : q.Alike p where
  type := by rw [same_comm]; exact h.type
  key := h.key.symm
  requiresNonEmpty := h.requiresNonEmpty.symm
  default := h.default.symm

theorem Parameter.alike_of_unannotated {p q : Parameter} (h : p.unannotated = q.unannotated) :
    p.Alike q := by
  have hattributes := congrArg Parameter.attributes h
  have hdefault := congrArg Parameter.default? h
  refine ⟨same_iff.2 (congrArg Parameter.type h), ?_, ?_, congrArg Option.isSome hdefault⟩
  · exact congrArg (List.findSome? Parameter.keyOf) hattributes
  · exact congrArg (List.contains · Attribute.nonEmpty) hattributes

namespace ParameterResolution

/-- The parameters came to the same, and only annotations of their types make one nullable and the
other not. -/
structure Tallies (p q : ParameterResolution) : Prop where
  parameter : p.parameter.Alike q.parameter
  outcome : p.outcome = q.outcome
  nullable : p.nullable → q.nullable ∨ p.parameter.type.nullable ∧ ¬ q.parameter.type.nullable

/-- Nothing satisfies the second, and the first has an annotation that excuses it. -/
structure Excused (p q : ParameterResolution) : Prop where
  parameter : p.parameter.Alike q.parameter
  outcome : p.outcome = q.outcome
  annotated : p.parameter.type.nullable
  unannotated : ¬ q.parameter.type.nullable
  unsatisfied : ¬ q.isSatisfied

theorem Tallies.satisfied_or_excused {p q : ParameterResolution} (h : p.Tallies q)
    (hp : p.isSatisfied) : q.isSatisfied ∨ p.Excused q := by
  by_cases hq : q.isSatisfied
  · exact Or.inl hq
  · right
    have hdefault := h.parameter.default
    have hnullable := h.nullable
    unfold isSatisfied isOptional at hp hq
    rw [h.outcome, hdefault] at hp
    simp only [Bool.or_eq_true, not_or] at hp hq
    have hannotated := (hnullable (by tauto)).resolve_left hq.2.1
    refine ⟨h.parameter, h.outcome, hannotated.1, hannotated.2, ?_⟩
    unfold isSatisfied isOptional
    simp only [Bool.or_eq_true, not_or]
    exact hq

theorem satisfied_or_excused {ps qs : List ParameterResolution} (h : List.Forall₂ Tallies ps qs)
    (hps : ps.all (·.isSatisfied)) :
    qs.all (·.isSatisfied) ∨ ∃ pair ∈ ps.zip qs, pair.1.Excused pair.2 := by
  induction h with
  | nil => exact Or.inl rfl
  | cons hpq _ ih =>
    rw [List.all_cons, Bool.and_eq_true] at hps
    rcases hpq.satisfied_or_excused hps.1 with hq | hexcused
    · rcases ih hps.2 with hqs | ⟨pair, hpair, hexcused⟩
      · exact Or.inl (by rw [List.all_cons, hq, hqs]; rfl)
      · exact Or.inr ⟨pair, List.mem_cons_of_mem _ hpair, hexcused⟩
    · exact Or.inr ⟨_, List.mem_cons_self, hexcused⟩

end ParameterResolution

/-- The fallback does not tell types apart by their annotations. -/
def Fallback.IgnoresAnnotations (fallback : Option Fallback) : Prop :=
  ∀ key a b, TypeExpr.same a b → supplies fallback key a = supplies fallback key b

theorem Fallback.ignoresAnnotations_none : IgnoresAnnotations none := fun _ _ _ _ => rfl

/-- A fallback that goes by names does not see annotations. -/
theorem Fallback.ignoresAnnotations_byName (beginnings : List String) :
    IgnoresAnnotations (some (byName beginnings)) := by
  intro key a b h
  simp only [supplies, byName, Option.any_some, name_eq_of_same h]

namespace Container

theorem targetOf_congr (ctx : Context) {type other : TypeExpr} (h : type.same other) :
    (targetOf ctx type).same (targetOf ctx other) := by
  have hinner := ctx.settings.deferredInner?_congr h
  unfold targetOf
  cases hx : ctx.settings.deferredInner? type <;> cases hy : ctx.settings.deferredInner? other <;>
    simp only [hx, hy, Option.map_none, Option.map_some, reduceCtorEq] at hinner
  · exact h
  · exact same_iff.2 (Option.some.inj hinner)

/-- Both checked a registration of this number or a later one, and the first let a parameter of it
pass that the second did not. -/
def Excuses (floor : Nat) (a b : Container) : Prop :=
  ∃ id ps qs, floor ≤ id ∧ (id, ps) ∈ a.checks ∧ (id, qs) ∈ b.checks ∧
    ∃ pair ∈ ps.zip qs, ParameterResolution.Excused pair.1 pair.2

/-- If the first step passes, then so does the second, to a container that is alike, or it fails
where the first had an excuse. -/
def Parallel {α : Type} (floor : Nat) (rel : α → α → Prop) (s t : Step α) : Prop :=
  ∀ a x, s = (a, .ok x) →
    (∃ b y, t = (b, .ok y) ∧ a.Alike b ∧ rel x y) ∨ ∃ b fault, t = (b, .error fault) ∧
      Excuses floor a b

variable {floor : Nat} {a b : Container}

theorem parallel_error {α : Type} {rel : α → α → Prop} {t : Step α} (c : Container)
    (fault : Fault) : Parallel floor rel (c, .error fault) t := by
  intro a x h
  cases h

theorem Alike.parallel_ok {α : Type} {rel : α → α → Prop} {x y : α} (h : a.Alike b)
    (hxy : rel x y) : Parallel floor rel (a, .ok x) (b, .ok y) := by
  intro c z hs
  cases hs
  exact Or.inl ⟨b, y, rfl, h, hxy⟩

theorem Records.checks_prefix {scope : RegistrationId → Prop} (h : Records scope a b) :
    a.checks <+: b.checks := by
  obtain ⟨new, hnew, -⟩ := h.once
  exact ⟨new, hnew.symm⟩

theorem Excuses.grow (h : Excuses floor a b) {after : Container}
    (hchecks : a.checks <+: after.checks) : Excuses floor after b := by
  obtain ⟨id, ps, qs, hid, hps, hqs, hexcused⟩ := h
  exact ⟨id, ps, qs, hid, hchecks.subset hps, hqs, hexcused⟩

/-- An excuse that a step had stays one, as what comes after it only adds checks. -/
theorem Parallel.andThen {α β : Type} {rel : α → α → Prop} {rel' : β → β → Prop} {s t : Step α}
    {next next' : Container → α → Step β} (h : Parallel floor rel s t)
    (hgrows : ∀ a x, s = (a, .ok x) → a.checks <+: (next a x).1.checks)
    (hnext : ∀ a b x y, s = (a, .ok x) → a.Alike b → rel x y →
      Parallel floor rel' (next a x) (next' b y)) :
    Parallel floor rel' (s.andThen next) (t.andThen next') := by
  obtain ⟨a, result⟩ := s
  cases result with
  | error fault => exact parallel_error _ _
  | ok x =>
    rcases h a x rfl with ⟨b, y, rfl, hab, hxy⟩ | ⟨b, fault, rfl, hexcuses⟩
    · exact hnext a b x y rfl hab hxy
    · intro after z hs
      have hgrown := hgrows a x rfl
      rw [Step.andThen_ok] at hs
      rw [hs] at hgrown
      exact Or.inr ⟨b, fault, rfl, hexcuses.grow hgrown⟩

theorem Alike.askFallback (h : a.Alike b) (ctx : Context) (key : Option String)
    (target other : TypeExpr) (outcome : Outcome) :
    (askFallback ctx a key target outcome).1.Alike (askFallback ctx b key other outcome).1 := by
  unfold Container.askFallback
  cases outcome with
  | undeclared =>
    cases ctx.fallback with
    | none => exact h
    | some canProvide => exact h.note _ _
  | selected _ => exact h
  | ambiguous _ => exact h
  | fallback => exact h

variable {ctx : Context}

theorem usableConstructor_alike (hprogram : ctx.program.IgnoresAnnotations) {type other : TypeExpr}
    (h : type.same other) {found : Option Method}
    (hfound : usableConstructor ctx type = .ok found) :
    ∃ found', usableConstructor ctx other = .ok found' ∧
      found.map (·.unannotated) = found'.map (·.unannotated) := by
  have husable (p : Method → Bool) (hp : ∀ method, p (Method.unannotated method) = p method)
      {ms ns : List Method} (hmn : ms.map (·.unannotated) = ns.map (·.unannotated)) :
      (ms.filter p).map (·.unannotated) = (ns.filter p).map (·.unannotated) := by
    have hfilter (ms : List Method) :
        (ms.filter p).map (·.unannotated) = (ms.map (·.unannotated)).filter p := by
      rw [List.filter_map]
      simp only [Function.comp_def, hp]
    rw [hfilter, hfilter, hmn]
  have hpublic := husable (·.isPublic) (fun _ => rfl) (hprogram.constructors h)
  have hexplicit := husable (!·.implicit) (fun _ => rfl) hpublic
  have himplicit := congrArg (List.find? (·.implicit)) hpublic
  rw [List.find?_map, List.find?_map] at himplicit
  unfold usableConstructor at hfound ⊢
  dsimp only at hfound ⊢
  split at hfound
  · next hnone =>
    cases hfound
    rw [hnone] at hexplicit
    rw [List.map_eq_nil_iff.1 hexplicit.symm]
    exact ⟨_, rfl, himplicit⟩
  · next only hone =>
    cases hfound
    rw [hone] at hexplicit
    obtain ⟨only', hone', hsame⟩ := List.map_eq_singleton_iff.1 hexplicit.symm
    rw [hone']
    exact ⟨_, rfl, congrArg some hsame.symm⟩
  · cases hfound

/-- Two registrations that differ in annotations are constructed alike. -/
theorem selectConstruction_alike (hprogram : ctx.program.IgnoresAnnotations)
    {type other : TypeExpr} (h : type.same other) {member member' : Option Member}
    (hmember : member.map (·.unannotated) = member'.map (·.unannotated))
    {found : Option Construction} (hfound : selectConstruction ctx type member = .ok found) :
    ∃ found', selectConstruction ctx other member' = .ok found' ∧
      found.map (·.parameters.map (·.unannotated)) =
        found'.map (·.parameters.map (·.unannotated)) := by
  cases member with
  | none =>
    obtain rfl : member' = none := by simpa using hmember.symm
    unfold selectConstruction at hfound ⊢
    cases hu : usableConstructor ctx type with
    | error _ =>
      rw [hu] at hfound
      cases hfound
    | ok method =>
      rw [hu] at hfound
      cases hfound
      obtain ⟨method', hu', hsame⟩ := usableConstructor_alike hprogram h hu
      rw [hu']
      refine ⟨_, rfl, ?_⟩
      have hparameters := congrArg (Option.map (·.parameters)) hsame
      rw [Option.map_map, Option.map_map] at hparameters ⊢
      exact hparameters
  | some m =>
    obtain ⟨m', rfl, hsame : m'.unannotated = m.unannotated⟩ :=
      Option.map_eq_some_iff.1 hmember.symm
    have hnamed : m.produces.any (·.isNamed) = m'.produces.any (·.isNamed) := by
      have hproduces (member : Member) : member.produces.any (·.isNamed) =
          member.unannotated.produces.any (·.isNamed) := by
        rw [member.produces_unannotated]
        cases member.produces with
        | none => rfl
        | some type => exact isNamed_congr (same_unannotated type)
      rw [hproduces m, ← hsame, ← hproduces m']
    have hparameters : m.parameters.map (·.unannotated) = m'.parameters.map (·.unannotated) := by
      rw [← m.parameters_unannotated, ← hsame, m'.parameters_unannotated]
    unfold selectConstruction at hfound ⊢
    dsimp only at hfound ⊢
    rw [← hnamed]
    split at hfound
    · next hyields =>
      cases hfound
      exact ⟨_, if_pos hyields, congrArg some hparameters⟩
    · cases hfound

theorem selectCollection_alike (hprogram : ctx.program.IgnoresAnnotations) (h : a.Alike b)
    {element other : TypeExpr} (hsame : element.same other) (requireNonEmpty : Bool) :
    (a.selectCollection ctx element requireNonEmpty).1.Alike
        (b.selectCollection ctx other requireNonEmpty).1 ∧
      (a.selectCollection ctx element requireNonEmpty).2 =
        (b.selectCollection ctx other requireNonEmpty).2 := by
  unfold selectCollection
  rw [h.families_same hsame, h.members hsame, h.size_eq]
  split
  · rw [h.isEmptyCollection]
    split <;> exact ⟨h, rfl⟩
  · dsimp only
    split
    · exact ⟨h, rfl⟩
    · exact ⟨h.addFamily hprogram hsame _, rfl⟩

section Nested

variable {levels : Nat} (hprogram : ctx.program.IgnoresAnnotations)
  (ih : ∀ n < levels, ∀ a b id, Alike a b → floor ≤ a.size → floor ≤ id →
    Parallel floor (fun _ _ => True) (checkWithin ctx n a id) (checkWithin ctx n b id))
include hprogram ih

theorem specializeFrom_parallel (h : a.Alike b) (hfloor : floor ≤ a.size)
    {target other : TypeExpr} (hsame : target.same other) {source source' : Registration}
    (hsource : source.toService.unannotated = source'.toService.unannotated) :
    Parallel floor Eq (specializeFrom ctx (inner ctx levels) a target source)
      (specializeFrom ctx (inner ctx levels) b other source') := by
  have hresolved : source.resolvedType.same source'.resolvedType :=
    Service.resolvedType_same hsource
  have hclosed := construct_congr hresolved (args_of_same hsame)
  have hkey : source.key = source'.key := Service.key_eq hsource
  unfold specializeFrom
  dsimp only
  rw [length_args_of_same hresolved, length_args_of_same hsame, h.servicesFor_same hclosed,
    h.underKey, hkey, same_congr _ hsame, congr_same hclosed]
  split
  · exact (h.note _ _).parallel_ok rfl
  split
  · split
    · exact h.parallel_ok rfl
    · exact (h.add hprogram (aliasOf_alike hsame hclosed hsource)).parallel_ok rfl
  rw [← h.specializationDepth, ← h.size_eq]
  by_cases hdepth : a.specializationDepth < ctx.settings.maxSpecializationDepth
  · simp only [if_pos hdepth]
    cases levels with
    | zero => exact parallel_error _ _
    | succ n =>
      simp only [inner, checkNested_entered]
      have hentered : floor ≤ (a.entered ctx target source).size :=
        Nat.le_trans hfloor (size_le_addSpecialization a ctx _)
      have hinner := ih n (Nat.lt_succ_self n) _ _ a.size (h.entered hprogram hsame hsource)
        hentered hfloor
      cases hs : checkWithin ctx n (a.entered ctx target source) a.size with
      | mk after result =>
      cases result with
      | error fault => exact parallel_error _ _
      | ok _ =>
        rcases hinner after () hs with ⟨after', _, ht, hafter, -⟩ | ⟨after', fault, ht, hexcuses⟩
        · rw [ht]
          exact hafter.left.parallel_ok rfl
        · rw [ht]
          rintro _ _ hs'
          cases hs'
          exact Or.inr ⟨after'.left, fault, rfl, hexcuses⟩
  · simp only [if_neg hdepth]
    exact parallel_error _ _

theorem specialize_parallel (h : a.Alike b) (hfloor : floor ≤ a.size) {target other : TypeExpr}
    (hsame : target.same other) :
    Parallel floor Eq (specialize ctx (inner ctx levels) a target)
      (specialize ctx (inner ctx levels) b other) := by
  unfold specialize
  rw [hprogram.genericDefinition hsame]
  split
  · exact h.parallel_ok rfl
  rw [h.servicesFor, h.underKey]
  split
  · exact h.parallel_ok rfl
  · next opened _ =>
    dsimp only
    rw [h.follow]
    rcases h.registration?_cases (b.follow ctx opened) with ⟨ha, hb⟩ | ⟨r, r', ha, hb, hr⟩
    · rw [ha, hb]
      exact parallel_error _ _
    · rw [ha, hb]
      exact specializeFrom_parallel hprogram ih h hfloor hsame hr
  · exact h.parallel_ok rfl

theorem resolveTarget_parallel (h : a.Alike b) (hfloor : floor ≤ a.size) (key : Option String)
    {target other : TypeExpr} (hsame : target.same other) (requireNonEmpty : Bool) :
    Parallel floor Eq (resolveTarget ctx (inner ctx levels) a key target requireNonEmpty)
      (resolveTarget ctx (inner ctx levels) b key other requireNonEmpty) := by
  unfold resolveTarget
  rw [h.servicesFor_same hsame, isGeneric_congr hsame]
  split
  · split
    · exact h.parallel_ok rfl
    have hcollection := ctx.settings.collectionElement?_congr hsame
    cases hx : ctx.settings.collectionElement? target <;>
      cases hy : ctx.settings.collectionElement? other <;>
      simp only [hx, hy, Option.map_none, Option.map_some, reduceCtorEq] at hcollection
    · dsimp only
      split
      · exact specialize_parallel hprogram ih h hfloor hsame
      · exact h.parallel_ok rfl
    · have helement := same_iff.2 (Option.some.inj hcollection)
      obtain ⟨halike, houtcome⟩ := selectCollection_alike hprogram h helement requireNonEmpty
      exact halike.parallel_ok houtcome
  · exact h.parallel_ok (h.selectAmong key requireNonEmpty _)

variable (hfallback : Fallback.IgnoresAnnotations ctx.fallback)
include hfallback

theorem resolveParameter_parallel (h : a.Alike b) (hfloor : floor ≤ a.size) {p q : Parameter}
    (hpq : p.Alike q) :
    Parallel floor ParameterResolution.Tallies (resolveParameter ctx (inner ctx levels) a p)
      (resolveParameter ctx (inner ctx levels) b q) := by
  have htype := ctx.settings.unwrapNullable_fst_same hpq.type
  have hsame := targetOf_congr ctx htype
  have htarget := resolveTarget_parallel hprogram ih h hfloor p.key hsame p.requiresNonEmpty
  rw [resolveParameter_eq_andThen, resolveParameter_eq_andThen]
  dsimp only
  rw [← hpq.key, ← hpq.requiresNonEmpty]
  refine htarget.andThen (fun after outcome _ => ?_)
    fun after after' outcome _ _ hafter houtcome => ?_
  case refine_1 =>
    have hasked := (keeps_records ctx).askFallback after p.key
      (targetOf ctx (ctx.settings.unwrapNullable p.type).1) outcome
    exact hasked.checks_prefix
  case refine_2 =>
    subst houtcome
    refine (hafter.askFallback ctx p.key _ _ outcome).parallel_ok ⟨hpq, ?_, ?_⟩
    · dsimp only
      rw [askFallback_snd, askFallback_snd, hfallback p.key _ _ hsame]
    · dsimp only
      rw [Settings.unwrapNullable_snd, Settings.unwrapNullable_snd,
        Settings.isSome_argumentOf?_congr _ hpq.type]
      cases q.type.nullable <;> simp

theorem resolveParameters_parallel (h : a.Alike b) (hfloor : floor ≤ a.size)
    {ps qs : List Parameter} (hpqs : List.Forall₂ Parameter.Alike ps qs) :
    Parallel floor (List.Forall₂ ParameterResolution.Tallies)
      (resolveParameters ctx (inner ctx levels) a ps)
      (resolveParameters ctx (inner ctx levels) b qs) := by
  induction hpqs generalizing a b with
  | nil => exact h.parallel_ok .nil
  | @cons p q ps qs hpq _ ihrest =>
    have hfirst := resolveParameter_parallel hprogram ih hfallback h hfloor hpq
    rw [resolveParameters_cons, resolveParameters_cons]
    refine hfirst.andThen (fun middle _ _ => ?_)
      fun middle middle' first first' hs halike htallies => ?_
    case refine_1 =>
      have hrest : Records (middle.size ≤ ·) middle
          (resolveParameters ctx (inner ctx levels) middle ps).1 :=
        (keeps_records ctx).resolveParameters (fun n _ => (keeps_records ctx).checkWithin n)
          middle ps
      rw [Step.andThen_fst]
      exact hrest.checks_prefix
    case refine_2 =>
      have hrecords : Records (a.size ≤ ·) a (resolveParameter ctx (inner ctx levels) a p).1 :=
        (keeps_records ctx).resolveParameter (fun n _ => (keeps_records ctx).checkWithin n) a p
      rw [hs] at hrecords
      have hrest := ihrest halike (Nat.le_trans hfloor hrecords.size_le)
      refine hrest.andThen (fun _ _ _ => List.prefix_refl _) fun _ _ _ _ _ hlast hothers => ?_
      exact hlast.parallel_ok (.cons htallies hothers)

end Nested

theorem conclude_parallel (h : a.Alike b) {id : RegistrationId} (hid : floor ≤ id)
    {first second : Resolution}
    (htallies : List.Forall₂ ParameterResolution.Tallies first.parameters second.parameters) :
    Parallel floor (fun _ _ => True) (conclude ctx a id first) (conclude ctx b id second) := by
  intro after _ hs
  have hpasses := conclude_passes ctx a id first
  have hafter := conclude_fst ctx a id first
  have hchecks := checks_conclude ctx a id first
  rw [hs] at hpasses hafter hchecks
  have hpasses' := conclude_passes ctx b id second
  have hafter' := conclude_fst ctx b id second
  have hchecks' := checks_conclude ctx b id second
  cases ht : conclude ctx b id second with
  | mk after' result =>
  rw [ht] at hpasses' hafter' hchecks'
  cases result with
  | ok _ =>
    refine Or.inl ⟨after', (), rfl, ?_, trivial⟩
    change after = _ at hafter
    change after' = _ at hafter'
    rw [hafter, hafter']
    exact (h.store first second).note _ _
  | error fault =>
    refine Or.inr ⟨after', fault, rfl, id, first.parameters, second.parameters, hid, ?_, ?_, ?_⟩
    · rw [hchecks]
      exact List.mem_append_right _ List.mem_cons_self
    · rw [hchecks']
      exact List.mem_append_right _ List.mem_cons_self
    · refine (ParameterResolution.satisfied_or_excused htallies hpasses.symm).resolve_left ?_
      rw [← hpasses']
      exact Bool.false_ne_true

theorem forall₂_alike {ps qs : List Parameter}
    (h : ps.map (·.unannotated) = qs.map (·.unannotated)) : List.Forall₂ Parameter.Alike ps qs :=
  (forall₂_of_map_eq h).imp fun _ _ => Parameter.alike_of_unannotated

section Program

variable (hprogram : ctx.program.IgnoresAnnotations)
  (hfallback : Fallback.IgnoresAnnotations ctx.fallback)
include hprogram hfallback

/-- In containers that are alike the checks of a registration run side by side, up to an excuse. -/
theorem checkWithin_parallel (levels : Nat) (h : a.Alike b) (hfloor : floor ≤ a.size)
    {id : RegistrationId} (hid : floor ≤ id) :
    Parallel floor (fun _ _ => True) (checkWithin ctx levels a id)
      (checkWithin ctx levels b id) := by
  induction levels using Nat.strongRecOn generalizing a b id with
  | _ levels ih =>
    rw [checkWithin_eq, checkWith_eq_andThen, checkWith_eq_andThen]
    rcases h.registration?_cases id with ⟨ha, hb⟩ | ⟨r, r', ha, hb, hr⟩
    · rw [ha, hb]
      exact parallel_error _ _
    have hresolved : r.resolvedType.same r'.resolvedType := Service.resolvedType_same hr
    rw [ha, hb]
    dsimp only
    rw [isNamed_congr hresolved]
    split
    · exact parallel_error _ _
    cases hfound : selectConstruction ctx r.resolvedType r.member with
    | error fault => exact parallel_error _ _
    | ok found =>
    have hmember : r.member.map (·.unannotated) = r'.member.map (·.unannotated) :=
      Service.member_alike hr
    obtain ⟨found', hfound', hparameters⟩ :=
      selectConstruction_alike hprogram hresolved hmember hfound
    rw [hfound']
    cases found with
    | none =>
      obtain rfl : found' = none := by simpa using hparameters.symm
      exact h.parallel_ok trivial
    | some construction =>
    obtain ⟨construction', rfl, hsame⟩ := Option.map_eq_some_iff.1 hparameters.symm
    have hresolve := resolveParameters_parallel hprogram
      (fun n hn a b id hab hfloor hid => ih n hn hab hfloor hid) hfallback h hfloor
      (forall₂_alike hsame.symm)
    refine hresolve.andThen (fun middle ps _ => ?_) fun _ _ _ _ _ hmiddle htallies => ?_
    case refine_1 =>
      rw [checks_conclude]
      exact List.prefix_append _ _
    case refine_2 => exact conclude_parallel hmiddle hid htallies

end Program

end Container
end Wiring
