import Wiring.Proofs.Check.Register

/-!
Outcomes. What can be said of how a request comes out, and stays true while the container grows, can
be said of every parameter of every stored resolution.
-/

namespace Wiring.Container

variable {ctx : Context} {a b c : Container}
  {Q : Container → Option String → TypeExpr → Outcome → Prop}

theorem askFallback_fst (ctx : Context) (c : Container) (key : Option String) (target : TypeExpr)
    (outcome : Outcome) :
    (askFallback ctx c key target outcome).1 = c ∨ ∃ event : Event, event.isRemark ∧
      (askFallback ctx c key target outcome).1 = c.note event := by
  unfold askFallback
  split
  · split
    · exact Or.inl rfl
    · exact Or.inr ⟨_, rfl, rfl⟩
  · exact Or.inl rfl

/-- `Q` holds of each request, made under a key for a type, and of how it comes out. -/
structure Justifies (ctx : Context) (Q : Container → Option String → TypeExpr → Outcome → Prop) :
    Prop where
  grow {a b : Container} {key : Option String} {target : TypeExpr} {outcome : Outcome} :
    Q a key target outcome → a.Grows b → Q b key target outcome
  request {levels : Nat} {c b : Container} {key : Option String} {target : TypeExpr}
    {requireNonEmpty : Bool} {outcome : Outcome} : c.Coherent ctx →
    resolveTarget ctx (inner ctx levels) c key target requireNonEmpty = (b, .ok outcome) →
    Q b key target outcome
  fallback {c : Container} {key : Option String} {target : TypeExpr} :
    Q c key target .undeclared → Q c key target .fallback

/-- `Q` holds of every parameter of every stored resolution. -/
def Justified (ctx : Context) (Q : Container → Option String → TypeExpr → Outcome → Prop)
    (c : Container) : Prop :=
  ∀ resolution ∈ c.resolutions, ∀ p ∈ resolution.parameters,
    Q c p.key (targetOf ctx p.type) p.outcome

namespace Justifies

variable (h : Justifies ctx Q)
include h

theorem grow_justified (ha : a.Justified ctx Q) (hgrows : a.Grows b)
    (hresolutions : b.resolutions = a.resolutions) : b.Justified ctx Q := by
  intro resolution hresolution p hp
  rw [hresolutions] at hresolution
  exact h.grow (ha resolution hresolution p hp) hgrows

theorem askFallback {key : Option String} {target : TypeExpr} {outcome : Outcome}
    (hc : Q c key target outcome) :
    Q (askFallback ctx c key target outcome).1 key target
      (askFallback ctx c key target outcome).2 := by
  cases outcome with
  | selected id => exact hc
  | ambiguous ids => exact hc
  | fallback => exact hc
  | undeclared =>
    unfold Container.askFallback
    dsimp only
    split
    · exact hc
    · next canProvide _ =>
      have hnoted := h.grow hc (grows_note c (.fallbackAsked key target (canProvide key target)))
      dsimp only
      split
      · exact h.fallback hnoted
      · exact hnoted

section Nested

variable {levels : Nat}

theorem resolveParameter (hc : c.Coherent ctx) {parameter : Parameter} {p : ParameterResolution}
    (hs : resolveParameter ctx (inner ctx levels) c parameter = (b, .ok p)) :
    Q b p.key (targetOf ctx p.type) p.outcome := by
  unfold Container.resolveParameter at hs
  dsimp only at hs
  split at hs
  · cases hs
  next middle outcome htarget =>
  cases hs
  exact h.askFallback (h.request hc htarget)

theorem resolveParameters (hc : c.Coherent ctx) {parameters : List Parameter}
    {resolved : List ParameterResolution}
    (hs : resolveParameters ctx (inner ctx levels) c parameters = (b, .ok resolved)) :
    ∀ p ∈ resolved, Q b p.key (targetOf ctx p.type) p.outcome := by
  induction parameters generalizing c resolved with
  | nil =>
    cases hs
    exact fun p hp => absurd hp List.not_mem_nil
  | cons parameter rest ih =>
    unfold Container.resolveParameters at hs
    split at hs
    · cases hs
    next middle first hfirst =>
    split at hs
    · cases hs
    next after others hothers =>
    cases hs
    have hsingle : Container.resolveParameters ctx (inner ctx levels) c [parameter] =
        (middle, .ok [first]) := by
      simp [Container.resolveParameters, hfirst]
    have hmiddle : middle.Coherent ctx := (kept_coherent ctx).resolved hsingle hc
    have hgrows := ((kept_extends ctx).resolved hothers hmiddle.collect).2
    intro p hp
    rcases List.mem_cons.1 hp with rfl | hp
    · exact h.grow (h.resolveParameter hc hfirst) hgrows
    · exact ih hmiddle hothers p hp

end Nested

theorem kept : Kept ctx fun _ a b =>
    a.Coherent ctx → b.Coherent ctx ∧ (a.Justified ctx Q → b.Justified ctx Q) where
  refl _ _ hc := ⟨hc, id⟩
  trans hab hbc ha := by
    obtain ⟨hb, hjustified⟩ := hab ha
    obtain ⟨hc, hjustified'⟩ := hbc hb
    exact ⟨hc, hjustified' ∘ hjustified⟩
  remark c _ hremark hc :=
    ⟨(kept_coherent ctx).remark c hremark hc, fun ha => h.grow_justified ha (grows_note c _) rfl⟩
  family hfree helement hnew hc :=
    ⟨(kept_coherent ctx).family hfree helement hnew hc,
      fun ha => h.grow_justified ha (grows_addFamily _ ctx _ hnew) rfl⟩
  redirect hopens hold hother hc :=
    ⟨(kept_coherent ctx).redirect hopens hold hother hc,
      fun ha => h.grow_justified ha (grows_add _ ctx _) rfl⟩
  nested := by
    intro c target source levels s hopens hnew _ _ hchecked hc
    have hmaintained := maintained_coherent ctx
    obtain ⟨hafter, hjustified⟩ := hchecked (hmaintained.entered hopens hnew hc)
    have hgrows := (extends_entered c ctx target source hc.collect).2
    have hleft := (extends_left s.1 hafter.collect).2
    refine ⟨hmaintained.left hafter, fun ha => h.grow_justified (hjustified ?_) hleft rfl⟩
    exact h.grow_justified ha hgrows (entered_resolutions c ctx target source)
  stopped _ _ _ _ hkept := hkept
  conclude := by
    intro a b id r levels construction parameters _ _ hparameters hresolved ha
    obtain ⟨hb, hjustified⟩ := hresolved ha
    have hgrows := (extends_conclude ctx b id
      ⟨r.resolvedType, r.lifetime, construction, parameters⟩ hb.collect).2
    refine ⟨(maintained_coherent ctx).conclude id _ hb, fun hbefore => ?_⟩
    intro resolution hresolution p hp
    refine h.grow ?_ hgrows
    rw [conclude_fst] at hresolution
    rcases mem_resolutions_of_store hresolution with rfl | hold
    · exact h.resolveParameters ha hparameters p hp
    · exact hjustified hbefore resolution hold p hp

theorem reachable (hc : Reachable ctx c) : c.Justified ctx Q := by
  suffices hboth : c.Coherent ctx ∧ c.Justified ctx Q from hboth.2
  refine hc.invariant (P := fun b => b.Coherent ctx ∧ b.Justified ctx Q) ⟨?_, ?_⟩ ?_ ?_
  · exact coherent_empty ctx
  · exact fun resolution hresolution => absurd hresolution List.not_mem_nil
  · rintro b service ⟨hb, hjustified⟩
    exact ⟨hb.add service, h.grow_justified hjustified (grows_add b ctx service) rfl⟩
  · rintro b id ⟨hb, hjustified⟩
    obtain ⟨hafter, hkeeps⟩ := h.kept.check b id hb
    exact ⟨hafter, hkeeps hjustified⟩

end Justifies

end Wiring.Container
