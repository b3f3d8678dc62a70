import Wiring.Provider.Basic

/-!
What the declarations of a provider can yield. A service is declared by type or by member, never as
a collection: collections are made on request only.
-/

namespace Wiring

/-- What every step of a fold keeps holds of what the fold comes to. -/
theorem foldlM_invariant {α β : Type} {P : β → Prop} {f : β → α → Except Fault β}
    (hstep : ∀ {b : β} {x : α} {b' : β}, f b x = .ok b' → P b → P b') {xs : List α} {b b' : β}
    (h : xs.foldlM f b = .ok b') (hb : P b) : P b' := by
  induction xs generalizing b with
  | nil =>
    cases h
    exact hb
  | cons x xs ih =>
    rw [List.foldlM_cons] at h
    cases hx : f b x with
    | error _ => rw [hx] at h; cases h
    | ok middle =>
      rw [hx] at h
      exact ih h (hstep hx hb)

namespace Gathering

/-- No service gathered so far is a collection. -/
def Uncollected (gathering : Gathering) : Prop :=
  ∀ service ∈ gathering.services, service.collected = none

theorem Uncollected.push {gathering : Gathering} (h : gathering.Uncollected) {service : Service}
    (hservice : service.collected = none) : (gathering.push service).Uncollected := by
  intro other hother
  rcases List.mem_append.1 hother with hold | hnew
  · exact h other hold
  · rwa [List.mem_singleton.1 hnew]

/-- A declaration adds a service, is refused for its member or its module, enters a module that is
new, or changes nothing. -/
theorem declare_cases (program : Program) (enter : Gathering → TypeExpr → Except Fault Gathering)
    (owner : TypeExpr) (g : Gathering) (declaration : Declaration) :
    (∃ service : Service, service.collected = none ∧
      declare program enter owner g declaration = .ok (g.push service)) ∨
    (∃ name fault, uniqueMember program owner name = .error fault ∧
      declare program enter owner g declaration = .error fault) ∨
    (∃ module, declare program enter owner g declaration = .error (.invalidImport module)) ∨
    (∃ entered module, entered.services = g.services ∧
      declare program enter owner g declaration = enter entered module) ∨
    declare program enter owner g declaration = .ok g := by
  cases declaration with
  | dependency lifetime service implementation key => exact .inl ⟨_, rfl, rfl⟩
  | factory lifetime service key name =>
    unfold declare
    dsimp only
    cases hmember : uniqueMember program owner name with
    | error fault => exact .inr (.inl ⟨name, fault, hmember, rfl⟩)
    | ok member => exact .inl ⟨_, rfl, rfl⟩
  | sharedInstance service key name =>
    unfold declare
    dsimp only
    cases hmember : uniqueMember program owner name with
    | error fault => exact .inr (.inl ⟨name, fault, hmember, rfl⟩)
    | ok member => exact .inl ⟨_, rfl, rfl⟩
  | moduleImport module =>
    unfold declare
    dsimp only
    split
    · exact .inr (.inr (.inl ⟨module, rfl⟩))
    split
    · let entered : Gathering := { g with imported := module :: g.imported }
      exact .inr (.inr (.inr (.inl ⟨entered, module, rfl, rfl⟩)))
    · exact .inr (.inr (.inr (.inr rfl)))

theorem declare_uncollected {program : Program}
    {enter : Gathering → TypeExpr → Except Fault Gathering}
    (henter : ∀ {g : Gathering} {module : TypeExpr} {g' : Gathering},
      enter g module = .ok g' → g.Uncollected → g'.Uncollected)
    {owner : TypeExpr} {declaration : Declaration} {g g' : Gathering}
    (h : declare program enter owner g declaration = .ok g') (hg : g.Uncollected) :
    g'.Uncollected := by
  rcases declare_cases program enter owner g declaration with
    ⟨service, hservice, hpush⟩ | ⟨_, _, -, hrefused⟩ | ⟨_, hrefused⟩ |
    ⟨entered, module, hservices, henters⟩ | hsame
  · obtain rfl := Except.ok.inj (hpush.symm.trans h)
    exact hg.push hservice
  · cases hrefused.symm.trans h
  · cases hrefused.symm.trans h
  · refine henter (henters.symm.trans h) fun service hservice => hg service ?_
    rwa [← hservices]
  · obtain rfl := Except.ok.inj (hsame.symm.trans h)
    exact hg

theorem expand_uncollected {program : Program} {budget : Nat} {owner : TypeExpr}
    {g g' : Gathering} (h : expand program budget g owner = .ok g') (hg : g.Uncollected) :
    g'.Uncollected := by
  induction budget generalizing g g' owner with
  | zero => exact foldlM_invariant (declare_uncollected fun h => by cases h) h hg
  | succ budget ih => exact foldlM_invariant (declare_uncollected ih) h hg

end Gathering

/-- No declared service is a collection. -/
theorem Program.declaredServices_collected {program : Program} {provider : TypeExpr}
    {services : List Service} (h : program.declaredServices provider = .ok services) :
    ∀ service ∈ services, service.collected = none := by
  unfold declaredServices at h
  cases hexpand : Gathering.expand program program.importDepth ⟨[provider], []⟩ provider with
  | error _ => rw [hexpand] at h; cases h
  | ok gathering =>
    rw [hexpand] at h
    cases h
    exact Gathering.expand_uncollected hexpand fun service hservice =>
      absurd hservice List.not_mem_nil

end Wiring
