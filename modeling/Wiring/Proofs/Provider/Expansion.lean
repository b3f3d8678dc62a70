import Wiring.Proofs.Catalog.Annotation
import Wiring.Proofs.Provider.Reorder

/-!
How the declarations of a provider are gathered. What becomes of them is laid out as a tree: the
declarations of an owner one after another, with those of a module in the place of the import that
enters it. The tree says nothing of a budget, nor of how many modules there are; where there is one,
gathering follows it to its end or to the first declaration that cannot be taken over, if the budget
allows for its depth. For a catalog there always is one. In a tree that is complete every owner has
its declarations once and in their order.
-/

namespace Wiring

/-- Whose declarations a provider takes over: its own, and those of every module that an owner
imports. -/
inductive Program.Owner (program : Program) (provider : TypeExpr) : TypeExpr → Prop
  | provider : Owner program provider provider
  | imported {owner module : TypeExpr} :
      Owner program provider owner → .moduleImport module ∈ program.declarations owner →
      program.isModule module → Owner program provider module

/-- What becomes of the declarations of an owner: one of its own is taken over, an import enters its
module, or the module was imported before. -/
inductive Expansion where
  | done
  | own (declaration : Declaration) (rest : Expansion)
  | entered (module : TypeExpr) (inside rest : Expansion)
  | known (module : TypeExpr) (rest : Expansion)
  deriving DecidableEq

namespace Expansion

/-- What is imported behind the expansion, where `seen` was before it. -/
def imported : Expansion → List TypeExpr → List TypeExpr
  | done, seen => seen
  | own _ rest, seen => rest.imported seen
  | entered module inside rest, seen => rest.imported (inside.imported (module :: seen))
  | known _ rest, seen => rest.imported seen

/-- How many modules are entered inside one another. -/
def depth : Expansion → Nat
  | done => 0
  | own _ rest => rest.depth
  | entered _ inside rest => max (inside.depth + 1) rest.depth
  | known _ rest => rest.depth

/-- The declarations taken over, in order, each with its owner. -/
def entries : Expansion → TypeExpr → List (TypeExpr × Declaration)
  | done, _ => []
  | own declaration rest, owner => (owner, declaration) :: rest.entries owner
  | entered module inside rest, owner => inside.entries module ++ rest.entries owner
  | known _ rest, owner => rest.entries owner

/-- The declarations of `other` among them, in order. -/
def shareOf (expansion : Expansion) (owner other : TypeExpr) : List Declaration :=
  ((expansion.entries owner).filter (·.1.same other)).map (·.2)

theorem shareOf_own (declaration : Declaration) (rest : Expansion) (owner other : TypeExpr) :
    shareOf (.own declaration rest) owner other =
      (if owner.same other then [declaration] else []) ++ rest.shareOf owner other := by
  rw [shareOf, entries, List.filter_cons]
  split <;> rfl

theorem shareOf_entered (module : TypeExpr) (inside rest : Expansion) (owner other : TypeExpr) :
    shareOf (.entered module inside rest) owner other =
      inside.shareOf module other ++ rest.shareOf owner other := by
  simp only [shareOf, entries, List.filter_append, List.map_append]

theorem subset_imported (expansion : Expansion) (seen : List TypeExpr) :
    seen ⊆ expansion.imported seen := by
  induction expansion generalizing seen with
  | done => exact List.Subset.refl seen
  | own _ rest ih => exact ih seen
  | entered module inside rest ihInside ihRest =>
    exact fun type htype => ihRest _ (ihInside _ (List.mem_cons_of_mem module htype))
  | known _ rest ih => exact ih seen

/-- What is imported stays imported. -/
theorem not_isNew_imported (expansion : Expansion) {seen : List TypeExpr} {type : TypeExpr}
    (h : ¬ TypeExpr.isNew seen type) : ¬ TypeExpr.isNew (expansion.imported seen) type :=
  TypeExpr.not_isNew_of_subset (expansion.subset_imported seen) h

end Expansion

theorem Declaration.exists_of_isImport {declaration : Declaration}
    (h : ¬ declaration.isImport = false) : ∃ module, declaration = .moduleImport module := by
  cases declaration with
  | moduleImport module => exact ⟨module, rfl⟩
  | dependency _ _ _ _ | factory _ _ _ _ | sharedInstance _ _ _ => exact absurd rfl h

namespace Gathering

theorem isImport_of_serviceOf {program : Program} {owner : TypeExpr} {declaration : Declaration}
    {service : Service} (h : serviceOf program owner declaration = .ok service) :
    declaration.isImport = false := by
  cases declaration with
  | moduleImport _ => cases h
  | dependency _ _ _ _ | factory _ _ _ _ | sharedInstance _ _ _ => rfl

/-- The expansion of the declarations of `owner`, where the modules of `seen` are imported already.
It is complete, or stopped by a fault. -/
inductive Follows (program : Program) : List TypeExpr → TypeExpr → List Declaration → Expansion →
    Option Fault → Prop
  | done {seen : List TypeExpr} {owner : TypeExpr} : Follows program seen owner [] .done none
  | own {seen : List TypeExpr} {owner : TypeExpr} {declaration : Declaration} {service : Service}
      {declarations : List Declaration} {rest : Expansion} {stop : Option Fault} :
      serviceOf program owner declaration = .ok service →
      Follows program seen owner declarations rest stop →
      Follows program seen owner (declaration :: declarations) (.own declaration rest) stop
  | entered {seen : List TypeExpr} {owner module : TypeExpr} {declarations : List Declaration}
      {inside rest : Expansion} {stop : Option Fault} :
      program.isModule module → TypeExpr.isNew seen module →
      Follows program (module :: seen) module (program.declarations module) inside none →
      Follows program (inside.imported (module :: seen)) owner declarations rest stop →
      Follows program seen owner (.moduleImport module :: declarations)
        (.entered module inside rest) stop
  | known {seen : List TypeExpr} {owner module : TypeExpr} {declarations : List Declaration}
      {rest : Expansion} {stop : Option Fault} :
      program.isModule module → ¬ TypeExpr.isNew seen module →
      Follows program seen owner declarations rest stop →
      Follows program seen owner (.moduleImport module :: declarations) (.known module rest) stop
  | refused {seen : List TypeExpr} {owner : TypeExpr} {declaration : Declaration} {fault : Fault}
      {declarations : List Declaration} :
      declaration.isImport = false → serviceOf program owner declaration = .error fault →
      Follows program seen owner (declaration :: declarations) .done (some fault)
  | barred {seen : List TypeExpr} {owner module : TypeExpr} {declarations : List Declaration} :
      ¬ program.isModule module →
      Follows program seen owner (.moduleImport module :: declarations) .done
        (some (.invalidImport module))
  | stopped {seen : List TypeExpr} {owner module : TypeExpr} {declarations : List Declaration}
      {inside : Expansion} {fault : Fault} :
      program.isModule module → TypeExpr.isNew seen module →
      Follows program (module :: seen) module (program.declarations module) inside (some fault) →
      Follows program seen owner (.moduleImport module :: declarations)
        (.entered module inside .done) (some fault)

/-- The entry is taken over as the service. -/
def Yields (program : Program) (entry : TypeExpr × Declaration) (service : Service) : Prop :=
  serviceOf program entry.1 entry.2 = .ok service

/-- The result is that of the expansion: its services behind those gathered before, or its fault. -/
def Comes (program : Program) (g : Gathering) (owner : TypeExpr) (expansion : Expansion) :
    Option Fault → Except Fault Gathering → Prop
  | none, result => ∃ services, List.Forall₂ (Yields program) (expansion.entries owner) services ∧
      result = .ok ⟨expansion.imported g.imported, g.services ++ services⟩
  | some fault, result => result = .error fault

/-- What comes behind services that were taken over. -/
theorem Comes.prepend {program : Program} {seen seen' : List TypeExpr} {owner : TypeExpr}
    {rest expansion : Expansion} {stop : Option Fault} {result : Except Fault Gathering}
    {services before : List Service} {entries : List (TypeExpr × Declaration)}
    (h : Comes program ⟨seen', services ++ before⟩ owner rest stop result)
    (hbefore : List.Forall₂ (Yields program) entries before)
    (hentries : expansion.entries owner = entries ++ rest.entries owner)
    (himported : expansion.imported seen = rest.imported seen') :
    Comes program ⟨seen, services⟩ owner expansion stop result := by
  cases stop with
  | some fault => exact h
  | none =>
    obtain ⟨more, hmore, hresult⟩ := h
    refine ⟨before ++ more, hentries ▸ List.rel_append hbefore hmore, ?_⟩
    rw [hresult, himported, List.append_assoc]

/-! Gathering follows an expansion. -/

/-- How an import is taken over within a budget. -/
def enter (program : Program) : Nat → Gathering → TypeExpr → Except Fault Gathering
  | 0 => fun _ module => .error (.invalidImport module)
  | budget + 1 => expand program budget

theorem expand_eq (program : Program) (budget : Nat) (g : Gathering) (owner : TypeExpr) :
    expand program budget g owner =
      (program.declarations owner).foldlM (declare program (enter program budget) owner) g := by
  cases budget <;> rfl

section Declare

variable {program : Program} {within : Gathering → TypeExpr → Except Fault Gathering}
  {g : Gathering} {module : TypeExpr}

theorem declare_barred (h : ¬ program.isModule module) (owner : TypeExpr) :
    declare program within owner g (.moduleImport module) = .error (.invalidImport module) := by
  simp [declare, h]

theorem declare_entered (h : program.isModule module) (hnew : TypeExpr.isNew g.imported module)
    (owner : TypeExpr) : declare program within owner g (.moduleImport module) =
      within { g with imported := module :: g.imported } module := by
  simp [declare, h, hnew]

theorem declare_known (h : program.isModule module) (hknown : ¬ TypeExpr.isNew g.imported module)
    (owner : TypeExpr) : declare program within owner g (.moduleImport module) = .ok g := by
  simp [declare, h, hknown]

end Declare

/-- A budget for the depth of the expansion is enough. -/
theorem Follows.comes {program : Program} {seen : List TypeExpr} {owner : TypeExpr}
    {declarations : List Declaration} {expansion : Expansion} {stop : Option Fault}
    (h : Follows program seen owner declarations expansion stop) {budget : Nat}
    (hbudget : expansion.depth ≤ budget) (services : List Service) :
    Comes program ⟨seen, services⟩ owner expansion stop
      (declarations.foldlM (declare program (enter program budget) owner) ⟨seen, services⟩) := by
  induction h generalizing budget services with
  | done => exact ⟨[], .nil, by simp [Expansion.imported, pure, Except.pure]⟩
  | @own seen owner declaration service declarations rest stop hservice _ ih =>
    rw [List.foldlM_cons, declare_own (isImport_of_serviceOf hservice), hservice]
    have hyields : Yields program (owner, declaration) service := hservice
    exact (ih hbudget (services ++ [service])).prepend (.cons hyields .nil) rfl rfl
  | @entered seen owner module declarations inside rest stop hmodule hnew _ _ ihInside ihRest =>
    obtain ⟨hinside, hrest⟩ := Nat.max_le.1 hbudget
    obtain ⟨lower, rfl⟩ : ∃ lower, budget = lower + 1 := ⟨budget - 1, by omega⟩
    obtain ⟨entered, hentered, hresult⟩ := ihInside (Nat.le_of_succ_le_succ hinside) services
    rw [List.foldlM_cons, declare_entered hmodule hnew]
    change Comes program _ owner _ stop
      (expand program lower ⟨module :: seen, services⟩ module >>= _)
    rw [expand_eq, hresult]
    exact (ihRest hrest (services ++ entered)).prepend hentered rfl rfl
  | @known seen owner module declarations rest stop hmodule hknown _ ih =>
    rw [List.foldlM_cons, declare_known hmodule hknown]
    have hcomes := ih hbudget services
    cases stop <;> exact hcomes
  | refused himport hservice =>
    rw [List.foldlM_cons, declare_own himport, hservice]
    rfl
  | barred hmodule =>
    rw [List.foldlM_cons, declare_barred hmodule]
    rfl
  | @stopped seen owner module declarations inside fault hmodule hnew _ ih =>
    obtain ⟨hinside, -⟩ := Nat.max_le.1 hbudget
    obtain ⟨lower, rfl⟩ : ∃ lower, budget = lower + 1 := ⟨budget - 1, by omega⟩
    have hresult := ih (Nat.le_of_succ_le_succ hinside) services
    rw [List.foldlM_cons, declare_entered hmodule hnew]
    change Comes program _ owner _ (some fault)
      (expand program lower ⟨module :: seen, services⟩ module >>= _)
    rw [expand_eq, show List.foldlM _ _ _ = _ from hresult]
    rfl

/-- The services of the provider are those of the expansion, or there is its fault instead. -/
def Ends (program : Program) (provider : TypeExpr) (expansion : Expansion) :
    Option Fault → Except Fault (List Service) → Prop
  | none, result => ∃ services,
      List.Forall₂ (Yields program) (expansion.entries provider) services ∧ result = .ok services
  | some fault, result => result = .error fault

/-- An expansion does not depend on how deep imports may be nested. -/
theorem Follows.allow {program : Program} {seen : List TypeExpr} {owner : TypeExpr}
    {declarations : List Declaration} {expansion : Expansion} {stop : Option Fault}
    (h : Follows program seen owner declarations expansion stop) (importDepth : Nat) :
    Follows { program with importDepth } seen owner declarations expansion stop := by
  induction h with
  | done => exact .done
  | own hservice _ ih => exact .own hservice ih
  | entered hmodule hnew _ _ ihInside ihRest => exact .entered hmodule hnew ihInside ihRest
  | known hmodule hknown _ ih => exact .known hmodule hknown ih
  | refused himport hservice => exact .refused himport hservice
  | barred hmodule => exact .barred hmodule
  | stopped hmodule hnew _ ih => exact .stopped hmodule hnew ih

/-- Whatever may be imported, and however often, a walk that ends is not cut short by the bound on
the nesting of imports, from some bound on. -/
theorem Follows.ends {program : Program} {provider : TypeExpr} {expansion : Expansion}
    {stop : Option Fault}
    (h : Follows program [provider] provider (program.declarations provider) expansion stop)
    {importDepth : Nat} (hdepth : expansion.depth ≤ importDepth) :
    Ends program provider expansion stop
      ({ program with importDepth : Program }.declaredServices provider) := by
  have hcomes := (h.allow importDepth).comes hdepth []
  have hexpand : expand { program with importDepth } importDepth ⟨[provider], []⟩ provider = _ :=
    expand_eq ..
  unfold Program.declaredServices
  rw [hexpand]
  cases stop with
  | some fault => exact congrArg (Except.map Gathering.services) hcomes
  | none =>
    obtain ⟨services, hyields, hresult⟩ := hcomes
    exact ⟨services, hyields, congrArg (Except.map Gathering.services) hresult⟩

/-! What an expansion that is complete has taken over. -/

/-- The declaration yields a service, or imports a module that is imported in the end. -/
def Taken (program : Program) (final : List TypeExpr) (owner : TypeExpr)
    (declaration : Declaration) : Prop :=
  (∃ service, serviceOf program owner declaration = .ok service) ∨
    ∃ module, declaration = .moduleImport module ∧ program.isModule module ∧
      ¬ TypeExpr.isNew final module

theorem Taken.grow {program : Program} {final more : List TypeExpr} {owner : TypeExpr}
    {declaration : Declaration} (h : Taken program final owner declaration) (hmore : final ⊆ more) :
    Taken program more owner declaration :=
  h.imp_right fun ⟨module, heq, hmodule, hknown⟩ =>
    ⟨module, heq, hmodule, TypeExpr.not_isNew_of_subset hmore hknown⟩

/-- The fault is that of the declaration. -/
def Refuses (program : Program) (owner : TypeExpr) (declaration : Declaration) (fault : Fault) :
    Prop :=
  (declaration.isImport = false ∧ serviceOf program owner declaration = .error fault) ∨
    ∃ module, declaration = .moduleImport module ∧ ¬ program.isModule module ∧
      fault = .invalidImport module

section Follows

variable {program : Program} {seen : List TypeExpr} {owner provider : TypeExpr}
  {declarations : List Declaration} {expansion : Expansion} {stop : Option Fault}

/-- Every declaration is taken, those at hand and those of each module that is entered. -/
theorem Follows.taken (h : Follows program seen owner declarations expansion stop)
    (hstop : stop = none) :
    (∀ declaration ∈ declarations,
      Taken program (expansion.imported seen) owner declaration) ∧
    ∀ module ∈ expansion.imported seen, module ∈ seen ∨
      ∀ declaration ∈ program.declarations module,
        Taken program (expansion.imported seen) module declaration := by
  induction h with
  | done =>
    exact ⟨fun _ hmem => absurd hmem List.not_mem_nil, fun _ hmem => Or.inl hmem⟩
  | own hservice _ ih =>
    obtain ⟨htaken, hmodules⟩ := ih hstop
    exact ⟨List.forall_mem_cons.2 ⟨Or.inl ⟨_, hservice⟩, htaken⟩, hmodules⟩
  | @entered seen owner module declarations inside rest stop hmodule _ _ _ ihInside ihRest =>
    obtain ⟨htakenInside, hmodulesInside⟩ := ihInside rfl
    obtain ⟨htaken, hmodules⟩ := ihRest hstop
    have hinside := inside.subset_imported (module :: seen)
    have hrest := rest.subset_imported (inside.imported (module :: seen))
    have hknown : ¬ TypeExpr.isNew (rest.imported (inside.imported (module :: seen))) module :=
      TypeExpr.not_isNew_of_mem (hrest (hinside List.mem_cons_self))
    refine ⟨List.forall_mem_cons.2 ⟨Or.inr ⟨module, rfl, hmodule, hknown⟩, htaken⟩,
      fun other hother => ?_⟩
    rcases hmodules other hother with hbefore | hlater
    · rcases hmodulesInside other hbefore with hseen | hentered
      · rcases List.mem_cons.1 hseen with rfl | hseen
        · exact Or.inr fun declaration hmem => (htakenInside declaration hmem).grow hrest
        · exact Or.inl hseen
      · exact Or.inr fun declaration hmem => (hentered declaration hmem).grow hrest
    · exact Or.inr hlater
  | @known seen owner module declarations rest stop hmodule hknown _ ih =>
    obtain ⟨htaken, hmodules⟩ := ih hstop
    have hstill := rest.not_isNew_imported hknown
    exact ⟨List.forall_mem_cons.2 ⟨Or.inr ⟨module, rfl, hmodule, hstill⟩, htaken⟩, hmodules⟩
  | refused _ _ => cases hstop
  | barred _ => cases hstop
  | stopped _ _ _ _ => cases hstop

/-- Only what the provider reaches is entered, and nothing else has its declarations taken over. -/
theorem Follows.owners (h : Follows program seen owner declarations expansion stop)
    (howner : program.Owner provider owner)
    (hdeclarations : declarations ⊆ program.declarations owner) :
    ∀ entry ∈ expansion.entries owner, program.Owner provider entry.1 := by
  induction h with
  | done => exact fun _ hmem => absurd hmem List.not_mem_nil
  | own _ _ ih =>
    exact List.forall_mem_cons.2 ⟨howner, ih howner (List.cons_subset.1 hdeclarations).2⟩
  | entered hmodule _ _ _ ihInside ihRest =>
    obtain ⟨himport, hrest⟩ := List.cons_subset.1 hdeclarations
    intro entry hentry
    rcases List.mem_append.1 hentry with hinside | hbehind
    · exact ihInside (.imported howner himport hmodule) (List.Subset.refl _) entry hinside
    · exact ihRest howner hrest entry hbehind
  | known _ _ _ ih => exact ih howner (List.cons_subset.1 hdeclarations).2
  | refused _ _ => exact fun _ hmem => absurd hmem List.not_mem_nil
  | barred _ => exact fun _ hmem => absurd hmem List.not_mem_nil
  | stopped hmodule _ _ ih =>
    intro entry hentry
    rcases List.mem_append.1 hentry with hinside | hbehind
    · exact ih (.imported howner (List.cons_subset.1 hdeclarations).1 hmodule)
        (List.Subset.refl _) entry hinside
    · cases hbehind

/-- What stops an expansion is a declaration of an owner that the provider reaches. -/
theorem Follows.exists_refuses (h : Follows program seen owner declarations expansion stop)
    {fault : Fault} (hstop : stop = some fault) (howner : program.Owner provider owner)
    (hdeclarations : declarations ⊆ program.declarations owner) :
    ∃ other, program.Owner provider other ∧
      ∃ declaration ∈ program.declarations other, Refuses program other declaration fault := by
  induction h with
  | done => cases hstop
  | own _ _ ih => exact ih hstop howner (List.cons_subset.1 hdeclarations).2
  | entered _ _ _ _ _ ih => exact ih hstop howner (List.cons_subset.1 hdeclarations).2
  | known _ _ _ ih => exact ih hstop howner (List.cons_subset.1 hdeclarations).2
  | refused himport hservice =>
    cases hstop
    exact ⟨_, howner, _, (List.cons_subset.1 hdeclarations).1, Or.inl ⟨himport, hservice⟩⟩
  | barred hmodule =>
    cases hstop
    exact ⟨_, howner, _, (List.cons_subset.1 hdeclarations).1, Or.inr ⟨_, rfl, hmodule, rfl⟩⟩
  | stopped hmodule _ _ ih =>
    exact ih hstop (.imported howner (List.cons_subset.1 hdeclarations).1 hmodule)
      (List.Subset.refl _)

end Follows

end Gathering

namespace Catalog

variable {catalog : Catalog} {a b owner provider : TypeExpr}

theorem declarations_congr (h : a.same b) : catalog.declarations a = catalog.declarations b := by
  unfold declarations
  rw [definition?_congr h]

theorem length_members_congr (h : a.same b) (name : String) :
    (catalog.members a name).length = (catalog.members b name).length := by
  unfold members
  rw [definition?_congr h]
  split
  · rfl
  · rw [List.length_map, List.length_map]

/-- The declaration imports what is no module, or names no member of its owner or several. -/
def Unfit (catalog : Catalog) (owner : TypeExpr) : Declaration → Prop
  | .dependency _ _ _ _ => False
  | .factory _ _ _ name => (catalog.members owner name).length ≠ 1
  | .sharedInstance _ _ name => (catalog.members owner name).length ≠ 1
  | .moduleImport module => ¬ catalog.isModule module

theorem unfit_congr (h : a.same b) (declaration : Declaration) :
    catalog.Unfit a declaration ↔ catalog.Unfit b declaration := by
  cases declaration with
  | dependency _ _ _ _ => exact Iff.rfl
  | factory _ _ _ name => rw [Unfit, Unfit, length_members_congr h]
  | sharedInstance _ _ name => rw [Unfit, Unfit, length_members_congr h]
  | moduleImport _ => exact Iff.rfl

end Catalog

namespace Gathering

theorem uniqueMember_fails_iff (program : Program) (owner : TypeExpr) (name : String) :
    (∃ fault, uniqueMember program owner name = .error fault) ↔
      (program.members owner name).length ≠ 1 := by
  unfold uniqueMember
  split
  · next heq => simp [heq]
  · next heq => simp [heq]
  · next hseveral heq =>
    refine iff_of_true ⟨_, rfl⟩ fun hlength => ?_
    obtain ⟨member, hmember⟩ := List.length_eq_one_iff.1 hlength
    exact heq member hmember

theorem map_fails_iff {α β : Type} {x : Except Fault α} {f : α → β} :
    (∃ fault, x.map f = .error fault) ↔ ∃ fault, x = .error fault := by
  cases x <;> simp [Except.map]

end Gathering

namespace Catalog

variable {catalog : Catalog} {owner provider : TypeExpr}

open Gathering

/-- A declaration of the owner's own is unfit where it yields no service. -/
theorem unfit_iff {declaration : Declaration} (h : declaration.isImport = false) :
    catalog.Unfit owner declaration ↔
      ∃ fault, serviceOf catalog.program owner declaration = .error fault := by
  cases declaration with
  | dependency _ _ _ _ => simp [Unfit, serviceOf]
  | factory _ _ _ name =>
    exact (map_fails_iff.trans (uniqueMember_fails_iff catalog.program owner name)).symm
  | sharedInstance _ _ name =>
    exact (map_fails_iff.trans (uniqueMember_fails_iff catalog.program owner name)).symm
  | moduleImport _ => cases h

theorem Unfit.of_refuses {declaration : Declaration} {fault : Fault}
    (hmem : declaration ∈ catalog.declarations owner)
    (h : Refuses catalog.program owner declaration fault) : catalog.Unfit owner declaration := by
  rcases h with ⟨himport, hservice⟩ | ⟨module, rfl, hmodule, -⟩
  · exact (unfit_iff himport).2 ⟨fault, hservice⟩
  · exact hmodule

theorem not_unfit_of_taken {declaration : Declaration} {final : List TypeExpr}
    (hmem : declaration ∈ catalog.declarations owner)
    (h : Taken catalog.program final owner declaration) : ¬ catalog.Unfit owner declaration := by
  rcases h with ⟨service, hservice⟩ | ⟨module, rfl, hmodule, -⟩
  · intro hunfit
    obtain ⟨fault, hfault⟩ := (unfit_iff (isImport_of_serviceOf hservice)).1 hunfit
    cases hservice.symm.trans hfault
  · exact not_not_intro hmodule

/-- The declarations of the owner apart from imports. -/
def ownDeclarations (catalog : Catalog) (owner : TypeExpr) : List Declaration :=
  (catalog.declarations owner).filter (!·.isImport)

section Complete

variable {seen : List TypeExpr} {declarations : List Declaration} {expansion : Expansion}
  {stop : Option Fault} {other : TypeExpr}

/-- Of an owner that is imported already there are only the declarations at hand. -/
theorem shareOf_of_known
    (h : Follows catalog.program seen owner declarations expansion stop) (hstop : stop = none)
    (hother : ¬ TypeExpr.isNew seen other) : expansion.shareOf owner other =
      if owner.same other then declarations.filter (!·.isImport) else [] := by
  induction h with
  | done => split <;> rfl
  | own hservice _ ih =>
    rw [Expansion.shareOf_own, ih hstop hother]
    split
    · rw [List.filter_cons_of_pos (by simp [isImport_of_serviceOf hservice])]
      rfl
    · rfl
  | @entered seen owner module _ inside _ _ _ hnew _ _ ihInside ihRest =>
    have hinside : ¬ TypeExpr.isNew (module :: seen) other :=
      TypeExpr.not_isNew_of_subset (List.subset_cons_self module seen) hother
    have hrest := inside.not_isNew_imported hinside
    -- the module that is entered is another one
    have hmodule : ¬ module.same other := by
      rw [TypeExpr.same_comm]
      exact TypeExpr.not_same_of_isNew hother hnew
    rw [Expansion.shareOf_entered, ihInside rfl hinside, ihRest hstop hrest, if_neg hmodule]
    rfl
  | known _ _ _ ih => exact ih hstop hother
  | refused _ _ => cases hstop
  | barred _ => cases hstop
  | stopped _ _ _ _ => cases hstop

/-- A module that is new has all its declarations taken over once it is entered. -/
theorem shareOf_of_new
    (h : Follows catalog.program seen owner declarations expansion stop) (hstop : stop = none)
    (howner : ¬ TypeExpr.isNew seen owner) (hother : TypeExpr.isNew seen other) :
    expansion.shareOf owner other =
      if TypeExpr.isNew (expansion.imported seen) other then []
      else catalog.ownDeclarations other := by
  induction h with
  | done => rw [Expansion.imported, if_pos hother]; rfl
  | @own seen owner _ _ _ _ _ _ _ ih =>
    have hdifferent : ¬ owner.same other := TypeExpr.not_same_of_isNew howner hother
    rw [Expansion.shareOf_own, if_neg hdifferent, ih hstop howner hother]
    rfl
  | @entered seen owner module _ inside rest _ _ hnew hinside hrest ihInside ihRest =>
    have hmodule : ¬ TypeExpr.isNew (module :: seen) module :=
      TypeExpr.not_isNew_of_mem List.mem_cons_self
    have hdifferent : ¬ owner.same other := TypeExpr.not_same_of_isNew howner hother
    rw [Expansion.shareOf_entered, Expansion.imported]
    by_cases hlater : TypeExpr.isNew (module :: seen) other
    swap
    · -- it is this module
      have hsame := TypeExpr.same_of_not_isNew_cons hother hlater
      have hbehind := inside.not_isNew_imported hlater
      rw [shareOf_of_known hinside rfl hlater, shareOf_of_known hrest hstop hbehind,
        if_pos (by rwa [TypeExpr.same_comm]), if_neg hdifferent,
        if_neg (rest.not_isNew_imported hbehind), List.append_nil, ownDeclarations,
        declarations_congr hsame]
      rfl
    have hknown := inside.not_isNew_imported
      (TypeExpr.not_isNew_of_subset (List.subset_cons_self module seen) howner)
    rw [ihInside rfl hmodule hlater]
    by_cases hbehind : TypeExpr.isNew (inside.imported (module :: seen)) other
    · rw [if_pos hbehind, ihRest hstop hknown hbehind]
      rfl
    · -- it is entered below this module
      rw [if_neg hbehind, if_neg (rest.not_isNew_imported hbehind),
        shareOf_of_known hrest hstop hbehind, if_neg hdifferent, List.append_nil]
  | known _ _ _ ih => exact ih hstop howner hother
  | refused _ _ => cases hstop
  | barred _ => cases hstop
  | stopped _ _ _ _ => cases hstop

end Complete

section Provider

variable {expansion : Expansion} {stop : Option Fault}

/-- Every owner that the provider reaches is imported in the end. -/
theorem imported_of_owner
    (h : Follows catalog.program [provider] provider (catalog.declarations provider) expansion stop)
    (hstop : stop = none) (howner : catalog.program.Owner provider owner) :
    ∃ listed ∈ expansion.imported [provider], owner.same listed ∧
      ∀ declaration ∈ catalog.declarations listed,
        Taken catalog.program (expansion.imported [provider]) listed declaration := by
  obtain ⟨htaken, hmodules⟩ := h.taken hstop
  have hall : ∀ listed ∈ expansion.imported [provider],
      ∀ declaration ∈ catalog.declarations listed,
        Taken catalog.program (expansion.imported [provider]) listed declaration := by
    intro listed hlisted
    rcases hmodules listed hlisted with hprovider | hentered
    · rwa [List.mem_singleton.1 hprovider]
    · exact hentered
  induction howner with
  | provider =>
    have hprovider := expansion.subset_imported [provider] List.mem_cons_self
    exact ⟨provider, hprovider, TypeExpr.same_refl provider, hall provider hprovider⟩
  | @imported owner module _ himport _ ih =>
    obtain ⟨listed, -, hsame, hlisted⟩ := ih
    have himport : .moduleImport module ∈ catalog.declarations listed := by
      rwa [← declarations_congr hsame]
    rcases hlisted _ himport with ⟨_, hservice⟩ | ⟨_, heq, -, hknown⟩
    · cases hservice
    · cases heq
      obtain ⟨entered, hentered, hsame⟩ := TypeExpr.not_isNew_iff.1 hknown
      exact ⟨entered, hentered, hsame, hall entered hentered⟩

/-- A complete expansion has taken over the declarations of all owners. -/
theorem shareOf_of_owner
    (h : Follows catalog.program [provider] provider (catalog.declarations provider) expansion stop)
    (hstop : stop = none) (howner : catalog.program.Owner provider owner) :
    expansion.shareOf provider owner = catalog.ownDeclarations owner := by
  obtain ⟨listed, hlisted, hsame, -⟩ := imported_of_owner h hstop howner
  have hknown : ¬ TypeExpr.isNew (expansion.imported [provider]) owner :=
    TypeExpr.not_isNew_iff.2 ⟨listed, hlisted, hsame⟩
  by_cases hnew : TypeExpr.isNew [provider] owner
  · have hprovider : ¬ TypeExpr.isNew [provider] provider :=
      TypeExpr.not_isNew_of_mem List.mem_cons_self
    rw [shareOf_of_new h hstop hprovider hnew, if_neg hknown]
  · obtain ⟨other, hother, hsame⟩ := TypeExpr.not_isNew_iff.1 hnew
    obtain rfl := List.mem_singleton.1 hother
    rw [TypeExpr.same_comm] at hsame
    rw [shareOf_of_known h hstop hnew, if_pos hsame, ownDeclarations, declarations_congr hsame]

/-- An expansion is stopped exactly where an owner has a declaration that is unfit. -/
theorem stopped_iff
    (h : Follows catalog.program [provider] provider (catalog.declarations provider) expansion
      stop) :
    (∃ fault, stop = some fault) ↔ ∃ owner, catalog.program.Owner provider owner ∧
      ∃ declaration ∈ catalog.declarations owner, catalog.Unfit owner declaration := by
  constructor
  · rintro ⟨fault, hstop⟩
    obtain ⟨owner, howner, declaration, hmem, hrefuses⟩ :=
      h.exists_refuses hstop .provider (List.Subset.refl _)
    exact ⟨owner, howner, declaration, hmem, .of_refuses hmem hrefuses⟩
  · rintro ⟨owner, howner, declaration, hmem, hunfit⟩
    refine Option.ne_none_iff_exists'.1 fun hstop => ?_
    obtain ⟨listed, -, hsame, htaken⟩ := imported_of_owner h hstop howner
    rw [declarations_congr hsame] at hmem
    exact not_unfit_of_taken hmem (htaken declaration hmem)
      ((unfit_congr hsame declaration).1 hunfit)

end Provider

/-! Modules that are left to enter. -/

def left (catalog : Catalog) (seen : List TypeExpr) : Nat :=
  (catalog.importedModules.filter (TypeExpr.isNew seen)).length

theorem left_le {seen more : List TypeExpr} (h : seen ⊆ more) :
    catalog.left more ≤ catalog.left seen :=
  (List.monotone_filter_right catalog.importedModules fun _ hnew =>
    TypeExpr.isNew_of_subset h hnew).length_le

theorem mem_importedModules {module : TypeExpr}
    (h : .moduleImport module ∈ catalog.declarations owner) (hmodule : catalog.isModule module) :
    module ∈ catalog.importedModules := by
  unfold declarations at h
  split at h
  · cases h
  · next d hd =>
    exact List.mem_flatMap.2 ⟨d, mem_of_definition? hd,
      List.mem_filter.2 ⟨List.mem_filterMap.2 ⟨_, h, rfl⟩, hmodule⟩⟩

theorem left_enter {seen : List TypeExpr} {module : TypeExpr}
    (hlisted : module ∈ catalog.importedModules) (hnew : TypeExpr.isNew seen module) :
    catalog.left (module :: seen) < catalog.left seen := by
  have hrest : catalog.importedModules.filter (TypeExpr.isNew (module :: seen)) =
      (catalog.importedModules.filter (TypeExpr.isNew seen)).filter
        (TypeExpr.isNew (module :: seen)) := by
    rw [List.filter_filter]
    refine List.filter_congr fun other _ => ?_
    rw [Bool.eq_iff_iff, Bool.and_eq_true, iff_self_and]
    exact TypeExpr.isNew_of_subset (List.subset_cons_self module seen)
  unfold left
  rw [hrest, List.length_filter_lt_length_iff_exists]
  exact ⟨module, List.mem_filter.2 ⟨hlisted, hnew⟩,
    TypeExpr.not_isNew_of_mem List.mem_cons_self⟩

/-- Declarations of a catalog have an expansion no deeper than there are modules left to enter. -/
theorem exists_follows {count : Nat} {seen : List TypeExpr} (hcount : catalog.left seen ≤ count)
    {declarations : List Declaration} (hdeclared : declarations ⊆ catalog.declarations owner) :
    ∃ expansion stop, Follows catalog.program seen owner declarations expansion stop ∧
      expansion.depth ≤ count := by
  induction count using Nat.strongRecOn generalizing seen owner declarations with
  | _ count ihCount =>
  induction declarations generalizing seen with
  | nil => exact ⟨.done, none, .done, Nat.zero_le count⟩
  | cons declaration declarations ih =>
    obtain ⟨hmem, hrest⟩ := List.cons_subset.1 hdeclared
    by_cases himport : declaration.isImport = false
    · cases hservice : serviceOf catalog.program owner declaration with
      | error fault => exact ⟨.done, some fault, .refused himport hservice, Nat.zero_le count⟩
      | ok service =>
        obtain ⟨rest, stop, hfollows, hdepth⟩ := ih hcount hrest
        exact ⟨.own declaration rest, stop, .own hservice hfollows, hdepth⟩
    obtain ⟨module, rfl⟩ := Declaration.exists_of_isImport himport
    by_cases hmodule : catalog.isModule module
    swap
    · exact ⟨.done, some (.invalidImport module), .barred hmodule, Nat.zero_le count⟩
    by_cases hnew : TypeExpr.isNew seen module
    swap
    · obtain ⟨rest, stop, hfollows, hdepth⟩ := ih hcount hrest
      exact ⟨.known module rest, stop, .known hmodule hnew hfollows, hdepth⟩
    -- entering the module leaves fewer to enter
    have hfewer := left_enter (mem_importedModules hmem hmodule) hnew
    obtain ⟨lower, rfl⟩ : ∃ lower, count = lower + 1 := ⟨count - 1, by omega⟩
    obtain ⟨inside, stop, hinside, hdepth⟩ := ihCount lower (Nat.lt_succ_self lower)
      (by omega : catalog.left (module :: seen) ≤ lower)
      (List.Subset.refl (catalog.declarations module))
    cases stop with
    | some fault =>
      refine ⟨.entered module inside .done, some fault, .stopped hmodule hnew hinside, ?_⟩
      exact Nat.max_le.2 ⟨Nat.succ_le_succ hdepth, Nat.zero_le _⟩
    | none =>
      have hbehind : catalog.left (inside.imported (module :: seen)) ≤ lower + 1 :=
        Nat.le_trans (left_le (inside.subset_imported (module :: seen))) (by omega)
      obtain ⟨rest, stop, hfollows, hrestDepth⟩ := ih hbehind hrest
      refine ⟨.entered module inside rest, stop, .entered hmodule hnew hinside hfollows, ?_⟩
      exact Nat.max_le.2 ⟨Nat.succ_le_succ hdepth, hrestDepth⟩

/-- The result for a provider is that of an expansion. -/
theorem follows_declaredServices (catalog : Catalog) (provider : TypeExpr) :
    ∃ expansion stop,
      Follows catalog.program [provider] provider (catalog.declarations provider) expansion stop ∧
      Ends catalog.program provider expansion stop
        (catalog.program.declaredServices provider) := by
  have hcount : catalog.left [provider] ≤ catalog.importedModules.length :=
    List.length_filter_le _ _
  obtain ⟨expansion, stop, hfollows, hdepth⟩ :=
    exists_follows hcount (List.Subset.refl (catalog.declarations provider))
  exact ⟨expansion, stop, hfollows, hfollows.ends hdepth⟩

/-- The declarations of a provider are gathered along an expansion, whichever modules import one
another. It fails exactly where some owner that the provider reaches has a declaration that is
unfit. Otherwise the services come one for each entry of the expansion, all of them declarations of
owners that the provider reaches, and for each of these owners they are all its declarations but
imports, each once and in their order; those of a module that is imported for the first time stand
where it is imported. -/
theorem declaredServices_expansion (catalog : Catalog) (provider : TypeExpr) :
    ∃ expansion stop,
      Follows catalog.program [provider] provider (catalog.declarations provider) expansion stop ∧
      (∀ fault, catalog.program.declaredServices provider = .error fault ↔ stop = some fault) ∧
      ((∃ fault, catalog.program.declaredServices provider = .error fault) ↔
        ∃ owner, catalog.program.Owner provider owner ∧
          ∃ declaration ∈ catalog.declarations owner, catalog.Unfit owner declaration) ∧
      ∀ services, catalog.program.declaredServices provider = .ok services →
        stop = none ∧
        List.Forall₂ (Yields catalog.program) (expansion.entries provider) services ∧
        (∀ entry ∈ expansion.entries provider, catalog.program.Owner provider entry.1) ∧
        ∀ owner, catalog.program.Owner provider owner →
          expansion.shareOf provider owner = catalog.ownDeclarations owner := by
  obtain ⟨expansion, stop, hfollows, hresult⟩ := follows_declaredServices catalog provider
  have hfails : ∀ fault,
      catalog.program.declaredServices provider = .error fault ↔ stop = some fault := by
    intro fault
    cases stop with
    | some other => rw [hresult, Except.error.injEq, Option.some.injEq]
    | none =>
      obtain ⟨services, -, hservices⟩ := hresult
      simp [hservices]
  refine ⟨expansion, stop, hfollows, hfails, ?_, fun services hservices => ?_⟩
  · simp only [hfails]
    exact stopped_iff hfollows
  · cases stop with
    | some fault => cases hservices.symm.trans hresult
    | none =>
      obtain ⟨gathered, hyields, hgathered⟩ := hresult
      cases hservices.symm.trans hgathered
      exact ⟨rfl, hyields, hfollows.owners .provider (List.Subset.refl _),
        fun owner howner => shareOf_of_owner hfollows rfl howner⟩

end Catalog

namespace Shops

def clock : TypeExpr := ⟨.classType, "app::Clock", [], false⟩
def log : TypeExpr := ⟨.classType, "app::Log", [], false⟩
def sink : TypeExpr := ⟨.classType, "app::Sink", [], false⟩
def archive : TypeExpr := ⟨.classType, "app::Archive", [], false⟩
def till : TypeExpr := ⟨.classType, "app::Till", [], false⟩

def shop : TypeExpr := ⟨.classType, "app::Shop", [], false⟩
def logging : TypeExpr := ⟨.classType, "app::Logging", [], false⟩
def storage : TypeExpr := ⟨.classType, "app::Storage", [], false⟩

def loggingDefinition : Definition :=
  { Definition.declaring logging [.property "Sink" sink] [
      .dependency .scoped log none none,
      .moduleImport storage,
      .sharedInstance sink none "Sink"] with isModule := true }

/-- The storage imports the logging back, written with an annotation. -/
def storageDefinition : Definition :=
  { Definition.declaring storage [] [
      .moduleImport { logging with nullable := true },
      .dependency .singleton archive none none] with isModule := true }

def catalog : Catalog := .ofDefinitions [
  .declaring shop [] [
    .dependency .singleton clock none none,
    .moduleImport logging,
    .dependency .singleton till none none,
    .moduleImport storage],
  loggingDefinition, storageDefinition]

end Shops

open Shops in
/-- The modules of the shop import each other, and each declaration is gathered once. -/
theorem shop_gathered :
    (catalog.program.declaredServices shop).toOption.map (List.map Service.type) =
      some [clock, log, archive, sink, till] ∧
    ∃ expansion : Expansion,
      expansion.shareOf shop logging =
        [.dependency .scoped log none none, .sharedInstance sink none "Sink"] ∧
      expansion.shareOf shop storage = [.dependency .singleton archive none none] := by
  have htypes : (catalog.program.declaredServices shop).toOption.map (List.map Service.type) =
      some [clock, log, archive, sink, till] := by decide +kernel
  have hlogging : catalog.program.Owner shop logging :=
    .imported .provider (by decide +kernel) (by decide +kernel)
  have hstorage : catalog.program.Owner shop storage :=
    .imported hlogging (by decide +kernel) (by decide +kernel)
  refine ⟨htypes, ?_⟩
  obtain ⟨expansion, _, -, -, -, hgathered⟩ := Catalog.declaredServices_expansion catalog shop
  cases hservices : catalog.program.declaredServices shop with
  | error _ => rw [hservices] at htypes; cases htypes
  | ok services =>
    obtain ⟨-, -, -, hshares⟩ := hgathered services hservices
    exact ⟨expansion, (hshares logging hlogging).trans (by decide +kernel),
      (hshares storage hstorage).trans (by decide +kernel)⟩

end Wiring
