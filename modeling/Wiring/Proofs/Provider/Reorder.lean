import Mathlib.Data.List.Perm.Basic
import Wiring.Provider.Basic

/-!
Declarations in another order. A provider that imports nothing declares one service after another,
each for itself, so the services come in the order of the declarations, and whether they all can be
had does not depend on it.
-/

namespace Wiring

/-- The same program with other declarations. -/
def Program.redeclare (program : Program) (declarations : TypeExpr → List Declaration) : Program :=
  { program with declarations }

/-- The declaration takes over a module. -/
def Declaration.isImport : Declaration → Bool
  | moduleImport _ => true
  | dependency .. | factory .. | sharedInstance .. => false

namespace Gathering

/-- What a declaration of the owner's own declares. -/
def serviceOf (program : Program) (owner : TypeExpr) : Declaration → Except Fault Service
  | .dependency lifetime service implementation key =>
    .ok { type := service, lifetime, implementation, key }
  | .factory lifetime service key name =>
    (uniqueMember program owner name).map fun member =>
      { type := service, lifetime, member := some member, key }
  | .sharedInstance service key name =>
    (uniqueMember program owner name).map fun member =>
      { type := service, lifetime := .singleton, member := some member, key }
  | .moduleImport module => .error (.invalidImport module)

variable {program : Program} {owner : TypeExpr}
  {enter : Gathering → TypeExpr → Except Fault Gathering}

theorem declare_own {declaration : Declaration} (h : declaration.isImport = false)
    (g : Gathering) : declare program enter owner g declaration =
      (serviceOf program owner declaration).map g.push := by
  cases declaration with
  | dependency _ _ _ _ => rfl
  | factory _ _ _ name =>
    unfold declare serviceOf
    dsimp only
    cases uniqueMember program owner name <;> rfl
  | sharedInstance _ _ name =>
    unfold declare serviceOf
    dsimp only
    cases uniqueMember program owner name <;> rfl
  | moduleImport _ => cases h

theorem foldlM_declare_own {declarations : List Declaration}
    (h : ∀ declaration ∈ declarations, declaration.isImport = false) (g : Gathering) :
    declarations.foldlM (declare program enter owner) g =
      (declarations.mapM (serviceOf program owner)).map fun services =>
        { g with services := g.services ++ services } := by
  induction declarations generalizing g with
  | nil =>
    rw [List.foldlM_nil, List.mapM_nil]
    exact congrArg Except.ok (by simp)
  | cons first rest ih =>
    obtain ⟨hfirst, hrest⟩ := List.forall_mem_cons.1 h
    rw [List.foldlM_cons, List.mapM_cons, declare_own hfirst]
    cases serviceOf program owner first with
    | error _ => rfl
    | ok service =>
      refine (ih hrest (g.push service)).trans ?_
      cases rest.mapM (serviceOf program owner) with
      | error _ => rfl
      | ok services => exact congrArg Except.ok (by simp [push])

theorem expand_own (h : ∀ declaration ∈ program.declarations owner, declaration.isImport = false)
    (budget : Nat) (g : Gathering) : expand program budget g owner =
      ((program.declarations owner).mapM (serviceOf program owner)).map fun services =>
        { g with services := g.services ++ services } := by
  cases budget with
  | zero => exact foldlM_declare_own h g
  | succ budget => exact foldlM_declare_own h g

end Gathering

open Gathering

theorem Program.declaredServices_own {program : Program} {provider : TypeExpr}
    (h : ∀ declaration ∈ program.declarations provider, declaration.isImport = false) :
    program.declaredServices provider =
      (program.declarations provider).mapM (serviceOf program provider) := by
  unfold declaredServices
  rw [expand_own h]
  cases (program.declarations provider).mapM (serviceOf program provider) <;> rfl

theorem mapM_ok_iff {α β : Type} {f : α → Except Fault β} {xs : List α} {ys : List β} :
    xs.mapM f = .ok ys ↔ List.Forall₂ (fun x y => f x = .ok y) xs ys := by
  induction xs generalizing ys with
  | nil =>
    rw [List.mapM_nil, List.forall₂_nil_left_iff]
    exact ⟨fun h => (Except.ok.inj h).symm, fun h => congrArg Except.ok h.symm⟩
  | cons x xs ih =>
    rw [List.mapM_cons, List.forall₂_cons_left_iff]
    simp only [← ih]
    cases f x with
    | error _ => simp [bind, Except.bind]
    | ok y =>
      cases xs.mapM f with
      | error _ => simp [bind, Except.bind]
      | ok rest => simp [bind, Except.bind, pure, Except.pure, eq_comm]

/-- A provider that imports nothing declares the same services in another order. -/
theorem Program.declaredServices_redeclare {program : Program}
    {declarations : TypeExpr → List Declaration} {provider : TypeExpr}
    (hperm : (program.declarations provider).Perm (declarations provider))
    (hown : ∀ declaration ∈ program.declarations provider, declaration.isImport = false)
    {services : List Service} (h : program.declaredServices provider = .ok services) :
    ∃ reordered, (program.redeclare declarations).declaredServices provider = .ok reordered ∧
      services.Perm reordered := by
  rw [declaredServices_own hown] at h
  obtain ⟨reordered, hreordered, hservices⟩ :=
    List.perm_comp_forall₂ hperm.symm (mapM_ok_iff.1 h)
  refine ⟨reordered, ?_, hservices.symm⟩
  rw [declaredServices_own fun declaration hmem => hown declaration (hperm.mem_iff.2 hmem)]
  exact mapM_ok_iff.2 hreordered

end Wiring
