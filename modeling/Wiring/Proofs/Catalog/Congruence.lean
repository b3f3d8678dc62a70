import Wiring.Proofs.Catalog.Annotation
import Wiring.Proofs.Catalog.Scope
import Wiring.TypeExpr.Digest

/-!
Identity up to annotations as a congruence. It is an equivalence that a hash table can go by, and
whatever a catalog is asked about two types that are the same, the answers are the same, one by one.
So it does not matter which of them a table keeps.
-/

namespace Wiring

/-- The same names in the same order, bound to types that are the same. -/
def Bindings.Same (σ τ : Bindings) : Prop :=
  List.Forall₂ (fun entry other => entry.1 = other.1 ∧ entry.2.same other.2) σ τ

theorem Bindings.Same.mapTypes_eq {σ τ : Bindings} (h : σ.Same τ) :
    σ.mapTypes TypeExpr.unannotated = τ.mapTypes TypeExpr.unannotated := by
  induction h with
  | nil => rfl
  | cons hentry _ ih =>
    simp only [mapTypes, List.map_cons, hentry.1, TypeExpr.same_iff.1 hentry.2] at ih ⊢
    rw [ih]

/-- Parameters of the same types in the same order, and results of the same type. -/
structure Member.SameTypes (first second : Member) : Prop where
  parameters : List.Forall₂ (fun p q => p.type.same q.type) first.parameters second.parameters
  produces : Option.Rel (fun a b => a.same b) first.produces second.produces

theorem Member.sameTypes_of_unannotated {first second : Member}
    (h : first.unannotated = second.unannotated) : first.SameTypes second where
  parameters := by
    have hparameters := congrArg Member.parameters h
    rw [parameters_unannotated, parameters_unannotated] at hparameters
    exact (forall₂_of_map_eq hparameters).imp fun _ _ heq =>
      TypeExpr.same_iff.2 (congrArg Parameter.type heq)
  produces := by
    have hproduces := congrArg Member.produces h
    rw [produces_unannotated, produces_unannotated] at hproduces
    cases hfirst : first.produces <;> cases hsecond : second.produces <;>
      simp only [hfirst, hsecond, Option.map_none, Option.map_some, reduceCtorEq] at hproduces
    · exact .none
    · exact .some (TypeExpr.same_iff.2 (Option.some.inj hproduces))

namespace Catalog

variable {catalog : Catalog} {a b : TypeExpr}

/-- Nothing that is asked about one of the types tells it from the other, up to annotations of what
is answered. -/
structure AnswersAlike (catalog : Catalog) (a b : TypeExpr) : Prop where
  isOpen : a.isOpen = b.isOpen
  substitute {σ τ : Bindings} : σ.Same τ → (a.substitute σ).same (b.substitute τ)
  genericDefinition : catalog.genericDefinition a = catalog.genericDefinition b
  walkEnds : catalog.WalkEnds a ↔ catalog.WalkEnds b
  baseTypes {depth depth' : Nat} {bases others : List TypeExpr} :
    catalog.baseTypes? depth a = some bases → catalog.baseTypes? depth' b = some others →
      List.Forall₂ (fun base other => base.same other) bases others
  constructors : List.Forall₂ (fun method other => (Member.method method).SameTypes (.method other))
    (catalog.constructors a) (catalog.constructors b)
  members (name : String) :
    List.Forall₂ Member.SameTypes (catalog.members a name) (catalog.members b name)

theorem walkEnds_congr (h : a.same b) : catalog.WalkEnds a ↔ catalog.WalkEnds b := by
  refine exists_congr fun depth => ?_
  rw [← Option.isSome_map (f := (·.map TypeExpr.unannotated)), baseTypes?_congr depth h,
    Option.isSome_map]

theorem baseTypes?_same (h : a.same b) {depth depth' : Nat} {bases others : List TypeExpr}
    (hbases : catalog.baseTypes? depth a = some bases)
    (hothers : catalog.baseTypes? depth' b = some others) :
    List.Forall₂ (fun base other => base.same other) bases others := by
  have hcongr : (catalog.baseTypes? depth a).map (·.map TypeExpr.unannotated) =
      (catalog.baseTypes? depth b).map (·.map TypeExpr.unannotated) := baseTypes?_congr depth h
  rw [hbases, Option.map_some, eq_comm, Option.map_eq_some_iff] at hcongr
  obtain ⟨same, hsame, hkeys⟩ := hcongr
  -- the walk from `b` need not be as deep as the one from `a`
  obtain rfl := baseTypes?_unique hsame hothers
  exact (forall₂_of_map_eq hkeys.symm).imp fun _ _ => TypeExpr.same_iff.2

theorem answersAlike_of_same (h : a.same b) : catalog.AnswersAlike a b where
  isOpen := by rw [← TypeExpr.isOpen_unannotated a, TypeExpr.same_iff.1 h,
    TypeExpr.isOpen_unannotated]
  substitute hbindings := TypeExpr.same_substitute h hbindings.mapTypes_eq
  genericDefinition := genericDefinition_congr h
  walkEnds := walkEnds_congr h
  baseTypes := baseTypes?_same h
  constructors := by
    refine (forall₂_of_map_eq (constructors_congr h)).imp fun method other heq => ?_
    have hmembers : (Member.method method).unannotated = (Member.method other).unannotated :=
      congrArg Member.method heq
    exact Member.sameTypes_of_unannotated hmembers
  members name := (forall₂_of_map_eq (members_congr h name)).imp fun _ _ =>
    Member.sameTypes_of_unannotated

/-- Two types are the same when clearing their annotations makes them equal. This is an equivalence,
a hash table reads the same of two types exactly when they are, and every catalog answers alike
about them. -/
theorem same_isCongruence (catalog : Catalog) :
    (∀ a b : TypeExpr, a.same b ↔ a.unannotated = b.unannotated) ∧
    (Equivalence fun a b : TypeExpr => (a.same b : Prop)) ∧
    (∀ a b : TypeExpr, a.digest = b.digest ↔ a.same b) ∧
    ∀ a b : TypeExpr, a.same b → catalog.AnswersAlike a b := by
  refine ⟨fun _ _ => TypeExpr.same_iff, ⟨TypeExpr.same_refl, fun h => ?_, TypeExpr.same_trans⟩,
    fun _ _ => TypeExpr.digest_eq_iff, fun _ _ => answersAlike_of_same⟩
  rwa [TypeExpr.same_comm]

end Catalog

open Journals in
/-- Over absent entries and over entries, a journal that may be absent itself answers alike. -/
theorem journal_answers_alike :
    ({ journal { entry with nullable := true } with nullable := true }).same (journal entry) ∧
    catalog.baseTypes? 4 { journal { entry with nullable := true } with nullable := true } =
      some [store { entry with nullable := true }] ∧
    catalog.members (journal { entry with nullable := true }) "Archive" =
      [.property "Archive" (journal ⟨.array, "", [{ entry with nullable := true }], false⟩)] ∧
    catalog.AnswersAlike { journal { entry with nullable := true } with nullable := true }
      (journal entry) :=
  have hsame : ({ journal { entry with nullable := true } with nullable := true }).same
      (journal entry) := by decide +kernel
  ⟨hsame, by decide +kernel, by decide +kernel, (Catalog.same_isCongruence catalog).2.2.2 _ _ hsame⟩

end Wiring
