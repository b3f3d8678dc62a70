import Wiring.Catalog.Basic

/-!
Ancestors of a type, stated without the walk that lists them: its direct bases, and the ancestors of
those.
-/

namespace Wiring.Catalog

inductive Ancestor (catalog : Catalog) (type : TypeExpr) : TypeExpr → Prop
  | direct {base : TypeExpr} : base ∈ catalog.directBases type → Ancestor catalog type base
  | further {base other : TypeExpr} :
      Ancestor catalog type base → other ∈ catalog.directBases base → Ancestor catalog type other

theorem Ancestor.trans {catalog : Catalog} {a b c : TypeExpr} (hab : catalog.Ancestor a b)
    (hbc : catalog.Ancestor b c) : catalog.Ancestor a c := by
  induction hbc with
  | direct h => exact hab.further h
  | further _ h ih => exact ih.further h

/-- The bases of a type can be listed, whatever their number. -/
def WalkEnds (catalog : Catalog) (type : TypeExpr) : Prop :=
  ∃ depth, (catalog.baseTypes? depth type).isSome

end Wiring.Catalog
