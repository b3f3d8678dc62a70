import Wiring.Catalog.Ancestor
import Wiring.Proofs.TypeExpr.Substitution

/-!
What the walk over the bases of a type finds: its ancestors, each up to annotations. So that one
type can be had as another is a relation that can be chained, which the lists of bases do not show.
Where definitions only name bases of a lower rank, every walk ends.
-/

namespace Wiring

/-- What is of the type can be handed over where `target` is asked for. -/
def Program.Serves (program : Program) (target type : TypeExpr) : Prop :=
  type.same target ∨ ∃ base ∈ program.baseTypes type, base.same target

instance (program : Program) (target type : TypeExpr) : Decidable (program.Serves target type) :=
  inferInstanceAs (Decidable (_ ∨ _))

namespace Catalog

/-- The program answers as the catalog does, whose walks all end. -/
structure Describes (catalog : Catalog) (program : Program) : Prop where
  genericDefinition (type : TypeExpr) :
    program.genericDefinition type = catalog.genericDefinition type
  baseTypes (type : TypeExpr) :
    ∃ depth, catalog.baseTypes? depth type = some (program.baseTypes type)

/-- The type is `target`, or has it among its ancestors. -/
def IsA (catalog : Catalog) (type target : TypeExpr) : Prop :=
  type.same target ∨ ∃ base, catalog.Ancestor type base ∧ base.same target

variable {catalog : Catalog} {a b c : TypeExpr}

theorem definition?_congr (h : a.same b) : catalog.definition? a = catalog.definition? b := by
  unfold definition? TypeExpr.isNamed
  rw [TypeExpr.kind_eq_of_same h, TypeExpr.name_eq_of_same h]

theorem mem_of_definition? {d : Definition} (h : catalog.definition? a = some d) :
    d ∈ catalog.definitions := by
  unfold definition? at h
  split at h
  · exact List.mem_of_find?_eq_some h
  · cases h

theorem name_of_definition? {d : Definition} (h : catalog.definition? a = some d) :
    d.type.name = a.name := by
  unfold definition? at h
  split at h
  · simpa using List.find?_some h
  · cases h

/-- A base is one that the definition declares, over the arguments of the type. -/
theorem declared_of_mem_directBases {base : TypeExpr} (h : base ∈ catalog.directBases a) :
    ∃ d, catalog.definition? a = some d ∧
      ∃ declared ∈ d.bases, base = declared.substitute (d.type.bindings a) := by
  unfold directBases at h
  split at h
  · next d hd =>
    obtain ⟨declared, hdeclared, rfl⟩ := List.mem_map.1 h
    exact ⟨d, hd, declared, hdeclared, rfl⟩
  · cases h

theorem directBases_congr (h : a.same b) {base : TypeExpr} (hbase : base ∈ catalog.directBases a) :
    ∃ other ∈ catalog.directBases b, other.same base := by
  obtain ⟨d, hd, declared, hdeclared, rfl⟩ := declared_of_mem_directBases hbase
  rw [directBases, ← definition?_congr h, hd]
  refine ⟨_, List.mem_map_of_mem hdeclared, ?_⟩
  exact TypeExpr.same_substitute (TypeExpr.same_refl _) (TypeExpr.bindings_congr d.type h).symm

theorem Ancestor.congr (h : a.same b) {base : TypeExpr} (hbase : catalog.Ancestor a base) :
    ∃ other, catalog.Ancestor b other ∧ other.same base := by
  induction hbase with
  | direct hdirect =>
    obtain ⟨other, hother, hsame⟩ := directBases_congr h hdirect
    exact ⟨other, .direct hother, hsame⟩
  | further _ hdirect ih =>
    obtain ⟨middle, hmiddle, hsame⟩ := ih
    rw [TypeExpr.same_comm] at hsame
    obtain ⟨other, hother, hsame'⟩ := directBases_congr hsame hdirect
    exact ⟨other, hmiddle.further hother, hsame'⟩

theorem IsA.trans (hab : catalog.IsA a b) (hbc : catalog.IsA b c) : catalog.IsA a c := by
  -- what `a` is the same as, or descends from, stands for `b`
  have hthrough {x : TypeExpr} (hx : x.same b) :
      x.same c ∨ ∃ base, catalog.Ancestor x base ∧ base.same c := by
    rcases hbc with hsame | ⟨base, hbase, hsame⟩
    · exact Or.inl (TypeExpr.same_trans hx hsame)
    · rw [TypeExpr.same_comm] at hx
      obtain ⟨other, hother, hsame'⟩ := hbase.congr hx
      exact Or.inr ⟨other, hother, TypeExpr.same_trans hsame' hsame⟩
  rcases hab with hsame | ⟨base, hbase, hsame⟩
  · exact hthrough hsame
  · rcases hthrough hsame with hc | ⟨further, hfurther, hc⟩
    · exact Or.inr ⟨base, hbase, hc⟩
    · exact Or.inr ⟨further, hbase.trans hfurther, hc⟩

/-- Every direct base of the type is in the list. -/
def Covers (catalog : Catalog) (found : List TypeExpr) (type : TypeExpr) : Prop :=
  ∀ base ∈ catalog.directBases type, ∃ other ∈ found, other.same base

/-- The walk put ancestors of the type behind what was found before, with the direct bases of each
of them. -/
def Walks (catalog : Catalog) (type : TypeExpr) (found found' : List TypeExpr) : Prop :=
  ∃ new, found' = found ++ new ∧ ∀ x ∈ new, catalog.Ancestor type x ∧ catalog.Covers found' x

theorem Covers.append {found : List TypeExpr} (h : catalog.Covers found a) (new : List TypeExpr) :
    catalog.Covers (found ++ new) a := by
  intro base hbase
  obtain ⟨other, hother, hsame⟩ := h base hbase
  exact ⟨other, List.mem_append_left _ hother, hsame⟩

theorem Walks.trans {first second third : List TypeExpr} (h₁ : catalog.Walks a first second)
    (h₂ : catalog.Walks a second third) : catalog.Walks a first third := by
  obtain ⟨new₁, rfl, hnew₁⟩ := h₁
  obtain ⟨new₂, rfl, hnew₂⟩ := h₂
  refine ⟨new₁ ++ new₂, List.append_assoc _ _ _, fun x hx => ?_⟩
  rcases List.mem_append.1 hx with hx | hx
  · exact ⟨(hnew₁ x hx).1, (hnew₁ x hx).2.append new₂⟩
  · exact hnew₂ x hx

/-- A base that is new is put behind the others, and its ancestors behind it. -/
theorem Walks.enter {base : TypeExpr} (hbase : base ∈ catalog.directBases a)
    {found found' : List TypeExpr} (h : catalog.Walks base (found ++ [base]) found')
    (hcovers : catalog.Covers found' base) : catalog.Walks a found found' := by
  obtain ⟨new, rfl, hnew⟩ := h
  refine ⟨base :: new, by rw [List.append_assoc]; rfl, fun x hx => ?_⟩
  rcases List.mem_cons.1 hx with rfl | hx
  · exact ⟨.direct hbase, hcovers⟩
  · exact ⟨(Ancestor.direct hbase).trans (hnew x hx).1, (hnew x hx).2⟩

theorem walks_of_foldlM {depth : Nat}
    (ih : ∀ {found found' : List TypeExpr} {base : TypeExpr},
      catalog.addBases depth found base = some found' →
        catalog.Walks base found found' ∧ catalog.Covers found' base)
    {bases : List TypeExpr} (hbases : bases ⊆ catalog.directBases a) {found found' : List TypeExpr}
    (h : bases.foldlM (fun found base =>
      if TypeExpr.isNew found base then catalog.addBases depth (found ++ [base]) base
      else some found) found = some found') :
    catalog.Walks a found found' ∧ ∀ base ∈ bases, ∃ other ∈ found', other.same base := by
  induction bases generalizing found with
  | nil =>
    cases h
    exact ⟨⟨[], (List.append_nil _).symm, fun x hx => absurd hx List.not_mem_nil⟩,
      fun base hbase => absurd hbase List.not_mem_nil⟩
  | cons base bases ihBases =>
    obtain ⟨hbase, hbases⟩ := List.cons_subset.1 hbases
    rw [List.foldlM_cons] at h
    obtain ⟨middle, hmiddle, hrest⟩ := Option.bind_eq_some_iff.1 h
    have hfirst : catalog.Walks a found middle ∧ ∃ other ∈ middle, other.same base := by
      split at hmiddle
      · obtain ⟨hwalks, hcovers⟩ := ih hmiddle
        refine ⟨hwalks.enter hbase hcovers, base, ?_, TypeExpr.same_refl base⟩
        obtain ⟨new, rfl, -⟩ := hwalks
        simp
      · next hold =>
        cases hmiddle
        obtain ⟨other, hother, hsame⟩ := TypeExpr.not_isNew_iff.1 hold
        rw [TypeExpr.same_comm] at hsame
        exact ⟨⟨[], (List.append_nil _).symm, fun x hx => absurd hx List.not_mem_nil⟩, other,
          hother, hsame⟩
    obtain ⟨hwalks, hlisted⟩ := ihBases hbases hrest
    refine ⟨hfirst.1.trans hwalks, fun x hx => ?_⟩
    rcases List.mem_cons.1 hx with rfl | hx
    · obtain ⟨new, rfl, -⟩ := hwalks
      obtain ⟨other, hother, hsame⟩ := hfirst.2
      exact ⟨other, List.mem_append_left _ hother, hsame⟩
    · exact hlisted x hx

theorem walks_of_addBases {depth : Nat} {found found' : List TypeExpr}
    (h : catalog.addBases depth found a = some found') :
    catalog.Walks a found found' ∧ catalog.Covers found' a := by
  induction depth generalizing a found found' with
  | zero => cases h
  | succ depth ih => exact walks_of_foldlM ih (List.Subset.refl _) h

/-- The walk lists ancestors, and every ancestor that is not the type itself. -/
theorem ancestors_of_baseTypes? {depth : Nat} {bases : List TypeExpr}
    (h : catalog.baseTypes? depth a = some bases) :
    (∀ base ∈ bases, catalog.Ancestor a base) ∧
      ∀ base, catalog.Ancestor a base → ∃ other ∈ a :: bases, other.same base := by
  obtain ⟨found, hfound, rfl⟩ := Option.map_eq_some_iff.1 h
  obtain ⟨⟨new, rfl, hnew⟩, hcovers⟩ := walks_of_addBases hfound
  refine ⟨fun base hbase => (hnew base hbase).1, fun base hbase => ?_⟩
  induction hbase with
  | direct hdirect => exact hcovers _ hdirect
  | further _ hdirect ih =>
    obtain ⟨middle, hmiddle, hsame⟩ := ih
    rw [TypeExpr.same_comm] at hsame
    obtain ⟨other, hother, hsame'⟩ := directBases_congr hsame hdirect
    have hmiddleCovers : catalog.Covers (a :: new) middle := by
      rcases List.mem_cons.1 hmiddle with rfl | hmiddle
      · exact hcovers
      · exact (hnew middle hmiddle).2
    obtain ⟨listed, hlisted, hsame''⟩ := hmiddleCovers other hother
    exact ⟨listed, hlisted, TypeExpr.same_trans hsame'' hsame'⟩

section Described

variable {program : Program} (h : catalog.Describes program)
include h

theorem Describes.serves_iff : program.Serves b a ↔ catalog.IsA a b := by
  obtain ⟨depth, hbases⟩ := h.baseTypes a
  obtain ⟨hsound, hcomplete⟩ := ancestors_of_baseTypes? hbases
  constructor
  · rintro (hsame | ⟨base, hbase, hsame⟩)
    · exact Or.inl hsame
    · exact Or.inr ⟨base, hsound base hbase, hsame⟩
  · rintro (hsame | ⟨base, hbase, hsame⟩)
    · exact Or.inl hsame
    · obtain ⟨other, hother, hsame'⟩ := hcomplete base hbase
      have hsame := TypeExpr.same_trans hsame' hsame
      rcases List.mem_cons.1 hother with rfl | hother
      · exact Or.inl hsame
      · exact Or.inr ⟨other, hother, hsame⟩

/-- What serves for a type serves for whatever that type serves for. -/
theorem Describes.serves_trans (hbc : program.Serves c b) (hab : program.Serves b a) :
    program.Serves c a := by
  rw [h.serves_iff] at hbc hab ⊢
  exact hab.trans hbc

end Described

theorem isSome_foldlM {α β : Type} {P : β → Prop} {f : β → α → Option β} {xs : List α}
    (h : ∀ x ∈ xs, ∀ acc, P acc → ∃ next, f acc x = some next ∧ P next) {acc : β} (hacc : P acc) :
    (xs.foldlM f acc).isSome := by
  induction xs generalizing acc with
  | nil => rfl
  | cons x xs ih =>
    obtain ⟨next, hnext, hP⟩ := h x List.mem_cons_self acc hacc
    rw [List.foldlM_cons, hnext]
    exact ih (fun y hy => h y (List.mem_cons_of_mem _ hy)) hP

/-- Walks that go down a rank of names end. -/
theorem addBases_isSome_of_rank {rank : String → Nat}
    (hrank : ∀ d ∈ catalog.definitions, ∀ base ∈ d.bases,
      base.kind ≠ .parameter ∧ rank base.name < rank d.type.name)
    {depth : Nat} (found : List TypeExpr) (hdepth : rank a.name < depth) :
    (catalog.addBases depth found a).isSome := by
  induction depth generalizing a found with
  | zero => cases hdepth
  | succ depth ih =>
    refine isSome_foldlM (P := fun _ => True) (fun base hbase found _ => ?_) trivial
    split
    · suffices hlower : rank base.name < depth by
        obtain ⟨next, hnext⟩ := Option.isSome_iff_exists.1 (ih (found ++ [base]) hlower)
        exact ⟨next, hnext, trivial⟩
      obtain ⟨d, hd, declared, hdeclared, rfl⟩ := declared_of_mem_directBases hbase
      obtain ⟨hkind, hlower⟩ := hrank d (mem_of_definition? hd) declared hdeclared
      rw [TypeExpr.substitute_eq hkind]
      rw [name_of_definition? hd] at hlower
      exact Nat.lt_of_lt_of_le hlower (Nat.le_of_lt_succ hdepth)
    · exact ⟨found, rfl, trivial⟩

end Catalog
end Wiring
