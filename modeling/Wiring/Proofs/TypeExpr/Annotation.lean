import Mathlib.Data.List.Forall2
import Wiring.Proofs.TypeExpr.Substitution
import Wiring.Settings.Basic

/-!
What types that are the same have in common: everything that is read off their names, kinds and
arguments, up to annotations. What settings see in them is the same too, except that an annotation
makes a type nullable.
-/

namespace Wiring

/-- Lists with one image are alike, each in its place. -/
theorem forall₂_of_map_eq {α β : Type} {f : α → β} {xs ys : List α} (h : xs.map f = ys.map f) :
    List.Forall₂ (fun x y => f x = f y) xs ys := by
  have himages : List.Forall₂ Eq (xs.map f) (ys.map f) := by rwa [List.forall₂_eq_eq_eq]
  rwa [List.forall₂_map_left_iff, List.forall₂_map_right_iff] at himages

namespace TypeExpr

variable {a b : TypeExpr}

theorem args_of_same (h : a.same b) : a.args.map unannotated = b.args.map unannotated := by
  obtain ⟨kind, name, args, nullable⟩ := a
  obtain ⟨kind', name', args', nullable'⟩ := b
  have hargs := congrArg TypeExpr.args (same_iff.1 h)
  simpa only [unannotated, unannotatedAll_eq_map] using hargs

theorem length_args_of_same (h : a.same b) : a.args.length = b.args.length := by
  simpa using congrArg List.length (args_of_same h)

theorem same_of_parts (hkind : a.kind = b.kind) (hname : a.name = b.name)
    (hargs : a.args.map unannotated = b.args.map unannotated) : a.same b := by
  obtain ⟨kind, name, args, nullable⟩ := a
  obtain ⟨kind', name', args', nullable'⟩ := b
  simp only at hkind hname hargs
  rw [same_iff]
  simp only [unannotated, unannotatedAll_eq_map, hkind, hname, hargs]

theorem isNamed_congr (h : a.same b) : a.isNamed = b.isNamed := by
  unfold isNamed
  rw [kind_eq_of_same h]

theorem isGeneric_congr (h : a.same b) : a.isGeneric = b.isGeneric := by
  have hlength := length_args_of_same h
  unfold isGeneric
  rw [isNamed_congr h]
  congr 2
  rw [Bool.eq_iff_iff, List.isEmpty_iff_length_eq_zero, List.isEmpty_iff_length_eq_zero, hlength]

theorem same_bare (type : TypeExpr) : type.bare.same type :=
  same_of_parts rfl rfl rfl

/-- Generic types of the same name, over arguments that are the same. -/
theorem construct_congr (h : a.same b) {args others : List TypeExpr}
    (hargs : args.map unannotated = others.map unannotated) :
    (a.construct args).same (b.construct others) := by
  have hkind := kind_eq_of_same h
  have hname := name_eq_of_same h
  exact same_of_parts hkind hname hargs

/-- Annotations of a pattern bind nothing. -/
theorem bindAll_unannotated (pattern args : List TypeExpr) :
    bindAll (pattern.map unannotated) args = bindAll pattern args := by
  induction pattern generalizing args with
  | nil => rfl
  | cons parameter pattern ih =>
    cases args with
    | nil => rfl
    | cons arg args =>
      obtain ⟨kind, name, own, nullable⟩ := parameter
      have hrest := ih args
      by_cases h : kind = .parameter <;>
        simpa [bindAll, unannotated, h] using hrest

theorem bindings_same {pattern other : TypeExpr} (hpattern : pattern.same other) (h : a.same b) :
    (pattern.bindings a).mapTypes unannotated = (other.bindings b).mapTypes unannotated := by
  rw [bindings_eq_bindAll, bindings_eq_bindAll, mapTypes_bindAll, mapTypes_bindAll,
    args_of_same h, ← bindAll_unannotated pattern.args, args_of_same hpattern, bindAll_unannotated]

theorem isNew_congr {found others : List TypeExpr}
    (hfound : found.map unannotated = others.map unannotated) (h : a.same b) :
    isNew found a = isNew others b := by
  have hany (type : TypeExpr) (types : List TypeExpr) :
      types.any (same type) = (types.map unannotated).any (same type) := by
    rw [List.any_map]
    congr 1
    funext other
    exact same_congr type (same_unannotated other)
  unfold isNew
  rw [hany a found, hfound, ← hany a others]
  congr 2
  funext other
  exact congr_same h other

theorem element?_congr (h : a.same b) :
    a.element?.map unannotated = b.element?.map unannotated := by
  have hhead := congrArg List.head? (args_of_same h)
  rw [List.head?_map, List.head?_map] at hhead
  unfold element? isArray
  rw [kind_eq_of_same h]
  split
  · exact hhead
  · rfl

end TypeExpr

namespace Settings

open TypeExpr

variable {a b : TypeExpr} (settings : Settings)

theorem argumentOf?_congr (name : String) (h : a.same b) :
    (argumentOf? name a).map unannotated = (argumentOf? name b).map unannotated := by
  have hargs := args_of_same h
  unfold argumentOf?
  rw [isNamed_congr h, name_eq_of_same h]
  generalize a.args = args at hargs ⊢
  generalize b.args = others at hargs ⊢
  match args with
  | [] =>
    obtain rfl : others = [] := by simpa using hargs.symm
    rfl
  | [arg] =>
    obtain ⟨other, rfl, hsame⟩ : ∃ other, others = [other] ∧ other.unannotated = arg.unannotated :=
      List.map_eq_singleton_iff.1 hargs.symm
    dsimp only
    split
    · exact congrArg some hsame.symm
    · rfl
  | first :: second :: rest =>
    obtain ⟨_, _, rfl, -, htail⟩ := List.map_eq_cons_iff.1 hargs.symm
    obtain ⟨_, _, rfl, -, -⟩ := List.map_eq_cons_iff.1 htail
    rfl

theorem collectionElement?_congr (h : a.same b) :
    (settings.collectionElement? a).map unannotated =
      (settings.collectionElement? b).map unannotated := by
  have hor (x y : Option TypeExpr) :
      (x <|> y).map unannotated = (x.map unannotated <|> y.map unannotated) := by cases x <;> rfl
  unfold collectionElement?
  simp only [hor, element?_congr h, argumentOf?_congr _ h]

theorem deferredInner?_congr (h : a.same b) :
    (settings.deferredInner? a).map unannotated = (settings.deferredInner? b).map unannotated := by
  unfold deferredInner?
  induction settings.deferred with
  | nil => rfl
  | cons name names ih =>
    have hfirst := argumentOf?_congr name h
    rw [List.findSome?_cons, List.findSome?_cons]
    cases ha : argumentOf? name a <;> cases hb : argumentOf? name b <;>
      simp only [ha, hb, Option.map_none, Option.map_some, reduceCtorEq] at hfirst ⊢
    · exact ih
    · exact hfirst

theorem unwrapNullable_fst_same (h : a.same b) :
    (settings.unwrapNullable a).1.same (settings.unwrapNullable b).1 := by
  have hinner := argumentOf?_congr settings.nullable h
  have hbare {x y : TypeExpr} (hxy : x.same y) : x.bare.same y.bare :=
    same_trans (same_bare x) (same_trans hxy (by rw [same_comm]; exact same_bare y))
  unfold unwrapNullable
  cases ha : argumentOf? settings.nullable a <;> cases hb : argumentOf? settings.nullable b <;>
    simp only [ha, hb, Option.map_none, Option.map_some, reduceCtorEq] at hinner ⊢
  · exact hbare h
  · exact hbare (same_iff.2 (Option.some.inj hinner))

/-- A type is nullable by its wrapper or by its own annotation. -/
theorem unwrapNullable_snd (type : TypeExpr) :
    (settings.unwrapNullable type).2 =
      ((argumentOf? settings.nullable type).isSome || type.nullable) := by
  unfold unwrapNullable
  cases argumentOf? settings.nullable type <;> rfl

theorem isSome_argumentOf?_congr (name : String) (h : a.same b) :
    (argumentOf? name a).isSome = (argumentOf? name b).isSome := by
  rw [← Option.isSome_map (f := unannotated), argumentOf?_congr name h, Option.isSome_map]

end Settings
end Wiring
