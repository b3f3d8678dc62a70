import Wiring.TypeExpr.Basic

/-!
Identity of types up to annotations. `same` decides it; `unannotated` clears the annotations at
every level, and two types are the same exactly when that makes them equal.
-/

namespace Wiring.TypeExpr

mutual
def same : TypeExpr → TypeExpr → Bool
  | ⟨k, n, as, _⟩, ⟨k', n', bs, _⟩ => decide (k = k') && decide (n = n') && sameAll as bs

def sameAll : List TypeExpr → List TypeExpr → Bool
  | [], [] => true
  | a :: as, b :: bs => a.same b && sameAll as bs
  | [], _ :: _ => false
  | _ :: _, [] => false
end

mutual
def unannotated : TypeExpr → TypeExpr
  | ⟨kind, name, args, _⟩ => ⟨kind, name, unannotatedAll args, false⟩

def unannotatedAll : List TypeExpr → List TypeExpr
  | [] => []
  | type :: types => type.unannotated :: unannotatedAll types
end

/-- No type of `seen` is the same. -/
def isNew (seen : List TypeExpr) (type : TypeExpr) : Bool := !seen.any (same type)

/-- For each type, whether neither `seen` nor the list before it has the same type. -/
def firstOccurrences (seen : List TypeExpr) : List TypeExpr → List Bool
  | [] => []
  | type :: types => isNew seen type :: firstOccurrences (type :: seen) types

theorem unannotatedAll_eq_map (types : List TypeExpr) :
    unannotatedAll types = types.map unannotated := by
  induction types with
  | nil => rfl
  | cons type types ih => simp [unannotatedAll, ih]

theorem same_iff {a b : TypeExpr} : a.same b ↔ a.unannotated = b.unannotated := by
  induction a generalizing b with
  | mk kind name args nullable ih =>
    obtain ⟨kind', name', args', nullable'⟩ := b
    have hargs : sameAll args args' ↔ unannotatedAll args = unannotatedAll args' := by
      induction args generalizing args' with
      | nil => cases args' <;> simp [sameAll, unannotatedAll]
      | cons a as ihs =>
        cases args' with
        | nil => simp [sameAll, unannotatedAll]
        | cons b bs =>
          simp only [sameAll, unannotatedAll, Bool.and_eq_true, List.cons.injEq,
            ih a (by simp), ihs (fun x hx => ih x (by simp [hx]))]
    simp [same, unannotated, hargs, and_assoc]

theorem unannotated_unannotated (type : TypeExpr) :
    type.unannotated.unannotated = type.unannotated := by
  induction type with
  | mk kind name args nullable ih =>
    simp only [unannotated, unannotatedAll_eq_map, List.map_map, mk.injEq, and_true, true_and]
    exact List.map_congr_left ih

/-- Clearing the annotations leaves the same type. -/
theorem same_unannotated (type : TypeExpr) : type.same type.unannotated :=
  same_iff.2 (unannotated_unannotated type).symm

@[simp] theorem same_refl (a : TypeExpr) : a.same a := same_iff.2 rfl

theorem same_comm (a b : TypeExpr) : a.same b = b.same a := by
  rw [Bool.eq_iff_iff, same_iff, same_iff, eq_comm]

theorem same_trans {a b c : TypeExpr} (hab : a.same b) (hbc : b.same c) : a.same c :=
  same_iff.2 ((same_iff.1 hab).trans (same_iff.1 hbc))

theorem same_congr (a : TypeExpr) {b c : TypeExpr} (h : b.same c) : a.same b = a.same c := by
  rw [Bool.eq_iff_iff, same_iff, same_iff, same_iff.1 h]

theorem congr_same {a b : TypeExpr} (h : a.same b) (c : TypeExpr) : a.same c = b.same c := by
  rw [Bool.eq_iff_iff, same_iff, same_iff, same_iff.1 h]

theorem kind_eq_of_same {a b : TypeExpr} (h : a.same b) : a.kind = b.kind := by
  obtain ⟨kind, name, args, nullable⟩ := a
  obtain ⟨kind', name', args', nullable'⟩ := b
  have hkind := congrArg TypeExpr.kind (same_iff.1 h)
  simpa only [unannotated] using hkind

theorem name_eq_of_same {a b : TypeExpr} (h : a.same b) : a.name = b.name := by
  obtain ⟨kind, name, args, nullable⟩ := a
  obtain ⟨kind', name', args', nullable'⟩ := b
  have hname := congrArg TypeExpr.name (same_iff.1 h)
  simpa only [unannotated] using hname

theorem isOpen_unannotated (type : TypeExpr) : type.unannotated.isOpen = type.isOpen := by
  induction type with
  | mk kind name args nullable ih =>
    have hargs : anyOpen (unannotatedAll args) = anyOpen args := by
      induction args with
      | nil => rfl
      | cons arg args ihs =>
        simp only [unannotatedAll, anyOpen, ih arg (by simp), ihs fun x hx => ih x (by simp [hx])]
    simp [unannotated, isOpen, hargs]

/-- Annotations do not open a type. -/
theorem isClosed_congr {a b : TypeExpr} (h : a.same b) : a.isClosed = b.isClosed := by
  unfold isClosed
  rw [← isOpen_unannotated a, same_iff.1 h, isOpen_unannotated]

theorem isNew_iff {seen : List TypeExpr} {type : TypeExpr} :
    isNew seen type ↔ ∀ other ∈ seen, ¬ type.same other := by
  simp [isNew]

theorem not_isNew_iff {seen : List TypeExpr} {type : TypeExpr} :
    ¬ isNew seen type ↔ ∃ other ∈ seen, type.same other := by
  simp [isNew]

theorem isNew_of_subset {seen more : List TypeExpr} (h : seen ⊆ more) {type : TypeExpr}
    (hnew : isNew more type) : isNew seen type :=
  isNew_iff.2 fun other hother => isNew_iff.1 hnew other (h hother)

theorem isNew_of_same {seen : List TypeExpr} {a b : TypeExpr} (h : a.same b) (hnew : isNew seen b) :
    isNew seen a :=
  isNew_iff.2 fun other hother hsame => isNew_iff.1 hnew other hother
    (same_trans (by rwa [same_comm]) hsame)

theorem not_isNew_of_subset {seen more : List TypeExpr} (h : seen ⊆ more) {type : TypeExpr}
    (hknown : ¬ isNew seen type) : ¬ isNew more type :=
  fun hnew => hknown (isNew_of_subset h hnew)

theorem not_isNew_of_mem {seen : List TypeExpr} {type : TypeExpr} (h : type ∈ seen) :
    ¬ isNew seen type :=
  not_isNew_iff.2 ⟨type, h, same_refl type⟩

theorem not_same_of_isNew {seen : List TypeExpr} {a b : TypeExpr} (hknown : ¬ isNew seen a)
    (hnew : isNew seen b) : ¬ a.same b :=
  fun hsame => hknown (isNew_of_same hsame hnew)

theorem same_of_not_isNew_cons {seen : List TypeExpr} {a b : TypeExpr} (hnew : isNew seen b)
    (hknown : ¬ isNew (a :: seen) b) : b.same a := by
  obtain ⟨other, hother, hsame⟩ := not_isNew_iff.1 hknown
  rcases List.mem_cons.1 hother with rfl | hseen
  · exact hsame
  · exact absurd hsame (isNew_iff.1 hnew other hseen)

end Wiring.TypeExpr
