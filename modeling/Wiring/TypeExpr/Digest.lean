import Wiring.TypeExpr.Identity

/-!
What a table that hashes its keys reads of a type: kind, name and number of arguments, then the
arguments in turn. Annotations are left out, and nothing else is: two types are read alike exactly
when they are the same.
-/

namespace Wiring.TypeExpr

inductive DigestPart where
  | kind (kind : TypeKind)
  | name (name : String)
  | count (count : Nat)
  deriving DecidableEq, Repr

mutual
def digest : TypeExpr → List DigestPart
  | ⟨kind, name, args, _⟩ => .kind kind :: .name name :: .count args.length :: digestAll args

def digestAll : List TypeExpr → List DigestPart
  | [] => []
  | type :: types => type.digest ++ digestAll types
end

theorem digest_unannotated (type : TypeExpr) : type.unannotated.digest = type.digest := by
  induction type with
  | mk kind name args nullable ih =>
    have hargs : digestAll (unannotatedAll args) = digestAll args := by
      induction args with
      | nil => rfl
      | cons arg args ihs =>
        obtain ⟨harg, hrest⟩ := List.forall_mem_cons.1 ih
        simp only [unannotatedAll, digestAll, harg, ihs hrest]
    have hlength : (unannotatedAll args).length = args.length := by
      rw [unannotatedAll_eq_map, List.length_map]
    simp only [unannotated, digest, hargs, hlength]

/-- The digest of a type shows where it ends, as the number of arguments comes before them. -/
theorem digest_append_inj {a b : TypeExpr} {rest rest' : List DigestPart}
    (h : a.digest ++ rest = b.digest ++ rest') : a.same b ∧ rest = rest' := by
  induction a generalizing b rest rest' with
  | mk kind name args nullable ih =>
    obtain ⟨kind', name', args', nullable'⟩ := b
    simp only [digest, List.cons_append, List.cons.injEq, DigestPart.kind.injEq,
      DigestPart.name.injEq, DigestPart.count.injEq] at h
    obtain ⟨rfl, rfl, hlength, hargs⟩ := h
    have hall : sameAll args args' ∧ rest = rest' := by
      induction args generalizing args' with
      | nil =>
        obtain rfl : args' = [] := List.length_eq_zero_iff.1 hlength.symm
        exact ⟨rfl, hargs⟩
      | cons arg args ihs =>
        obtain ⟨arg', args', rfl⟩ := List.exists_cons_of_length_eq_add_one hlength.symm
        obtain ⟨hfirst, hothers⟩ := List.forall_mem_cons.1 ih
        simp only [digestAll, List.append_assoc] at hargs
        obtain ⟨harg, hrest⟩ := hfirst hargs
        obtain ⟨hsame, heq⟩ := ihs hothers args' (Nat.succ.inj hlength) hrest
        exact ⟨by rw [sameAll, harg, hsame]; rfl, heq⟩
    exact ⟨by simp [same, hall.1], hall.2⟩

theorem digest_eq_iff {a b : TypeExpr} : a.digest = b.digest ↔ a.same b := by
  constructor
  · intro h
    exact (digest_append_inj (congrArg (· ++ []) h)).1
  · intro h
    rw [← digest_unannotated a, same_iff.1 h, digest_unannotated]

end Wiring.TypeExpr
