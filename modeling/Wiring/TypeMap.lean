import Wiring.TypeExpr.Identity

/-!
Tables keyed by types up to annotations. Entries stand in the order in which their keys came, and
a key stays as it was written first.
-/

namespace Wiring

abbrev TypeMap (α : Type) := List (TypeExpr × α)

namespace TypeMap

variable {α : Type}

def get? (map : TypeMap α) (type : TypeExpr) : Option α :=
  (map.find? fun entry => entry.1.same type).map (·.2)

/-- Applies `change` to the value of `type`; a key that is new gets `change none`. -/
def alter (map : TypeMap α) (type : TypeExpr) (change : Option α → α) : TypeMap α :=
  match map with
  | [] => [(type, change none)]
  | (key, value) :: rest =>
    if key.same type then (key, change (some value)) :: rest
    else (key, value) :: alter rest type change

def insert (map : TypeMap α) (type : TypeExpr) (value : α) : TypeMap α :=
  map.alter type fun _ => value

def keys (map : TypeMap α) : List TypeExpr := map.map (·.1)

@[simp] theorem get?_nil (type : TypeExpr) : get? ([] : TypeMap α) type = none := rfl

theorem get?_cons (key : TypeExpr) (value : α) (map : TypeMap α) (type : TypeExpr) :
    get? ((key, value) :: map) type = if key.same type then some value else get? map type := by
  by_cases h : key.same type <;> simp [get?, h]

/-- Types that are the same have the same entry. -/
theorem get?_congr (map : TypeMap α) {a b : TypeExpr} (h : a.same b) : map.get? a = map.get? b := by
  induction map with
  | nil => rfl
  | cons entry map ih =>
    obtain ⟨key, value⟩ := entry
    rw [get?_cons, get?_cons, ih, TypeExpr.same_congr key h]

theorem get?_alter (map : TypeMap α) (type other : TypeExpr) (change : Option α → α) :
    (map.alter type change).get? other =
      if type.same other then some (change (map.get? type)) else map.get? other := by
  induction map with
  | nil => simp [alter, get?_cons]
  | cons entry map ih =>
    obtain ⟨key, value⟩ := entry
    by_cases h : key.same type
    · simp only [alter, h, if_true, get?_cons, ← TypeExpr.congr_same h other]
      split <;> rfl
    · simp only [alter, h, if_false, get?_cons, ih, Bool.false_eq_true]
      by_cases ho : key.same other
      · have : ¬ type.same other := fun ht =>
          h (TypeExpr.same_trans ho (by rwa [TypeExpr.same_comm]))
        simp [ho, this]
      · simp [ho]

/-- An entry of a changed table is an old one, or has the changed value. -/
theorem mem_alter {map : TypeMap α} {type : TypeExpr} {change : Option α → α}
    {entry : TypeExpr × α} (h : entry ∈ map.alter type change) :
    entry ∈ map ∨ entry.2 = change (map.get? type) := by
  induction map with
  | nil => exact Or.inr (congrArg Prod.snd (List.mem_singleton.1 h))
  | cons first map ih =>
    obtain ⟨key, value⟩ := first
    rw [get?_cons]
    unfold alter at h
    split at h
    · next hkey =>
      rw [if_pos hkey]
      rcases List.mem_cons.1 h with rfl | hrest
      · exact Or.inr rfl
      · exact Or.inl (List.mem_cons_of_mem _ hrest)
    · next hkey =>
      rw [if_neg hkey]
      rcases List.mem_cons.1 h with rfl | hrest
      · exact Or.inl List.mem_cons_self
      · exact (ih hrest).imp_left (List.mem_cons_of_mem _)

theorem get?_insert (map : TypeMap α) (type other : TypeExpr) (value : α) :
    (map.insert type value).get? other = if type.same other then some value else map.get? other :=
  get?_alter map type other _

theorem get?_eq_some {map : TypeMap α} {type : TypeExpr} {value : α}
    (h : map.get? type = some value) : ∃ entry ∈ map, entry.1.same type ∧ entry.2 = value := by
  obtain ⟨entry, hentry, hvalue⟩ := Option.map_eq_some_iff.1 h
  have hkey : entry.1.same type := by simpa using List.find?_some hentry
  exact ⟨entry, List.mem_of_find?_eq_some hentry, hkey, hvalue⟩

theorem get?_eq_none {map : TypeMap α} {type : TypeExpr} :
    map.get? type = none ↔ ∀ entry ∈ map, ¬ entry.1.same type := by
  simp [get?]

/-- Where no key comes twice, each entry is found. -/
theorem get?_of_mem {map : TypeMap α}
    (h : map.Pairwise fun first second => ¬ first.1.same second.1) {entry : TypeExpr × α}
    (hentry : entry ∈ map) : map.get? entry.1 = some entry.2 := by
  induction map with
  | nil => cases hentry
  | cons first map ih =>
    obtain ⟨hfirst, hrest⟩ := List.pairwise_cons.1 h
    rcases List.mem_cons.1 hentry with rfl | hentry
    · rw [get?_cons, if_pos (TypeExpr.same_refl _)]
    · rw [get?_cons, if_neg (hfirst entry hentry), ih hrest hentry]

/-- A new key comes last. -/
theorem insert_of_get?_eq_none {map : TypeMap α} {type : TypeExpr} (h : map.get? type = none)
    (value : α) : map.insert type value = map ++ [(type, value)] := by
  induction map with
  | nil => rfl
  | cons entry map ih =>
    obtain ⟨key, old⟩ := entry
    obtain ⟨hkey, hrest⟩ := List.forall_mem_cons.1 (get?_eq_none.1 h)
    rw [insert, alter, if_neg hkey]
    exact congrArg _ (ih (get?_eq_none.2 hrest))

end TypeMap
end Wiring
