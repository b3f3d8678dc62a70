import Mathlib.Data.List.Nodup
import Wiring.Proofs.Check.Index

/-!
The journal as a record of the checks. The check of a registration is recorded once, and what else
it records are checks of registrations that it added. So checking registrations one after another,
none of them twice, records no check of a registration twice.
-/

namespace Wiring

/-- The check on record: of which registration, and what it worked out. -/
def Event.check? : Event → Option (RegistrationId × List ParameterResolution)
  | resolved id parameters => some (id, parameters)
  | warned _ | fallbackAsked .. | specialized _ => none

theorem Event.check?_eq_none_of_isRemark {event : Event} (h : event.isRemark) :
    event.check? = none := by
  cases event with
  | warned _ => rfl
  | fallbackAsked _ _ _ => rfl
  | specialized _ => cases h
  | resolved _ _ => cases h

namespace Container

/-- The checks on record, oldest first. -/
def checks (c : Container) : List (RegistrationId × List ParameterResolution) :=
  c.journal.filterMap Event.check?

/-- The checks recorded between the two are of registrations in `scope`, each of another one. -/
structure Records (scope : RegistrationId → Prop) (a b : Container) : Prop where
  size_le : a.size ≤ b.size
  once : ∃ new, b.checks = a.checks ++ new ∧ (new.map (·.1)).Nodup ∧
    ∀ check ∈ new, scope check.1 ∧ check.1 < b.size

namespace Records

variable {a b c : Container} {p q : RegistrationId → Prop}

theorem of_eq (hsize : a.size ≤ b.size) (hchecks : b.checks = a.checks) : Records p a b where
  size_le := hsize
  once := ⟨[], by rw [hchecks, List.append_nil], List.nodup_nil,
    fun check hcheck => absurd hcheck List.not_mem_nil⟩

theorem mono (h : Records p a b) (hp : ∀ id, p id → q id) : Records q a b := by
  obtain ⟨new, hnew, hnodup, hscope⟩ := h.once
  exact ⟨h.size_le, new, hnew, hnodup, fun check hcheck =>
    ⟨hp check.1 (hscope check hcheck).1, (hscope check hcheck).2⟩⟩

theorem trans (hab : Records p a b) (hbc : Records q b c)
    (hdisjoint : ∀ id, p id → id < b.size → ¬ q id) : Records (fun id => p id ∨ q id) a c := by
  obtain ⟨first, hfirst, hfirstNodup, hp⟩ := hab.once
  obtain ⟨second, hsecond, hsecondNodup, hq⟩ := hbc.once
  refine ⟨Nat.le_trans hab.size_le hbc.size_le, first ++ second, ?_, ?_, ?_⟩
  · rw [hsecond, hfirst, List.append_assoc]
  · rw [List.map_append]
    refine hfirstNodup.append hsecondNodup fun id hid hid' => ?_
    obtain ⟨check, hcheck, rfl⟩ := List.mem_map.1 hid
    obtain ⟨check', hcheck', hsame⟩ := List.mem_map.1 hid'
    refine hdisjoint check.1 (hp check hcheck).1 (hp check hcheck).2 ?_
    rw [← hsame]
    exact (hq check' hcheck').1
  · intro check hcheck
    rcases List.mem_append.1 hcheck with hcheck | hcheck
    · exact ⟨Or.inl (hp check hcheck).1, Nat.lt_of_lt_of_le (hp check hcheck).2 hbc.size_le⟩
    · exact ⟨Or.inr (hq check hcheck).1, (hq check hcheck).2⟩

end Records

theorem checks_note (c : Container) (event : Event) :
    (c.note event).checks = c.checks ++ event.check?.toList := by
  unfold checks note
  rw [List.filterMap_append]
  cases h : event.check? <;> simp [h]

theorem size_enlist (c : Container) (element : TypeExpr) (member : RegistrationId) :
    (c.enlist element member).size = c.size := by
  unfold enlist
  split
  · exact List.length_modify _ _ _
  · rfl

theorem size_le_addSpecialization (c : Container) (ctx : Context) (template : Service) :
    c.size ≤ (c.addSpecialization ctx template).size := by
  refine addSpecialization_induct (P := fun b => c.size ≤ b.size) c template ?_ ?_ ?_
  · have hadded := size_add c ctx template
    exact Nat.le_of_lt (Nat.lt_of_lt_of_eq c.size.lt_succ_self hadded.symm)
  · intro b base _ hb
    rw [size_add]
    exact Nat.le_succ_of_le hb
  · intro b element hb
    rwa [size_enlist]

theorem checks_entered (c : Container) (ctx : Context) (target : TypeExpr)
    (source : Registration) : (c.entered ctx target source).checks = c.checks := by
  unfold checks
  rw [entered_journal, List.filterMap_append]
  exact List.append_nil _

theorem checks_conclude (ctx : Context) (c : Container) (id : RegistrationId)
    (resolution : Resolution) :
    (conclude ctx c id resolution).1.checks = c.checks ++ [(id, resolution.parameters)] := by
  rw [conclude_fst, checks_note, checks, store_journal]
  rfl

theorem size_conclude (ctx : Context) (c : Container) (id : RegistrationId)
    (resolution : Resolution) : (conclude ctx c id resolution).1.size = c.size := by
  rw [conclude_fst]
  exact congrArg List.length (store_registrations c resolution)

/-- Resolving parameters records checks of new registrations only, and the check of a registration
records besides these its own. -/
theorem keeps_records (ctx : Context) :
    Keeps ctx (fun _ a b => Records (a.size ≤ ·) a b)
      fun id _ a b => Records (fun k => k = id ∨ a.size ≤ k) a b where
  refl _ c := .of_eq (Nat.le_refl _) rfl
  trans hab hbc := by
    have hsize := hab.size_le
    refine (hab.trans hbc fun id _ hlt hle => absurd hle (Nat.not_le_of_lt hlt)).mono ?_
    rintro id (hid | hid)
    · exact hid
    · exact Nat.le_trans hsize hid
  remark c event hremark := by
    refine .of_eq (Nat.le_refl _) ?_
    rw [checks_note, Event.check?_eq_none_of_isRemark hremark]
    exact List.append_nil _
  family _ _ _ := .of_eq (grows_addAll _ ctx _).size_le rfl
  redirect _ _ _ := .of_eq (grows_add _ ctx _).size_le rfl
  nested := by
    intro c target source levels s _ _ _ _ hchecked
    have hentered : Records (fun _ => False) c (c.entered ctx target source) :=
      .of_eq (size_le_addSpecialization c ctx _) (checks_entered c ctx target source)
    have hafter : Records (c.size ≤ ·) c s.1 := by
      have hsize := hentered.size_le
      refine (hentered.trans hchecked fun _ hfalse => hfalse.elim).mono ?_
      rintro id (hfalse | rfl | hid)
      · exact hfalse.elim
      · exact Nat.le_refl _
      · exact Nat.le_trans hsize hid
    exact ⟨hafter.size_le, hafter.once⟩
  stopped id _ _ _ h := h.mono fun _ => Or.inr
  conclude := by
    intro a b id r levels construction parameters hr _ _ h
    let resolution : Resolution := ⟨r.resolvedType, r.lifetime, construction, parameters⟩
    have hlt : id < a.size := registration?_eq_some_lt hr
    have hown : Records (· = id) b (conclude ctx b id resolution).1 := by
      refine ⟨Nat.le_of_eq (size_conclude ctx b id resolution).symm, [(id, parameters)],
        checks_conclude ctx b id resolution, List.nodup_singleton id, fun check hcheck => ?_⟩
      rw [List.mem_singleton.1 hcheck, size_conclude]
      exact ⟨rfl, Nat.lt_of_lt_of_le hlt h.size_le⟩
    refine (h.trans hown ?_).mono fun k hk => hk.symm
    rintro k hk - rfl
    exact absurd hlt (Nat.not_lt_of_le hk)

/-- What checks that pass put on record is satisfied. -/
theorem kept_satisfied (ctx : Context) : Kept ctx fun ok a b => ok →
    ∃ new, b.checks = a.checks ++ new ∧ ∀ check ∈ new, check.2.all (·.isSatisfied) where
  refl _ c _ := ⟨[], (List.append_nil _).symm, fun _ hcheck => absurd hcheck List.not_mem_nil⟩
  trans hab hbc hok := by
    obtain ⟨first, hfirst, hfirstSatisfied⟩ := hab rfl
    obtain ⟨second, hsecond, hsecondSatisfied⟩ := hbc hok
    refine ⟨first ++ second, by rw [hsecond, hfirst, List.append_assoc], fun check hcheck => ?_⟩
    exact (List.mem_append.1 hcheck).elim (hfirstSatisfied check) (hsecondSatisfied check)
  remark c event hremark _ := by
    refine ⟨[], ?_, fun _ hcheck => absurd hcheck List.not_mem_nil⟩
    rw [checks_note, Event.check?_eq_none_of_isRemark hremark]
    rfl
  family _ _ _ _ := ⟨[], (List.append_nil _).symm, fun _ hcheck => absurd hcheck List.not_mem_nil⟩
  redirect _ _ _ _ :=
    ⟨[], (List.append_nil _).symm, fun _ hcheck => absurd hcheck List.not_mem_nil⟩
  nested {c target source} _ _ _ _ _ _ h hok := by
    have hentered := checks_entered c ctx target source
    rw [← hentered]
    exact h hok
  stopped _ _ _ _ h := h
  conclude {a b id r levels construction parameters} _ _ _ h hok := by
    obtain ⟨new, hnew, hsatisfied⟩ := h rfl
    refine ⟨new ++ [(id, parameters)], ?_, fun check hcheck => ?_⟩
    · rw [checks_conclude, hnew, List.append_assoc]
    · rcases List.mem_append.1 hcheck with hnested | hown
      · exact hsatisfied check hnested
      · rw [List.mem_singleton.1 hown]
        exact hok

/-- Checking registrations, each once, records each check once. -/
theorem records_checkEach (ctx : Context) {c : Container} {ids : List RegistrationId}
    (hnodup : ids.Nodup) (hids : ∀ id ∈ ids, id < c.size) :
    Records (fun k => k ∈ ids ∨ c.size ≤ k) c (checkEach ctx c ids).1 := by
  induction ids generalizing c with
  | nil => exact .of_eq (Nat.le_refl _) rfl
  | cons first rest ih =>
    obtain ⟨hfresh, hrestNodup⟩ := List.nodup_cons.1 hnodup
    have hrestIds : ∀ id ∈ rest, id < c.size := fun id hid => hids id (List.mem_cons_of_mem _ hid)
    unfold checkEach
    split
    · have hfirst := (keeps_records ctx).check c first
      split
      · next hs =>
        rw [hs] at hfirst
        refine hfirst.mono ?_
        rintro k (rfl | hk)
        · exact Or.inl List.mem_cons_self
        · exact Or.inr hk
      next middle hs =>
      rw [hs] at hfirst
      have hsize := hfirst.size_le
      have hrest := ih hrestNodup fun id hid => Nat.lt_of_lt_of_le (hrestIds id hid) hsize
      refine (hfirst.trans hrest ?_).mono ?_
      · rintro k (rfl | hk) hlt (hmem | hle)
        · exact hfresh hmem
        · exact absurd hlt (Nat.not_lt_of_le hle)
        · exact absurd (hrestIds k hmem) (Nat.not_lt_of_le hk)
        · exact absurd hlt (Nat.not_lt_of_le hle)
      · rintro k ((rfl | hk) | (hmem | hle))
        · exact Or.inl List.mem_cons_self
        · exact Or.inr hk
        · exact Or.inl (List.mem_cons_of_mem _ hmem)
        · exact Or.inr (Nat.le_trans hsize hle)
    · exact (ih hrestNodup hrestIds).mono fun k hk => hk.imp_left (List.mem_cons_of_mem _)

end Container
end Wiring
