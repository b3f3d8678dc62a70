import Wiring.Proofs.Check.Regular

/-!
Where the registrations of an orderly run lead. A declared service leads to the service foretold for
it, unless a check has registered something under its implementation, and then to that or nowhere
else; and whatever checks register leads to what it stands for. So a collection gathers what was
foretold.
-/

namespace Wiring.Container

open Forecast

variable {ctx : Context} {services : List Service} {c : Container} {id : RegistrationId}
  {key : Option String} {type : TypeExpr} {found : Answer} {service template : Service}

/-- The redirection to a closed type constructs that type. -/
theorem role_redirectOf (h : IsTemplate ctx services template) (target : TypeExpr) :
    (redirectOf target template).role = template.role := by
  rw [Service.role, Service.role, Service.resolvedType, Service.resolvedType, h.plain.2.1]
  rfl

/-- Services at two places of the declared ones are two under their type. -/
theorem two_le_length_under {first second : RegistrationId} {earlier later : Service}
    (hlt : first < second) (hfirst : services[first]? = some earlier)
    (hsecond : services[second]? = some later) (hearlier : earlier ∈ under services key type)
    (hlater : later ∈ under services key type) : 2 ≤ (under services key type).length := by
  have hpair : [earlier, later].Sublist services := by
    rw [← List.take_append_drop second services]
    change ([earlier] ++ [later]).Sublist _
    refine List.Sublist.append ?_ ?_
    · exact List.singleton_sublist.2 (List.mem_of_getElem? (i := first) (by
        rw [List.getElem?_take_of_lt hlt, hfirst]))
    · exact List.singleton_sublist.2 (List.mem_of_getElem? (i := 0) (by
        rw [List.getElem?_drop, Nat.add_zero, hsecond]))
  have hfiltered := hpair.filter fun service => service.type.same type && service.key == key
  rw [List.filter_eq_self.2 fun service hmem => ?_] at hfiltered
  · exact hfiltered.length_le
  · have hunder : service ∈ under services key type := by
      rcases List.mem_cons.1 hmem with rfl | hmem
      · exact hearlier
      · rwa [List.mem_singleton.1 hmem]
    exact (List.mem_filter.1 hunder).2

theorem not_same_of_mem_servedBases {base closed : TypeExpr}
    (h : base ∈ servedBases ctx closed) : ¬ base.same closed := by
  have hserved := (List.mem_filter.1 h).2
  simp only [Bool.not_eq_true', Bool.or_eq_false_iff] at hserved
  rw [hserved.2]
  exact Bool.false_ne_true

theorem familyOf?_eq_none (hid : ¬ c.IsShape id) : c.familyOf? ctx id = none := by
  cases hfamily : c.familyOf? ctx id with
  | none => rfl
  | some family =>
    obtain ⟨element, hfamily, hmem⟩ := familyOf?_eq_some hfamily
    exact absurd ⟨element, family, hfamily, hmem⟩ hid

/-- A registration that names no other type as its implementation leads nowhere else. -/
theorem follow_eq_self (hshape : ¬ c.IsShape id) (hid : c.register[id]? = some service)
    (himplementation : ∀ implementation, service.implementation = some implementation →
      implementation.same service.type) : c.follow ctx id = id := by
  obtain ⟨r, hr, rfl⟩ := register_eq_some_iff.1 hid
  unfold follow
  rw [familyOf?_eq_none hshape, hr]
  dsimp only
  cases hr : r.implementation with
  | none => rfl
  | some implementation => exact if_pos (himplementation implementation hr)

theorem follow_eq_pick (hshape : ¬ c.IsShape id) (hid : c.register[id]? = some service)
    {implementation : TypeExpr} (himplementation : service.implementation = some implementation)
    (hother : ¬ implementation.same service.type) :
    c.follow ctx id =
      pick id id (fun next => next) (c.underKey service.key (c.servicesFor implementation)) := by
  obtain ⟨r, hr, rfl⟩ := register_eq_some_iff.1 hid
  have himplementation : r.implementation = some implementation := himplementation
  have hother : ¬ implementation.same r.type := hother
  unfold follow
  rw [familyOf?_eq_none hshape, hr]
  simp only [himplementation, if_neg hother]
  change _ = pick id id _ (c.underKey r.key (c.servicesFor implementation))
  match c.underKey r.key (c.servicesFor implementation) with
  | [] => rfl
  | [_] => rfl
  | _ :: _ :: _ => rfl

/-- What stands for a specialization under the type of it is that specialization. -/
theorem Arises.specialized (h : c.Arises ctx services (answerFor ctx services template) id service)
    (hsame : service.type.same template.type) :
    .specialized id ∈ c.journal ∧
      answerFor ctx services service = answerFor ctx services template := by
  generalize hfound : answerFor ctx services template = found at h
  cases h with
  | closed hclosed => exact ⟨hclosed, rfl⟩
  | base _ _ hbase =>
    exact absurd (TypeExpr.same_trans hsame (same_of_answerFor_eq hfound))
      (not_same_of_mem_servedBases (List.mem_of_getElem? hbase))
  | redirect _ _ hother _ _ _ _ _ _ =>
    rw [TypeExpr.same_comm] at hsame
    exact absurd (TypeExpr.same_trans (same_of_answerFor_eq hfound.symm) hsame) hother
  | shape _ _ => exact absurd hfound (answerFor_ne_collection _)

namespace Regular

/-- A declared service leads where it led before anything was checked, if its implementation is not
registered by a check. -/
theorem follow_lead (h : c.Regular ctx services) (hid : services[id]? = some service)
    (hfree : ∀ implementation, service.implementation = some implementation →
      ¬ implementation.same service.type → service.key = none →
      ∀ id other, c.register[id]? = some other → other.type.same implementation →
        id < services.length) :
    c.register[c.follow ctx id]? = some (lead services service) ∧
      c.follow ctx id < services.length := by
  have hlt : id < services.length := (List.getElem?_eq_some_iff.1 hid).1
  have hregister : c.register[id]? = some service := by rw [h.register_of_lt hlt, hid]
  unfold lead
  split
  · next hnone =>
    have hself : c.follow ctx id = id := follow_eq_self (h.not_isShape hlt) hregister
      fun _ hsome => by rw [hnone] at hsome; cases hsome
    rw [hself]
    exact ⟨hregister, hlt⟩
  next implementation himplementation =>
  split
  · next hsame =>
    rw [follow_eq_self (h.not_isShape hlt) hregister fun other hother => by
      rw [himplementation] at hother
      cases hother
      exact hsame]
    exact ⟨hregister, hlt⟩
  next hother =>
  have hfree := hfree implementation himplementation hother
  have hunder : List.Forall₂ _ (c.underKey service.key (c.servicesFor implementation)) _ :=
    h.forall₂_under hfree
  rw [follow_eq_pick (h.not_isShape hlt) hregister himplementation hother]
  generalize c.underKey service.key (c.servicesFor implementation) = ids at hunder ⊢
  cases hnames : under services service.key implementation with
  | nil =>
    rw [hnames] at hunder
    cases hunder
    exact ⟨hregister, hlt⟩
  | cons next rest =>
    rw [hnames] at hunder
    cases hunder with
    | @cons first _ _ _ hnext hrest =>
      cases hrest with
      | nil =>
        have hmem : next ∈ under services service.key implementation := by simp [hnames]
        obtain ⟨-, htype, hkey⟩ := mem_under.1 hmem
        exact ⟨hnext, h.lt_of_free hfree hnext htype hkey⟩
      | cons _ _ => exact ⟨hregister, hlt⟩

/-- A declared service leads to what was foretold. -/
theorem follow_leads (h : c.Regular ctx services) (ho : Orderly ctx services)
    (hid : services[id]? = some service) :
    ∃ next, c.register[c.follow ctx id]? = some next ∧ Leads ctx services service next.role ∧
      ¬ c.IsEnumerable (c.follow ctx id) := by
  by_cases hregistered : ∃ implementation, service.implementation = some implementation ∧
      ¬ implementation.same service.type ∧ service.key = none ∧
      ∃ (other : RegistrationId) (registered : Service), services.length ≤ other ∧
        c.register[other]? = some registered ∧ registered.type.same implementation
  · obtain ⟨implementation, himplementation, hother, hkey, place, registered, hle, hplace, htype⟩ :=
      hregistered
    have hlt : id < services.length := (List.getElem?_eq_some_iff.1 hid).1
    have hregister : c.register[id]? = some service := by rw [h.register_of_lt hlt, hid]
    obtain ⟨found, ha⟩ := h.arises place registered hle hplace
    have hregisters := h.registers ha hplace
    have hmem : place ∈ c.underKey none (c.servicesFor implementation) :=
      (mem_underKey_servicesFor h.arranged.coherent.listed).2
        ⟨registered, hplace, htype, hregisters.key_eq_none⟩
    rw [follow_eq_pick (h.not_isShape hlt) hregister himplementation hother, hkey]
    match hids : c.underKey none (c.servicesFor implementation) with
    | [] =>
      rw [hids] at hmem
      cases hmem
    | _ :: _ :: _ =>
      exact ⟨service, hregister, .itself hkey himplementation hother hregisters htype,
        h.not_isEnumerable hlt⟩
    | [only] =>
      rw [hids] at hmem
      obtain rfl := List.mem_singleton.1 hmem
      refine ⟨registered, hplace, .registered hkey himplementation hother hregisters htype ?_, ?_⟩
      · refine List.eq_nil_iff_forall_not_mem.2 fun declared hdeclared => ?_
        obtain ⟨first, hfirst, -, hunder⟩ := h.mem_underKey_of_mem_under hdeclared
        rw [hids] at hunder
        obtain rfl := List.mem_singleton.1 hunder
        exact absurd hfirst (Nat.not_lt_of_le hle)
      · intro henumerable
        obtain ⟨element, family, hfamily, hmem⟩ := henumerable.isShape
        exact ho.unshaped service registered implementation element.unannotated
          (List.mem_of_getElem? hid) hkey himplementation hother
          (h.registers (.shape hfamily hmem) hplace) htype
  · obtain ⟨hlead, hlt⟩ := h.follow_lead hid fun implementation himplementation hother hkey place
        registered hplace htype => by
      by_contra hle
      exact hregistered ⟨implementation, himplementation, hother, hkey, place, registered,
        Nat.le_of_not_lt hle, hplace, htype⟩
    exact ⟨lead services service, hlead, .lead, h.not_isEnumerable hlt⟩

/-- A closed type is specialized once. -/
theorem specialized_unique (h : c.Regular ctx services) {first second : RegistrationId}
    {other : Service} (hfirst : .specialized first ∈ c.journal)
    (hsecond : .specialized second ∈ c.journal) (htemplate : c.register[first]? = some template)
    (hother : c.register[second]? = some other) (hsame : template.type.same other.type) :
    first = second := by
  have hnotlt {first second : RegistrationId} {template other : Service}
      (hfirst : .specialized first ∈ c.journal) (hsecond : .specialized second ∈ c.journal)
      (htemplate : c.register[first]? = some template)
      (hother : c.register[second]? = some other) (hsame : template.type.same other.type) :
      ¬ first < second := by
    intro hlt
    have hkey := (h.closing hfirst htemplate).isTemplate.plain.1
    obtain ⟨other', hplaced', -⟩ := h.placed second hsecond
    obtain rfl := Option.some.inj (hother.symm.trans hplaced'.registered)
    exact hplaced'.first first template hlt htemplate hkey hsame
  rcases Nat.lt_trichotomy first second with hlt | heq | hlt
  · exact absurd hlt (hnotlt hfirst hsecond htemplate hother hsame)
  · exact heq
  · rw [TypeExpr.same_comm] at hsame
    exact absurd hlt (hnotlt hsecond hfirst hother htemplate hsame)

/-- A base of a specialization has nothing for the same answer before it, where it is looked up. -/
theorem base_first (h : c.Regular ctx services) (ho : Orderly ctx services)
    (hl : LooksUp ctx services type found) {closed first : RegistrationId} {base : TypeExpr}
    {i : Nat} {earlier : Service} (hclosed : .specialized closed ∈ c.journal)
    (htemplate : c.register[closed]? = some template)
    (hbase : (servedBases ctx template.type)[i]? = some base) (hbaseType : base.same type)
    (hfirst : c.Arises ctx services (answerFor ctx services template) first earlier)
    (hearlier : c.register[first]? = some earlier) (hearlierType : earlier.type.same type) :
    ¬ first < closed + 1 + i := by
  intro hlt
  have hbases := ho.bases _ _ template hl (h.closing hclosed htemplate)
  have honce {i' : Nat} {base' : TypeExpr}
      (hi' : (servedBases ctx template.type)[i']? = some base') (hbaseType' : base'.same type) :
      ¬ i' < i := by
    intro hlt
    obtain ⟨hi'lt, rfl⟩ := List.getElem?_eq_some_iff.1 hi'
    obtain ⟨hilt, rfl⟩ := List.getElem?_eq_some_iff.1 hbase
    exact List.pairwise_iff_getElem.1 hbases i' i hi'lt hilt hlt ⟨hbaseType', hbaseType⟩
  generalize hfound : answerFor ctx services template = found' at hfirst
  cases hfirst with
  | closed hclosed' =>
    rw [TypeExpr.same_comm] at hearlierType
    exact not_same_of_mem_servedBases (List.mem_of_getElem? hbase) (TypeExpr.same_trans
      (TypeExpr.same_trans hbaseType hearlierType) (same_of_answerFor_eq hfound.symm))
  | @base closed' _ base' i' hclosed' htemplate' hbase' =>
    obtain rfl := h.specialized_unique hclosed' hclosed htemplate' htemplate
      (same_of_answerFor_eq hfound.symm)
    obtain rfl := Option.some.inj (htemplate.symm.trans htemplate')
    exact honce hbase' hearlierType (Nat.lt_of_add_lt_add_left hlt)
  | @redirect _ before _ _ existing _ _ _ _ _ hbefore hexisting hnone hexistingType =>
    obtain ⟨_, hplaced, -⟩ := h.placed closed hclosed
    obtain rfl := Option.some.inj (htemplate.symm.trans hplaced.registered)
    have hle : closed ≤ before := Nat.le_of_not_lt fun hbefore' =>
      hplaced.first before existing hbefore' hexisting hnone
        (TypeExpr.same_trans hexistingType (same_of_answerFor_eq hfound.symm))
    -- the redirection would stand among the bases of the specialization that it redirects to
    obtain ⟨i', rfl⟩ :=
      Nat.exists_eq_add_of_le (Nat.succ_le_of_lt (Nat.lt_of_le_of_lt hle hbefore))
    have hlt : i' < i := Nat.lt_of_add_lt_add_left hlt
    have hi := (List.getElem?_eq_some_iff.1 hbase).1
    have hbase' := List.getElem?_eq_getElem (Nat.lt_trans hlt hi)
    have hmirror := Option.some.inj (hearlier.symm.trans (hplaced.bases i' _ hbase'))
    rw [hmirror] at hearlierType
    exact honce hbase' hearlierType hlt
  | shape _ _ => exact answerFor_ne_collection _ hfound

/-- Of the registrations that checks make, one at most stands for an answer where it is looked up,
unless it is a collection. -/
theorem single (h : c.Regular ctx services) (ho : Orderly ctx services)
    (hl : LooksUp ctx services type found) {first second : RegistrationId}
    {earlier later : Service} (hlt : first < second)
    (hfirst : c.Arises ctx services found first earlier)
    (hsecond : c.Arises ctx services found second later)
    (hearlier : c.register[first]? = some earlier) (hlater : c.register[second]? = some later)
    (hearlierType : earlier.type.same type) (hlaterType : later.type.same type) :
    found.closedType? = none := by
  have hsame : earlier.type.same later.type :=
    TypeExpr.same_trans hearlierType (by rwa [TypeExpr.same_comm])
  cases hsecond with
  | shape _ _ => rfl
  | redirect _ _ _ _ hnone _ _ _ _ => exact absurd hsame (hnone first hlt earlier hearlier)
  | closed hclosed =>
    obtain rfl := h.specialized_unique (hfirst.specialized hsame).1 hclosed hearlier hlater hsame
    exact absurd hlt (Nat.lt_irrefl _)
  | base hclosed htemplate hbase =>
    exact absurd hlt (h.base_first ho hl hclosed htemplate hbase hlaterType hfirst hearlier
      hearlierType)

/-- What stands for an answer that closes a type stands there alone. -/
theorem arisen_cases (h : c.Regular ctx services) (ho : Orderly ctx services)
    (hl : LooksUp ctx services type found) (hfound : found.closedType?.isSome)
    {ids : List RegistrationId} (hordered : ids.Pairwise (· < ·))
    (hids : ∀ id ∈ ids, ∃ service, c.register[id]? = some service ∧ service.type.same type ∧
      c.Arises ctx services found id service) :
    ids = [] ∨ ∃ id service, ids = [id] ∧ c.register[id]? = some service ∧
      service.type.same type ∧ c.Arises ctx services found id service := by
  match ids with
  | [] => exact Or.inl rfl
  | [id] =>
    obtain ⟨service, hservice⟩ := hids id List.mem_cons_self
    exact Or.inr ⟨id, service, rfl, hservice⟩
  | first :: second :: _ =>
    obtain ⟨earlier, hearlier, htype, hfirst⟩ := hids first (by simp)
    obtain ⟨later, hlater, htype', hsecond⟩ := hids second (by simp)
    have hlt := List.rel_of_pairwise_cons hordered List.mem_cons_self
    rw [h.single ho hl hlt hfirst hsecond hearlier hlater htype htype'] at hfound
    cases hfound

/-- The closed type is specialized or not registered at all. -/
theorem underKey_closed (h : c.Regular ctx services) (ho : Orderly ctx services)
    (hclosing : Closing ctx services template) :
    c.underKey none (c.servicesFor template.type) = [] ∨
      ∃ id, c.underKey none (c.servicesFor template.type) = [id] ∧
        c.Found ctx services (answerFor ctx services template) id := by
  have hl : LooksUp ctx services template.type (answerFor ctx services template) := .closed hclosing
  have hids : ∀ id ∈ c.underKey none (c.servicesFor template.type),
      ∃ service, c.register[id]? = some service ∧ service.type.same template.type ∧
        c.Arises ctx services (answerFor ctx services template) id service := by
    intro id hid
    obtain ⟨service, hservice, htype, hkey⟩ :=
      (mem_underKey_servicesFor h.arranged.coherent.listed).1 hid
    refine ⟨service, hservice, htype, h.arises_of_looksUp ho hl ?_ hservice htype⟩
    refine Nat.le_of_not_lt fun hlt => ?_
    rw [h.register_of_lt hlt] at hservice
    have hmem : service ∈ under services none template.type :=
      mem_under.2 ⟨List.mem_of_getElem? hservice, htype, hkey⟩
    rw [hclosing.new] at hmem
    cases hmem
  have hsome := isSome_closedType?_answerFor ctx services template
  rcases h.arisen_cases ho hl hsome ((h.arranged.ordered _).filter _) hids with
    hnone | ⟨id, service, hid, hservice, htype, ha⟩
  · exact Or.inl hnone
  · refine Or.inr ⟨id, hid, ?_⟩
    have hfound := answerFor_of_new ctx hclosing.new
    obtain ⟨hspecialized, hanswer⟩ := ha.specialized htype
    rw [hfound] at hanswer ⊢
    exact ⟨service, hservice, hanswer, hspecialized⟩

/-- Where services are declared for a closed type the first of them is the first that is found. If
others are found too, a redirection to the type is foretold to lead to itself. -/
theorem underKey_existing (h : c.Regular ctx services) (hcloses : IsTemplate ctx services template)
    (hold : under services none template.type ≠ []) :
    ∃ id rest, c.underKey none (c.servicesFor template.type) = id :: rest ∧
      c.Found ctx services (answerFor ctx services template) id ∧
      (rest ≠ [] → Yields ctx services (answerFor ctx services template) template.role) := by
  have hanswer : answerFor ctx services template = .existing template.type.unannotated := by
    simp [answerFor, hold]
  have hlisted := h.arranged.coherent.listed
  obtain ⟨declared, hdeclared⟩ := List.exists_mem_of_ne_nil _ hold
  obtain ⟨place, hplaceLt, hplace, hmem⟩ := h.mem_underKey_of_mem_under hdeclared
  have hordered : (c.underKey none (c.servicesFor template.type)).Pairwise (· < ·) :=
    (h.arranged.ordered _).filter _
  cases hids : c.underKey none (c.servicesFor template.type) with
  | nil =>
    rw [hids] at hmem
    cases hmem
  | cons id rest =>
  rw [hids] at hmem hordered
  have hlt : id < services.length := by
    rcases List.mem_cons.1 hmem with rfl | hlater
    · exact hplaceLt
    · exact Nat.lt_trans (List.rel_of_pairwise_cons hordered hlater) hplaceLt
  have hunder {id : RegistrationId} (hlt : id < services.length)
      (hid : id ∈ c.underKey none (c.servicesFor template.type)) :
      ∃ service, c.register[id]? = some service ∧ services[id]? = some service ∧
        service ∈ under services none template.type := by
    obtain ⟨service, hservice, htype, hkey⟩ := (mem_underKey_servicesFor hlisted).1 hid
    have hdeclared := hservice
    rw [h.register_of_lt hlt] at hdeclared
    exact ⟨service, hservice, hdeclared, mem_under.2 ⟨List.mem_of_getElem? hdeclared, htype, hkey⟩⟩
  obtain ⟨service, hservice, hfirst, hunderFirst⟩ := hunder hlt (by simp [hids])
  refine ⟨id, rest, rfl, ?_, fun hrest => ?_⟩
  · have hyields := Yields.existing hcloses hunderFirst
    rw [hanswer] at hyields ⊢
    exact ⟨service, hservice, .closed rfl hyields, h.not_isEnumerable hlt⟩
  · obtain ⟨other, hother⟩ := List.exists_mem_of_ne_nil _ hrest
    have hother' : other ∈ c.underKey none (c.servicesFor template.type) := by simp [hids, hother]
    by_cases hotherLt : other < services.length
    · obtain ⟨second, -, hsecond, hunderSecond⟩ := hunder hotherLt hother'
      have hlt := List.rel_of_pairwise_cons hordered hother
      exact .several hcloses (two_le_length_under hlt hfirst hsecond hunderFirst hunderSecond)
    · obtain ⟨registered, hregistered, htype, -⟩ := (mem_underKey_servicesFor hlisted).1 hother'
      obtain ⟨found, hregisters⟩ := h.registers_of_le (Nat.le_of_not_lt hotherLt) hregistered
      exact .joined hcloses hregisters htype

/-- What checks register leads to what it stands for. -/
theorem follow_arisen (h : c.Regular ctx services) (ho : Orderly ctx services)
    (hfound : found.closedType?.isSome) (ha : c.Arises ctx services found id service)
    (hid : c.register[id]? = some service) : c.Found ctx services found (c.follow ctx id) := by
  have hlisted := h.arranged.coherent.listed
  cases ha with
  | closed hclosed =>
    have hclosing := h.closing hclosed hid
    have hshape : ¬ c.IsShape id := h.not_isShape_add hclosed hid (Nat.zero_le _)
    rw [follow_eq_self hshape hid fun _ hsome => by
      rw [hclosing.isTemplate.plain.2.1] at hsome
      cases hsome]
    have hanswer := answerFor_of_new ctx hclosing.new
    rw [hanswer]
    exact ⟨service, hid, hanswer, hclosed⟩
  | @base closed template base i hclosed htemplate hbase =>
    have hshape : ¬ c.IsShape (closed + 1 + i) := by
      have hi := (List.getElem?_eq_some_iff.1 hbase).1
      rw [Nat.add_assoc, Nat.add_comm 1]
      exact h.not_isShape_add hclosed htemplate hi
    have hclosing := h.closing hclosed htemplate
    have hmem : closed ∈ c.underKey none (c.servicesFor template.type) :=
      (mem_underKey_servicesFor hlisted).2
        ⟨template, htemplate, TypeExpr.same_refl _, hclosing.isTemplate.plain.1⟩
    have hother : ¬ template.type.same base := by
      rw [TypeExpr.same_comm]
      exact not_same_of_mem_servedBases (List.mem_of_getElem? hbase)
    have hkey : (mirrorOf template template.type base).key = none := hclosing.isTemplate.plain.1
    rw [follow_eq_pick hshape hid rfl hother, hkey]
    rcases h.underKey_closed ho hclosing with hnone | ⟨only, honly, hfound⟩
    · rw [hnone] at hmem
      cases hmem
    · rw [honly]
      exact hfound
  | @redirect _ earlier target template existing hasks htemplate hother hshape _ _ hearlier hnone
      hexisting =>
    have hmem : earlier ∈ c.underKey none (c.servicesFor template.type) :=
      (mem_underKey_servicesFor hlisted).2 ⟨existing, hearlier, hexisting, hnone⟩
    rw [follow_eq_pick hshape hid rfl hother]
    change c.Found ctx services _ (pick id id _ (c.underKey none (c.servicesFor template.type)))
    by_cases hnew : under services none template.type = []
    · rcases h.underKey_closed ho ⟨⟨target, hasks, htemplate⟩, hnew⟩ with
        hempty | ⟨only, honly, hfound⟩
      · rw [hempty] at hmem
        cases hmem
      · rw [honly]
        exact hfound
    · obtain ⟨first, rest, hids, hfirst, hcrowded⟩ :=
        h.underKey_existing ⟨target, hasks, htemplate⟩ hnew
      rw [hids]
      cases rest with
      | nil => exact hfirst
      | cons _ _ =>
        have hyields := hcrowded (List.cons_ne_nil _ _)
        have hanswer : answerFor ctx services template = .existing template.type.unannotated := by
          simp [answerFor, hnew]
        rw [hanswer, ← role_redirectOf ⟨target, hasks, htemplate⟩ target] at hyields
        rw [hanswer]
        exact ⟨_, hid, .closed rfl hyields, fun henumerable => hshape henumerable.isShape⟩
  | shape _ _ => cases hfound

/-- What an answer that closes a type tells is registered in a role that was foretold. -/
theorem yields_of_found (h : c.Regular ctx services) (hfound : found.closedType?.isSome)
    (hid : c.Found ctx services found id) :
    ∃ service, c.register[id]? = some service ∧ Yields ctx services found service.role ∧
      ¬ c.IsEnumerable id := by
  rcases Answer.existing_or_closed hfound with ⟨type, rfl⟩ | ⟨type, recipe, rfl⟩
  · obtain ⟨service, hservice, hserves, henumerable⟩ := hid
    cases hserves with
    | closed _ hyields => exact ⟨service, hservice, hyields, henumerable⟩
  · obtain ⟨template, htemplate, hanswer, hclosed⟩ := hid
    have hshape : ¬ c.IsShape id := h.not_isShape_add hclosed htemplate (Nat.zero_le _)
    exact ⟨template, htemplate, hanswer ▸ .closed (h.closing hclosed htemplate),
      fun henumerable => hshape henumerable.isShape⟩

/-- Whatever checks register leads to a registration in a role that was foretold. -/
theorem follow_yields (h : c.Regular ctx services) (ho : Orderly ctx services)
    (ha : c.Arises ctx services found id service) (hid : c.register[id]? = some service) :
    ∃ next, c.register[c.follow ctx id]? = some next ∧ Yields ctx services found next.role := by
  rcases ha.answerFor_or_shape with ⟨template, rfl⟩ | ⟨element, family, hfamily, hmem, rfl⟩
  · have hfound := isSome_closedType?_answerFor ctx services template
    obtain ⟨next, hnext, hyields, -⟩ := h.yields_of_found hfound (h.follow_arisen ho hfound ha hid)
    exact ⟨next, hnext, hyields⟩
  · obtain ⟨element', hsame, hshapes⟩ := h.arranged.coherent.shaped element family hfamily
    have hfollow : c.follow ctx id = family.enumerable := by
      rw [follow, h.arranged.coherent.familyOf?_eq hfamily hmem]
    have henumerable : family.enumerable ∈ family.ids := by simp [Family.ids]
    obtain ⟨shape, hshape, hregister, -⟩ := hshapes.of_mem henumerable
    refine ⟨shape, by rw [hfollow, hregister], ?_⟩
    have hrole : shape.role = ⟨(TypeExpr.arrayOf element.unannotated).unannotated, .transient⟩ := by
      have harray : (TypeExpr.arrayOf element').same (TypeExpr.arrayOf element.unannotated) := by
        simpa [TypeExpr.arrayOf, TypeExpr.same, TypeExpr.sameAll] using
          TypeExpr.same_trans hsame (TypeExpr.same_unannotated element)
      rw [Service.role, resolvedType_of_mem_shapesOf hshape, (anonymous_of_mem_shapesOf hshape).2,
        TypeExpr.same_iff.1 harray]
    rw [hrole]
    exact .collection

/-- A collection made now would hold what the declared services tell. -/
theorem gathers_members (h : c.Regular ctx services) (ho : Orderly ctx services)
    (element : TypeExpr) : c.Gathers ctx services element (c.members ctx element) := by
  have hlisted := h.arranged.coherent.listed
  have hunannotated := TypeExpr.same_unannotated element
  have hmember {id : RegistrationId} {service : Service} (hid : c.register[id]? = some service)
      (htype : service.type.same element) (hclosed : service.isClosed) :
      c.follow ctx id ∈ c.members ctx element := by
    have hmem : id ∈ c.servicesFor element := (hlisted element id).2 ⟨service, hid, htype⟩
    refine List.mem_map_of_mem (List.mem_filter.2 ⟨hmem, ?_⟩)
    rwa [isClosed_of_register hid]
  constructor
  case serves =>
    intro id hid
    obtain ⟨first, hfirst, rfl⟩ := List.mem_map.1 hid
    obtain ⟨hmem, hclosed⟩ := List.mem_filter.1 hfirst
    obtain ⟨service, hservice, htype⟩ := (hlisted element first).1 hmem
    rw [isClosed_of_register hservice] at hclosed
    have htype' := TypeExpr.same_trans htype hunannotated
    by_cases hlt : first < services.length
    · rw [h.register_of_lt hlt] at hservice
      obtain ⟨next, hnext, hleads, -⟩ := h.follow_leads ho hservice
      exact ⟨next, hnext, .member
        (mem_membersOf.2 ⟨List.mem_of_getElem? hservice, htype', hclosed⟩) hleads⟩
    · obtain ⟨found, ha⟩ := h.arises first service (Nat.le_of_not_lt hlt) hservice
      obtain ⟨next, hnext, hyields⟩ := h.follow_yields ho ha hservice
      exact ⟨next, hnext, .joined (h.registers ha hservice) htype' hyields⟩
  case members =>
    intro member hmem
    obtain ⟨hdeclared, htype, hclosed⟩ := mem_membersOf.1 hmem
    obtain ⟨first, hfirst⟩ := List.getElem?_of_mem hdeclared
    have hlt : first < services.length := (List.getElem?_eq_some_iff.1 hfirst).1
    have hregister : c.register[first]? = some member := by rw [h.register_of_lt hlt, hfirst]
    obtain ⟨next, hnext, hleads, -⟩ := h.follow_leads ho hfirst
    exact ⟨_, hmember hregister htype hclosed, next, hnext, hleads⟩
  case joined =>
    rintro closed template hspecialized htemplate ⟨hclosed, hconcerns⟩
    have hclosing := h.closing hspecialized htemplate
    have hanswer := answerFor_of_new ctx hclosing.new
    -- whatever was registered with the specialization leads to it
    have hleads {id : RegistrationId} {service : Service}
        (ha : c.Arises ctx services (answerFor ctx services template) id service)
        (hid : c.register[id]? = some service) : c.follow ctx id = closed := by
      have hfound := h.follow_arisen ho (isSome_closedType?_answerFor ..) ha hid
      rw [hanswer] at hfound
      obtain ⟨other, hother, hsame, hspecialized'⟩ := hfound
      rw [← hanswer] at hsame
      exact h.specialized_unique hspecialized' hspecialized hother htemplate
        (same_of_answerFor_eq hsame)
    rcases hconcerns with htype | ⟨base, hbase, htype⟩
    · rw [← hleads (.closed hspecialized) htemplate]
      refine hmember htemplate htype ?_
      rwa [Service.isClosed, hclosing.resolvedType]
    · obtain ⟨i, hi⟩ := List.getElem?_of_mem hbase
      obtain ⟨_, hplaced, -⟩ := h.placed closed hspecialized
      obtain rfl := Option.some.inj (htemplate.symm.trans hplaced.registered)
      have hmirror := hplaced.bases i base hi
      have hmem := hmember hmirror htype hclosed
      rwa [hleads (.base hspecialized htemplate hi) hmirror] at hmem

end Regular

end Wiring.Container
