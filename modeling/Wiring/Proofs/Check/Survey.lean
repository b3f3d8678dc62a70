import Wiring.Proofs.Check.Orderly

/-!
Whether declared services are orderly, computed from a list of what a run checks. In the list each
service stands before all that it may wait for, so no types wait in a circle.
-/

namespace Wiring.Forecast

open Container

section Lists

variable (ctx : Context) (services known : List Service)

/-- The parameters without a key that the known services are constructed from. -/
def unkeyedBy : List Parameter :=
  known.flatMap fun service => (parametersOf ctx service).filter (·.key.isNone)

/-- The types that these ask for. -/
def askedBy : List TypeExpr := (unkeyedBy ctx known).map (requested ctx)

/-- The specializations that these come to. -/
def closedBy : List Service :=
  ((askedBy ctx known).filterMap (template? ctx services)).filter fun template =>
    (under services none template.type).isEmpty

/-- What is looked up for the parameter as such, with the answers. -/
def lookedUpAs (parameter : Parameter) : List (TypeExpr × Answer) :=
  let found := answerTo ctx services parameter
  if isOptional ctx parameter then []
  else
    (requested ctx parameter, found) ::
      match found with
      | .collection element =>
        if parameter.requiresNonEmpty && (membersOf services element).isEmpty then
          [(element, .undeclared)]
        else []
      | _ => []

/-- What is looked up where a request for the type is closed. -/
def lookedUpFor (target : TypeExpr) : List (TypeExpr × Answer) :=
  let implementations := (openedFor ctx services target).flatMap fun opened =>
    opened.implementation.toList.filter fun implementation => !implementation.same opened.type
  ((ctx.program.genericDefinition target).toList ++ implementations).map (·, .undeclared) ++
    ((template? ctx services target).toList.filter fun template =>
      (under services none template.type).isEmpty).map
        fun template => (target, answerFor ctx services template)

def lookedUp : List (TypeExpr × Answer) :=
  (unkeyedBy ctx known).flatMap (lookedUpAs ctx services) ++
    (askedBy ctx known).flatMap (lookedUpFor ctx services) ++
    (closedBy ctx services known).map fun template =>
      (template.type, answerFor ctx services template)

/-- What a request for the type registers besides a specialization, with the answer. -/
def registeredFor (target : TypeExpr) : List (Service × Answer) :=
  ((template? ctx services target).toList.map fun template =>
    (redirectOf target template, answerFor ctx services template)) ++
    match answer ctx services none target with
    | .collection element => (shapesOf ctx element).map (·, .collection element)
    | _ => []

/-- What a specialization registers. -/
def registeredWith (template : Service) : List (Service × Answer) :=
  (template :: (servedBases ctx template.type).map (mirrorOf template template.type)).map
    (·, answerFor ctx services template)

def registeredBy : List (Service × Answer) :=
  (askedBy ctx known).flatMap (registeredFor ctx services) ++
    (closedBy ctx services known).flatMap (registeredWith ctx services)

/-- The types that a request for the declared service may be served with. -/
def leadTypes (service : Service) : List TypeExpr :=
  let registered := (registeredBy ctx services known).filter fun entry =>
    service.implementation.any (entry.1.type.same ·)
  (lead services service :: service :: registered.map (·.1)).map (·.resolvedType)

/-- The types that what is registered for the answer may lead to. -/
def yieldTypes : Answer → List TypeExpr
  | .closed type _ | .existing type => type :: (under services none type).map (·.resolvedType)
  | .collection element => [TypeExpr.arrayOf element]
  | .undeclared | .ambiguous | .declared _ => []

/-- The types that a request with the answer may be served with. -/
def servedTypes : Answer → List TypeExpr
  | .declared service => leadTypes ctx services known service
  | .collection element =>
    (membersOf services element).flatMap (leadTypes ctx services known) ++
      ((registeredBy ctx services known).filter (·.1.type.same element)).flatMap
        fun entry => yieldTypes services entry.2
  | found => yieldTypes services found

/-- The place of the type among the known services. -/
def placeOf (type : TypeExpr) : Nat := known.findIdx (·.resolvedType.same type)

/-- The known services are all that a run checks, and what they ask for is orderly. -/
structure Survey : Prop where
  declared : ∀ service ∈ services, service.isClosed → service ∈ known
  closed : ∀ template ∈ closedBy ctx services known, template ∈ known
  apart : ∀ entry ∈ lookedUp ctx services known, ∀ other ∈ registeredBy ctx services known,
    entry.1.same other.1.type → entry.2 = other.2
  bases : ∀ template ∈ closedBy ctx services known,
    (servedBases ctx template.type).Pairwise fun first second => ¬ first.same second
  names : ctx.settings.NamesApart
  unshaped : ∀ service ∈ services, ∀ entry ∈ registeredBy ctx services known,
    entry.2.closedType?.isNone → ¬ service.implementation.any (entry.1.type.same ·)
  falls : ∀ consumer ∈ known, ∀ parameter ∈ parametersOf ctx consumer,
    isOptional ctx parameter = false →
    ∀ type ∈ servedTypes ctx services known (answerTo ctx services parameter),
      placeOf known consumer.resolvedType < placeOf known type
  depth : (closedBy ctx services known).length ≤ ctx.settings.maxSpecializationDepth

instance : Decidable (Survey ctx services known) :=
  decidable_of_iff
    ((∀ service ∈ services, service.isClosed → service ∈ known) ∧
      (∀ template ∈ closedBy ctx services known, template ∈ known) ∧
      (∀ entry ∈ lookedUp ctx services known, ∀ other ∈ registeredBy ctx services known,
        entry.1.same other.1.type → entry.2 = other.2) ∧
      (∀ template ∈ closedBy ctx services known,
        (servedBases ctx template.type).Pairwise fun first second => ¬ first.same second) ∧
      ctx.settings.NamesApart ∧
      (∀ service ∈ services, ∀ entry ∈ registeredBy ctx services known,
        entry.2.closedType?.isNone → ¬ service.implementation.any (entry.1.type.same ·)) ∧
      (∀ consumer ∈ known, ∀ parameter ∈ parametersOf ctx consumer,
        isOptional ctx parameter = false →
        ∀ type ∈ servedTypes ctx services known (answerTo ctx services parameter),
          placeOf known consumer.resolvedType < placeOf known type) ∧
      (closedBy ctx services known).length ≤ ctx.settings.maxSpecializationDepth)
    ⟨fun ⟨declared, closed, apart, bases, names, unshaped, falls, depth⟩ =>
      ⟨declared, closed, apart, bases, names, unshaped, falls, depth⟩,
    fun h => ⟨h.declared, h.closed, h.apart, h.bases, h.names, h.unshaped, h.falls, h.depth⟩⟩

end Lists

variable {ctx : Context} {services known : List Service} {service template : Service}
  {found : Answer} {type target : TypeExpr} {role : Role} {parameter : Parameter}

theorem mem_unkeyedBy (hmem : service ∈ known) (hparameter : parameter ∈ parametersOf ctx service)
    (hkey : parameter.key = none) : parameter ∈ unkeyedBy ctx known :=
  List.mem_flatMap.2 ⟨service, hmem, List.mem_filter.2 ⟨hparameter, by rw [hkey]; rfl⟩⟩

theorem mem_closedBy_of_mem (hmem : target ∈ askedBy ctx known)
    (htemplate : template? ctx services target = some template)
    (hnew : under services none template.type = []) : template ∈ closedBy ctx services known :=
  List.mem_filter.2 ⟨List.mem_filterMap.2 ⟨target, hmem, htemplate⟩, by rw [hnew]; rfl⟩

/-- The shapes of a collection have the same types, however its element type is annotated. -/
theorem exists_shape_of_same {element other : TypeExpr} (hsame : element.same other)
    {shape : Service} (h : shape ∈ shapesOf ctx element) :
    ∃ shape' ∈ shapesOf ctx other, shape'.type.same shape.type ∧
      shape'.resolvedType.same shape.resolvedType := by
  have hother : other.same element := by rwa [TypeExpr.same_comm]
  simp only [shapesOf, List.mem_cons, List.not_mem_nil, or_false] at h
  rcases h with rfl | rfl | rfl | rfl
  · refine ⟨_, List.mem_cons_self, ?_⟩
    simp [Service.resolvedType, TypeExpr.arrayOf, TypeExpr.same, TypeExpr.sameAll, hother]
  · refine ⟨_, List.mem_cons_of_mem _ List.mem_cons_self, ?_⟩
    simp [Service.resolvedType, TypeExpr.arrayOf, Settings.readOnlyListOf, TypeExpr.same,
      TypeExpr.sameAll, hother]
  · refine ⟨_, List.mem_cons_of_mem _ (List.mem_cons_of_mem _ List.mem_cons_self), ?_⟩
    simp [Service.resolvedType, TypeExpr.arrayOf, Settings.readOnlyCollectionOf, TypeExpr.same,
      TypeExpr.sameAll, hother]
  · refine ⟨_, List.mem_cons_of_mem _ (List.mem_cons_of_mem _
      (List.mem_cons_of_mem _ List.mem_cons_self)), ?_⟩
    simp [Service.resolvedType, TypeExpr.arrayOf, Settings.enumerableOf, TypeExpr.same,
      TypeExpr.sameAll, hother]

theorem placeOf_congr {other : TypeExpr} (h : type.same other) :
    placeOf known type = placeOf known other := by
  unfold placeOf
  simp only [fun service : Service => TypeExpr.same_congr service.resolvedType h]

theorem yieldTypes_answerFor (ctx : Context) (services : List Service) (template : Service) :
    yieldTypes services (answerFor ctx services template) =
      template.type.unannotated ::
        (under services none template.type.unannotated).map (·.resolvedType) := by
  unfold answerFor
  split <;> rfl

/-- What is registered for an answer leads to one of the types. -/
theorem Yields.mem_yieldTypes (h : Yields ctx services found role) :
    ∃ type ∈ yieldTypes services found, type.same role.type := by
  have htemplate {template : Service} (hc : IsTemplate ctx services template) :
      ∃ type ∈ yieldTypes services (answerFor ctx services template),
        type.same template.role.type := by
    rw [yieldTypes_answerFor]
    refine ⟨_, List.mem_cons_self, ?_⟩
    rw [Service.role, Service.resolvedType, hc.plain.2.1]
    exact TypeExpr.same_refl _
  cases h with
  | closed hc => exact htemplate hc.isTemplate
  | several hc _ => exact htemplate hc
  | joined hc _ _ => exact htemplate hc
  | @existing template service _ hmem =>
    rw [under_congr (TypeExpr.same_unannotated template.type)] at hmem
    rw [yieldTypes_answerFor]
    exact ⟨_, List.mem_cons_of_mem _ (List.mem_map_of_mem hmem), TypeExpr.same_unannotated _⟩
  | collection => exact ⟨_, List.mem_singleton_self _, TypeExpr.same_unannotated _⟩

namespace Survey

variable (h : Survey ctx services known)
include h

theorem mem_known (hc : Checked ctx services service) : service ∈ known := by
  induction hc with
  | declared hmem hclosed => exact h.declared _ hmem hclosed
  | closed _ hparameter hcloses ih =>
    exact h.closed _ (mem_closedBy_of_mem
      (List.mem_map_of_mem (mem_unkeyedBy ih hparameter hcloses.key)) hcloses.closes hcloses.new)

theorem mem_askedBy (ha : Asks ctx services target) : target ∈ askedBy ctx known := by
  obtain ⟨service, parameter, hchecked, hparameter, hkey, rfl⟩ := ha
  exact List.mem_map_of_mem (mem_unkeyedBy (h.mem_known hchecked) hparameter hkey)

theorem mem_closedBy (hc : Closing ctx services template) :
    template ∈ closedBy ctx services known := by
  obtain ⟨⟨target, ha, htemplate⟩, hnew⟩ := hc
  exact mem_closedBy_of_mem (h.mem_askedBy ha) htemplate hnew

theorem mem_lookedUpAs (hn : Needs ctx services parameter) {entry : TypeExpr × Answer}
    (hentry : entry ∈ lookedUpAs ctx services parameter) :
    entry ∈ lookedUp ctx services known := by
  obtain ⟨service, hchecked, hparameter⟩ := hn.asked
  have hmem := mem_unkeyedBy (h.mem_known hchecked) hparameter hn.key
  exact List.mem_append_left _ (List.mem_append_left _
    (List.mem_flatMap.2 ⟨parameter, hmem, hentry⟩))

theorem mem_lookedUpFor (ha : Asks ctx services target) {entry : TypeExpr × Answer}
    (hentry : entry ∈ lookedUpFor ctx services target) : entry ∈ lookedUp ctx services known :=
  List.mem_append_left _ (List.mem_append_right _
    (List.mem_flatMap.2 ⟨target, h.mem_askedBy ha, hentry⟩))

theorem mem_lookedUp (hl : LooksUp ctx services type found) :
    (type, found) ∈ lookedUp ctx services known := by
  cases hl with
  | needed hn => exact h.mem_lookedUpAs hn (by simp [lookedUpAs, hn.required])
  | element hn hnonEmpty hanswer hnone =>
    exact h.mem_lookedUpAs hn (by simp [lookedUpAs, hn.required, hanswer, hnonEmpty, hnone])
  | closes ha htemplate hnew =>
    exact h.mem_lookedUpFor ha (by simp [lookedUpFor, htemplate, hnew])
  | definition ha hdefinition =>
    exact h.mem_lookedUpFor ha (by simp [lookedUpFor, hdefinition])
  | implementation ha hopened himplementation hother =>
    refine h.mem_lookedUpFor ha (List.mem_append_left _ (List.mem_map_of_mem
      (List.mem_append_right _ (List.mem_flatMap.2 ⟨_, hopened, ?_⟩))))
    simp [himplementation, hother]
  | closed hc => exact List.mem_append_right _ (List.mem_map.2 ⟨_, h.mem_closedBy hc, rfl⟩)

/-- What checks register is in the list, with other annotations perhaps. -/
theorem mem_registeredBy (hr : Registers ctx services service found) :
    ∃ listed, (listed, found) ∈ registeredBy ctx services known ∧
      listed.type.same service.type ∧ listed.resolvedType.same service.resolvedType := by
  have hlisted {listed : Service} (hmem : (listed, found) ∈ registeredBy ctx services known) :
      ∃ other, (other, found) ∈ registeredBy ctx services known ∧
        other.type.same listed.type ∧ other.resolvedType.same listed.resolvedType :=
    ⟨listed, hmem, TypeExpr.same_refl _, TypeExpr.same_refl _⟩
  have hfor {target : TypeExpr} (ha : Asks ctx services target) {entry : Service × Answer}
      (hentry : entry ∈ registeredFor ctx services target) :
      entry ∈ registeredBy ctx services known :=
    List.mem_append_left _ (List.mem_flatMap.2 ⟨target, h.mem_askedBy ha, hentry⟩)
  have hwith {template : Service} (hc : Closing ctx services template) {entry : Service × Answer}
      (hentry : entry ∈ registeredWith ctx services template) :
      entry ∈ registeredBy ctx services known :=
    List.mem_append_right _ (List.mem_flatMap.2 ⟨template, h.mem_closedBy hc, hentry⟩)
  cases hr with
  | closed hc => exact hlisted (hwith hc (by simp [registeredWith]))
  | base hc hbase =>
    refine hlisted (hwith hc (List.mem_map_of_mem (List.mem_cons_of_mem _ ?_)))
    exact List.mem_map_of_mem hbase
  | redirect ha htemplate _ => exact hlisted (hfor ha (by simp [registeredFor, htemplate]))
  | shape ha hanswer hshape =>
    obtain ⟨listed, hmem, hsame⟩ := exists_shape_of_same (TypeExpr.same_unannotated _) hshape
    refine ⟨listed, hfor ha (List.mem_append_right _ ?_), hsame⟩
    rw [hanswer]
    exact List.mem_map_of_mem hmem

theorem mem_leadTypes (hl : Leads ctx services service role) :
    ∃ type ∈ leadTypes ctx services known service, type.same role.type := by
  cases hl with
  | lead => exact ⟨_, List.mem_cons_self, TypeExpr.same_unannotated _⟩
  | itself _ _ _ _ _ =>
    exact ⟨_, List.mem_cons_of_mem _ List.mem_cons_self, TypeExpr.same_unannotated _⟩
  | registered _ himplementation _ hregisters hsame _ =>
    obtain ⟨listed, hmem, htype, hresolved⟩ := h.mem_registeredBy hregisters
    refine ⟨listed.resolvedType, ?_, TypeExpr.same_trans hresolved (TypeExpr.same_unannotated _)⟩
    refine List.mem_map_of_mem (List.mem_cons_of_mem _ (List.mem_cons_of_mem _
      (List.mem_map.2 ⟨_, List.mem_filter.2 ⟨hmem, ?_⟩, rfl⟩)))
    rw [himplementation]
    exact TypeExpr.same_trans htype hsame

theorem mem_servedTypes (hs : Serves ctx services found role) :
    ∃ type ∈ servedTypes ctx services known found, type.same role.type := by
  cases hs with
  | declared hleads => exact h.mem_leadTypes hleads
  | closed hclosed hyields =>
    have hserved : servedTypes ctx services known found = yieldTypes services found := by
      rcases Answer.existing_or_closed hclosed with ⟨_, rfl⟩ | ⟨_, _, rfl⟩ <;> rfl
    rw [hserved]
    exact hyields.mem_yieldTypes
  | member hmem hleads =>
    obtain ⟨type, htype, hsame⟩ := h.mem_leadTypes hleads
    exact ⟨type, List.mem_append_left _ (List.mem_flatMap.2 ⟨_, hmem, htype⟩), hsame⟩
  | joined hregisters helement hyields =>
    obtain ⟨listed, hmem, htype, -⟩ := h.mem_registeredBy hregisters
    obtain ⟨type, hyielded, hsame⟩ := hyields.mem_yieldTypes
    refine ⟨type, List.mem_append_right _ (List.mem_flatMap.2 ⟨_, List.mem_filter.2 ⟨hmem, ?_⟩,
      hyielded⟩), hsame⟩
    exact TypeExpr.same_trans htype helement

/-- What may be waited for stands further down the list. -/
theorem placeOf_lt {a b : TypeExpr} (hw : MayWait ctx services a b) :
    placeOf known a < placeOf known b := by
  obtain ⟨consumer, parameter, role, hchecked, -, ha, hparameter, hrequired, -, hserves, -, hb⟩ :=
    hw
  obtain ⟨type, htype, hsame⟩ := h.mem_servedTypes hserves
  rw [← placeOf_congr ha, ← placeOf_congr (TypeExpr.same_trans hsame hb)]
  exact h.falls consumer (h.mem_known hchecked) parameter hparameter hrequired type htype

theorem orderly : Orderly ctx services where
  apart type found registered service hl hr htype := by
    obtain ⟨listed, hmem, hlisted, -⟩ := h.mem_registeredBy hr
    rw [TypeExpr.same_comm] at hlisted
    exact h.apart _ (h.mem_lookedUp hl) _ hmem (TypeExpr.same_trans htype hlisted)
  bases type found template _ hc := by
    refine (h.bases template (h.mem_closedBy hc)).imp fun hapart hboth => hapart ?_
    have hsecond := hboth.2
    rw [TypeExpr.same_comm] at hsecond
    exact TypeExpr.same_trans hboth.1 hsecond
  names _ _ _ := h.names
  unshaped service shape implementation element hservice _ himplementation _ hr hsame := by
    obtain ⟨listed, hmem, hlisted, -⟩ := h.mem_registeredBy hr
    refine h.unshaped service hservice _ hmem rfl ?_
    rw [himplementation]
    exact TypeExpr.same_trans hlisted hsame
  circles := by
    rintro ⟨type, hcircle⟩
    have hfalls {a b : TypeExpr} (hwaits : Relation.TransGen (MayWait ctx services) a b) :
        placeOf known a < placeOf known b := by
      induction hwaits with
      | single hw => exact h.placeOf_lt hw
      | tail _ hw ih => exact Nat.lt_trans ih (h.placeOf_lt hw)
    exact absurd (hfalls hcircle) (Nat.lt_irrefl _)
  depth _ chain hd _ := by
    have hnodup : chain.Nodup := List.Pairwise.imp
      (fun {first second} hapart heq => hapart (by rw [heq]; exact TypeExpr.same_refl _)) hd.apart
    have hsub : chain.Subperm (closedBy ctx services known) :=
      List.subperm_of_subset hnodup fun template hmem => h.mem_closedBy (hd.closing template hmem)
    exact Nat.le_trans hsub.length_le h.depth

end Survey
end Wiring.Forecast
