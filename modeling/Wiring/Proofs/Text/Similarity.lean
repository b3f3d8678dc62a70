import Wiring.Proofs.Text.Ranking

/-!
Which names are suggested, and which come first. A score looks at the two short forms in lower
case: equal forms have one hundred, a form that is part of the other eighty, a typo sixty, and all
others five for each of their first characters in common. The last of these knows no bound, so
another name with the same form is the first suggestion unless a longer name shares twenty
characters with it. A typo is told by the characters in place against a length in bytes: where a
character is a byte, seven tenths of them in place are enough, and where all take more, nothing is.
-/

namespace Wiring.Text

section Forms

variable {wanted candidate part cs : List Char}

theorem lowercaseFrom_eq_nil {before : List Char} : lowercaseFrom before cs = [] ↔ cs = [] := by
  fun_cases lowercaseFrom before cs with
  | case1 => simp
  | case2 rest => simp
  | case3 c rest =>
    have hchar : Unicode.lowercaseChar c ≠ [] := by
      unfold Unicode.lowercaseChar
      split <;> simp
    simp [hchar]

theorem comparedForm_eq_nil {name : String} : comparedForm name = [] ↔ shorten name = "" := by
  rw [comparedForm, lowercase, lowercaseFrom_eq_nil, String.toList_eq_nil_iff]

theorem occursIn_iff_isInfix : occursIn part cs ↔ part <:+: cs := by
  induction cs with
  | nil => simp [occursIn]
  | cons c rest ih =>
    rw [occursIn, Bool.or_eq_true, ih, List.isPrefixOf_iff_prefix, List.infix_cons_iff]

theorem length_le_byteLength (cs : List Char) : cs.length ≤ byteLength cs := by
  induction cs with
  | nil => exact Nat.le_refl 0
  | cons c rest ih =>
    have hsize := c.utf8Size_pos
    simp only [byteLength, List.length_cons]
    omega

theorem byteLength_eq_length (h : ∀ c ∈ cs, c.utf8Size = 1) : byteLength cs = cs.length := by
  induction cs with
  | nil => rfl
  | cons c rest ih =>
    have hsize := h c List.mem_cons_self
    have hrest := ih fun other hother => h other (List.mem_cons_of_mem c hother)
    simp only [byteLength, List.length_cons]
    omega

theorem prefix_of_length_le_commonPrefixLength
    (h : wanted.length ≤ commonPrefixLength wanted candidate) : wanted <+: candidate := by
  induction wanted generalizing candidate with
  | nil => exact List.nil_prefix
  | cons c rest ih =>
    cases candidate with
    | nil => simp [commonPrefixLength] at h
    | cons other others =>
      by_cases heq : c = other
      · simp only [commonPrefixLength, if_pos heq, List.length_cons] at h
        rw [List.cons_prefix_cons]
        exact ⟨heq, ih (by omega)⟩
      · simp [commonPrefixLength, heq] at h

theorem matchingPositions_le (wanted candidate : List Char) :
    matchingPositions wanted candidate ≤ wanted.length := by
  calc matchingPositions wanted candidate
      ≤ (wanted.zip candidate).length := List.length_filter_le _ _
    _ ≤ wanted.length := by rw [List.length_zip]; exact Nat.min_le_left _ _

theorem isTypoOf_iff (h : wanted ≠ []) :
    isTypoOf wanted candidate ↔
      max (byteLength wanted) (byteLength candidate) ≤
        min (byteLength wanted) (byteLength candidate) + 2 ∧
      70 * max (byteLength wanted) (byteLength candidate) ≤
        100 * matchingPositions wanted candidate := by
  have hpos : 0 < max (byteLength wanted) (byteLength candidate) := by
    have hlength := length_le_byteLength wanted
    have hwanted := List.length_pos_iff.2 h
    omega
  simp only [isTypoOf, Bool.and_eq_true, decide_eq_true_eq, Nat.le_div_iff_mul_le hpos]
  omega

end Forms

section Scores

variable {wanted candidate : List Char} {score : Nat}

/-- One of the two is part of the other, or a typo of it. -/
def IsLike (wanted candidate : List Char) : Prop :=
  occursIn wanted candidate ∨ occursIn candidate wanted ∨ isTypoOf wanted candidate

theorem similarity?_self : similarity? wanted wanted = some 100 := if_pos rfl

theorem similarity?_of_isLike (hne : candidate ≠ wanted) (h : IsLike wanted candidate) :
    ∃ score, similarity? wanted candidate = some score ∧ score < 100 := by
  unfold similarity?
  rw [if_neg hne]
  split
  · exact ⟨80, rfl, by decide⟩
  · rename_i hpart
    rw [Bool.or_eq_true, not_or] at hpart
    rw [if_pos ((h.resolve_left hpart.1).resolve_left hpart.2)]
    exact ⟨60, rfl, by decide⟩

theorem similarity?_of_not_isLike (hne : candidate ≠ wanted) (h : ¬ IsLike wanted candidate) :
    similarity? wanted candidate =
      if 4 ≤ commonPrefixLength wanted candidate then
        some (commonPrefixLength wanted candidate * 5)
      else none := by
  obtain ⟨hpart, hwhole, htypo⟩ : ¬ occursIn wanted candidate ∧ ¬ occursIn candidate wanted ∧
      ¬ isTypoOf wanted candidate := by simpa only [IsLike, not_or] using h
  simp only [similarity?, hne, hpart, hwhole, htypo, Bool.or_self, if_false, Bool.false_eq_true]

/-- What equal forms score is reached by first characters in common only. -/
theorem similarity?_eq_some_of_hundred_le (hne : candidate ≠ wanted) (hscore : 100 ≤ score) :
    similarity? wanted candidate = some score ↔
      ¬ IsLike wanted candidate ∧ commonPrefixLength wanted candidate * 5 = score := by
  by_cases hlike : IsLike wanted candidate
  · obtain ⟨other, hother, hlt⟩ := similarity?_of_isLike hne hlike
    simp only [hother, Option.some.injEq, hlike, not_true, false_and, iff_false]
    omega
  · rw [similarity?_of_not_isLike hne hlike]
    split
    · simp [hlike]
    · simp only [reduceCtorEq, false_iff, not_and]
      omega

theorem isSome_similarity?_iff :
    (similarity? wanted candidate).isSome ↔
      candidate = wanted ∨ IsLike wanted candidate ∨ 4 ≤ commonPrefixLength wanted candidate := by
  by_cases heq : candidate = wanted
  · simp [heq, similarity?_self]
  · by_cases hlike : IsLike wanted candidate
    · obtain ⟨score, hscore, -⟩ := similarity?_of_isLike heq hlike
      simp [hscore, hlike]
    · rw [similarity?_of_not_isLike heq hlike]
      split <;> simp_all

theorem score?_eq_similarity? {requested name : String} (hform : comparedForm requested ≠ [])
    (hother : name ≠ requested) :
    score? requested name = similarity? (comparedForm requested) (comparedForm name) :=
  if_neg (by simp [hform, hother])

end Scores

section Namesakes

variable {requested rival name : String} {available : List String}

/-- Another name with the same short form, but for upper and lower case. -/
def IsNamesake (requested name : String) : Prop :=
  name ≠ requested ∧ comparedForm name = comparedForm requested

/-- Scores more than a namesake does, or as much and comes before it by name. -/
structure Outranks (requested rival name : String) : Prop where
  form_ne : comparedForm rival ≠ comparedForm requested
  not_like : ¬ IsLike (comparedForm requested) (comparedForm rival)
  shared : 20 < commonPrefixLength (comparedForm requested) (comparedForm rival) ∨
    commonPrefixLength (comparedForm requested) (comparedForm rival) = 20 ∧ rival < name

/-- A namesake is at the head, and nothing else is before any of them. -/
structure NamesakesFirst (requested : String) (names : List String) : Prop where
  head : ∃ name, names.head? = some name ∧ IsNamesake requested name
  before : names.Pairwise fun earlier later =>
    IsNamesake requested later → IsNamesake requested earlier

/-- Where twenty characters are all of a form, what begins with them has the form as a part. -/
theorem not_outranks_of_length_le (h : (comparedForm requested).length ≤ 20) :
    ¬ Outranks requested rival name := by
  rintro ⟨-, hlike, hshared⟩
  have hprefix : comparedForm requested <+: comparedForm rival :=
    prefix_of_length_le_commonPrefixLength (by omega)
  exact hlike (.inl (occursIn_iff_isInfix.2 hprefix.isInfix))

theorem score?_of_isNamesake (hform : comparedForm requested ≠ [])
    (h : IsNamesake requested name) : score? requested name = some 100 := by
  rw [score?_eq_similarity? hform h.1, h.2, similarity?_self]

theorem outranks_iff (hform : comparedForm requested ≠ [])
    (hrival : comparedForm rival ≠ comparedForm requested) :
    Outranks requested rival name ↔
      ∃ score, score? requested rival = some score ∧
        (⟨score, rival⟩ : Suggestion) < ⟨100, name⟩ := by
  have hother : rival ≠ requested := by rintro rfl; exact hrival rfl
  simp only [score?_eq_similarity? hform hother, Suggestion.mk_lt_mk]
  constructor
  · rintro ⟨-, hlike, hmore | ⟨hjust, hbefore⟩⟩
    · refine ⟨_, (similarity?_eq_some_of_hundred_le hrival ?_).2 ⟨hlike, rfl⟩, .inl ?_⟩ <;> omega
    · refine ⟨_, (similarity?_eq_some_of_hundred_le hrival ?_).2 ⟨hlike, rfl⟩,
        .inr ⟨?_, hbefore⟩⟩ <;> omega
  · rintro ⟨score, hscore, hmore | ⟨rfl, hbefore⟩⟩
    · obtain ⟨hlike, rfl⟩ := (similarity?_eq_some_of_hundred_le hrival hmore.le).1 hscore
      exact ⟨hrival, hlike, .inl (by omega)⟩
    · obtain ⟨hlike, hjust⟩ := (similarity?_eq_some_of_hundred_le hrival le_rfl).1 hscore
      exact ⟨hrival, hlike, .inr ⟨by omega, hbefore⟩⟩

/-- What holds of any two in a strictly ascending list holds of its places. -/
theorem pairwise_standings_iff {R : Suggestion → Suggestion → Prop} :
    (standings requested available).Pairwise R ↔
      ∀ a ∈ standings requested available, ∀ b ∈ standings requested available, a < b → R a b := by
  have hsorted := pairwise_standings requested available
  constructor
  · intro h
    apply List.Pairwise.forall_of_forall_of_flip
    · intro a _ hlt
      exact absurd hlt (lt_irrefl a)
    · apply h.imp
      intro a b hab _
      exact hab
    · apply hsorted.imp
      intro a b hlt hgt
      exact absurd hlt hgt.not_gt
  · intro h
    exact hsorted.imp_of_mem fun ha hb hlt => h _ ha _ hb hlt

/-- Among suggestions that outrank no namesake, what stands before one is one. -/
theorem isNamesake_of_le {s : Suggestion} (hform : comparedForm requested ≠ [])
    (h : ∀ rival ∈ available, ¬ Outranks requested rival name)
    (hs : s ∈ standings requested available) (hname : IsNamesake requested name)
    (hle : s ≤ ⟨100, name⟩) : IsNamesake requested s.name := by
  obtain ⟨hmem, hscore⟩ := mem_standings.1 hs
  refine ⟨?_, ?_⟩
  · intro heq
    simp [score?, heq] at hscore
  · by_contra hne
    apply h s.name hmem
    refine (outranks_iff hform hne).2 ⟨s.score, hscore, lt_of_le_of_ne hle ?_⟩
    intro heq
    rw [(Suggestion.mk.inj heq).2] at hne
    exact hne hname.2

theorem exists_best {s : Suggestion} (hs : s ∈ standings requested available) :
    ∃ best ∈ standings requested available, (standings requested available).head? = some best ∧
      best ≤ s := by
  have hsorted := pairwise_standings requested available
  cases hstandings : standings requested available with
  | nil => simp [hstandings] at hs
  | cons best rest =>
    rw [hstandings] at hs hsorted
    refine ⟨best, List.mem_cons_self, rfl, ?_⟩
    rcases List.mem_cons.1 hs with rfl | hrest
    · exact le_rfl
    · exact (List.rel_of_pairwise_cons hsorted hrest).le

theorem namesakesFirst_suggest {limit : Nat} (hform : comparedForm requested ≠ [])
    (hlimit : 1 ≤ limit) (hsome : ∃ name ∈ available, IsNamesake requested name)
    (h : ∀ rival ∈ available, ∀ name ∈ available, IsNamesake requested name →
      ¬ Outranks requested rival name) :
    NamesakesFirst requested (suggest requested available limit) := by
  rw [suggest_eq_take]
  constructor
  · obtain ⟨name, hname, hnamesake⟩ := hsome
    have hmem : ⟨100, name⟩ ∈ standings requested available :=
      mem_standings.2 ⟨hname, score?_of_isNamesake hform hnamesake⟩
    obtain ⟨best, hbest, hhead, hle⟩ := exists_best hmem
    refine ⟨best.name, ?_, isNamesake_of_le hform (fun rival hrival =>
      h rival hrival name hname hnamesake) hbest hnamesake hle⟩
    rw [List.head?_map, List.head?_take, if_neg (by omega), hhead]
    rfl
  · rw [List.pairwise_map]
    apply List.Pairwise.sublist (List.take_sublist _ _)
    rw [pairwise_standings_iff]
    intro a ha b hb hlt hnamesake
    obtain ⟨hmem, hscore⟩ := mem_standings.1 hb
    have hhundred : b = ⟨100, b.name⟩ := by
      rw [score?_of_isNamesake hform hnamesake] at hscore
      rw [Suggestion.mk.injEq]
      exact ⟨(Option.some.inj hscore).symm, rfl⟩
    apply isNamesake_of_le hform (fun rival hrival => h rival hrival b.name hmem hnamesake) ha
      hnamesake
    rw [← hhundred]
    exact hlt.le

/-- Names with the same form as the requested one are the first suggestions, whatever the limit,
exactly when no other available name outranks one of them: none that is neither part of the
requested form nor the other way round nor a typo has more than its first twenty characters in
common with it, or just these and a name that comes before. -/
theorem namesakes_first_iff (hshort : shorten requested ≠ "")
    (hsome : ∃ name ∈ available, IsNamesake requested name) :
    (∀ limit, 1 ≤ limit → NamesakesFirst requested (suggest requested available limit)) ↔
      ∀ rival ∈ available, ∀ name ∈ available, IsNamesake requested name →
        ¬ Outranks requested rival name := by
  have hform : comparedForm requested ≠ [] := by rwa [Ne, comparedForm_eq_nil]
  constructor
  · intro h rival hrival name hname hnamesake houtranks
    obtain ⟨score, hscore, hlt⟩ := (outranks_iff hform houtranks.form_ne).1 houtranks
    have hfirst := h (available.length + 1) (by omega)
    rw [suggest_eq_names (by omega)] at hfirst
    have hbefore := hfirst.before
    rw [List.pairwise_map, pairwise_standings_iff] at hbefore
    have hrival := hbefore ⟨score, rival⟩ (mem_standings.2 ⟨hrival, hscore⟩) ⟨100, name⟩
      (mem_standings.2 ⟨hname, score?_of_isNamesake hform hnamesake⟩) hlt hnamesake
    exact houtranks.form_ne hrival.2
  · intro h limit hlimit
    exact namesakesFirst_suggest hform hlimit hsome h

end Namesakes

namespace Orders

def offered : List String := ["app::Orders", "shop::order", "shop::Order"]

def mailing : List String :=
  ["mail::OrderConfirmationMailSender", "shop::OrderConfirmationMailTemplates"]

end Orders

open Orders in
/-- The form asked for is short, so nothing outranks the two names that share it. -/
theorem orders_first :
    shorten "app::Order" ≠ "" ∧
    (∃ name ∈ offered, IsNamesake "app::Order" name) ∧
    (∀ limit, 1 ≤ limit → NamesakesFirst "app::Order" (suggest "app::Order" offered limit)) ∧
    suggest "app::Order" offered 3 = ["shop::Order", "shop::order", "app::Orders"] := by
  have hshort : shorten "app::Order" ≠ "" := by decide +kernel
  have hsome : ∃ name ∈ offered, IsNamesake "app::Order" name :=
    ⟨"shop::Order", by decide, by decide, by decide +kernel⟩
  have hlength : (comparedForm "app::Order").length ≤ 20 := by decide +kernel
  refine ⟨hshort, hsome, (namesakes_first_iff hshort hsome).2 ?_, by decide +kernel⟩
  intro rival _ name _ _
  exact not_outranks_of_length_le hlength

open Orders in
/-- Twenty-one characters in common score more than equal forms do. -/
theorem sender_outranked :
    shorten "shop::OrderConfirmationMailSender" ≠ "" ∧
    "mail::OrderConfirmationMailSender" ∈ mailing ∧
    IsNamesake "shop::OrderConfirmationMailSender" "mail::OrderConfirmationMailSender" ∧
    suggest "shop::OrderConfirmationMailSender" mailing 1 =
      ["shop::OrderConfirmationMailTemplates"] ∧
    ¬ NamesakesFirst "shop::OrderConfirmationMailSender"
      (suggest "shop::OrderConfirmationMailSender" mailing 1) := by
  have hsuggest : suggest "shop::OrderConfirmationMailSender" mailing 1 =
      ["shop::OrderConfirmationMailTemplates"] := by decide +kernel
  have hform : comparedForm "shop::OrderConfirmationMailTemplates" ≠
      comparedForm "shop::OrderConfirmationMailSender" := by decide +kernel
  refine ⟨by decide +kernel, by decide, ⟨by decide, by decide +kernel⟩, hsuggest, ?_⟩
  rw [hsuggest]
  rintro ⟨⟨name, hname, hnamesake⟩, -⟩
  cases hname
  exact hform hnamesake.2

section Typos

variable {wanted candidate : List Char}

/-- As many characters, and at least seven tenths of them in place. -/
def Resembles (wanted candidate : List Char) : Prop :=
  candidate.length = wanted.length ∧
    70 * wanted.length ≤ 100 * matchingPositions wanted candidate

theorem occursIn_iff_eq {part cs : List Char} (h : part.length = cs.length) :
    occursIn part cs ↔ part = cs := by
  rw [occursIn_iff_isInfix]
  constructor
  · intro hinfix
    exact hinfix.eq_of_length h
  · rintro rfl
    exact List.infix_refl part

/-- Where a character is a byte, what resembles a form is a typo of it. -/
theorem isTypoOf_of_resembles (hne : wanted ≠ []) (hwanted : ∀ c ∈ wanted, c.utf8Size = 1)
    (hcandidate : ∀ c ∈ candidate, c.utf8Size = 1) (h : Resembles wanted candidate) :
    isTypoOf wanted candidate := by
  obtain ⟨hlength, hplaces⟩ := h
  rw [isTypoOf_iff hne, byteLength_eq_length hwanted, byteLength_eq_length hcandidate]
  omega

/-- Where every character takes two bytes or more, nothing is a typo. -/
theorem not_isTypoOf_of_wide (hne : wanted ≠ []) (h : ∀ c ∈ wanted, 2 ≤ c.utf8Size) :
    ¬ isTypoOf wanted candidate := by
  have hbytes : 2 * wanted.length ≤ byteLength wanted := by
    clear hne
    induction wanted with
    | nil => exact Nat.le_refl 0
    | cons c rest ih =>
      have hsize := h c List.mem_cons_self
      have hrest := ih fun other hother => h other (List.mem_cons_of_mem c hother)
      simp only [byteLength, List.length_cons]
      omega
  have hplaces := matchingPositions_le wanted candidate
  have hpos := List.length_pos_iff.2 hne
  rw [isTypoOf_iff hne]
  omega

/-- A name that resembles the requested one is among the suggestions, if none is left out, exactly
when the forms are equal, or the characters in place are seven tenths of the bytes of the longer
form too and the other has at most two bytes less, or the first four characters are the same. -/
theorem resembling_suggested_iff {requested name : String} {available : List String} {limit : Nat}
    (hmem : name ∈ available) (hother : name ≠ requested) (hlimit : available.length ≤ limit)
    (hform : comparedForm requested ≠ [])
    (h : Resembles (comparedForm requested) (comparedForm name)) :
    name ∈ suggest requested available limit ↔
      comparedForm name = comparedForm requested ∨
      (max (byteLength (comparedForm requested)) (byteLength (comparedForm name)) ≤
          min (byteLength (comparedForm requested)) (byteLength (comparedForm name)) + 2 ∧
        70 * max (byteLength (comparedForm requested)) (byteLength (comparedForm name)) ≤
          100 * matchingPositions (comparedForm requested) (comparedForm name)) ∨
      4 ≤ commonPrefixLength (comparedForm requested) (comparedForm name) := by
  rw [suggest_eq_names hlimit, mem_names_standings, score?_eq_similarity? hform hother,
    isSome_similarity?_iff, IsLike, occursIn_iff_eq h.1, occursIn_iff_eq h.1.symm,
    isTypoOf_iff hform]
  constructor
  · rintro ⟨-, heq | (heq | heq | htypo) | hshared⟩
    · exact .inl heq
    · exact .inl heq.symm
    · exact .inl heq
    · exact .inr (.inl htypo)
    · exact .inr (.inr hshared)
  · rintro (heq | htypo | hshared)
    · exact ⟨hmem, .inl heq⟩
    · exact ⟨hmem, .inr (.inl (.inr (.inr htypo)))⟩
    · exact ⟨hmem, .inr (.inr hshared)⟩

end Typos

/-- One letter off, in a name of letters that take one byte each. -/
theorem clock_recognised :
    "app::Clock" ∈ ["app::Order", "app::Clock"] ∧ "app::Clock" ≠ "app::Clack" ∧
    comparedForm "app::Clack" ≠ [] ∧
    Resembles (comparedForm "app::Clack") (comparedForm "app::Clock") ∧
    "app::Clock" ∈ suggest "app::Clack" ["app::Order", "app::Clock"] 2 := by
  have hmem : "app::Clock" ∈ ["app::Order", "app::Clock"] := by decide
  have hother : "app::Clock" ≠ "app::Clack" := by decide
  have hform : comparedForm "app::Clack" ≠ [] := by decide +kernel
  have hresembles : Resembles (comparedForm "app::Clack") (comparedForm "app::Clock") :=
    ⟨by decide +kernel, by decide +kernel⟩
  have hwanted : (comparedForm "app::Clack").all (·.utf8Size == 1) := by decide +kernel
  have hcandidate : (comparedForm "app::Clock").all (·.utf8Size == 1) := by decide +kernel
  simp only [List.all_eq_true, beq_iff_eq] at hwanted hcandidate
  have htypo := isTypoOf_of_resembles hform hwanted hcandidate hresembles
  refine ⟨hmem, hother, hform, hresembles, ?_⟩
  exact (resembling_suggested_iff hmem hother (by decide) hform hresembles).2
    (.inr (.inl ((isTypoOf_iff hform).1 htypo)))

/-- One letter off at the second place, in a name of letters that take two bytes each. -/
theorem client_not_recognised :
    "магазин::Клиент" ≠ "магазин::Кдиент" ∧
    comparedForm "магазин::Кдиент" ≠ [] ∧ comparedForm "магазин::Клиент" ≠ [] ∧
    Resembles (comparedForm "магазин::Кдиент") (comparedForm "магазин::Клиент") ∧
    "магазин::Клиент" ∉ suggest "магазин::Кдиент" ["магазин::Клиент"] 1 := by
  have hform : comparedForm "магазин::Кдиент" ≠ [] := by decide +kernel
  have hwide : (comparedForm "магазин::Кдиент").all (2 ≤ ·.utf8Size) := by decide +kernel
  simp only [List.all_eq_true, decide_eq_true_eq] at hwide
  have hresembles : Resembles (comparedForm "магазин::Кдиент") (comparedForm "магазин::Клиент") :=
    ⟨by decide +kernel, by decide +kernel⟩
  refine ⟨by decide, hform, by decide +kernel, hresembles, ?_⟩
  rw [suggest_eq_names (by decide), mem_names_standings,
    score?_eq_similarity? hform (by decide), isSome_similarity?_iff, IsLike,
    occursIn_iff_eq hresembles.1, occursIn_iff_eq hresembles.1.symm]
  have htypo : ¬ isTypoOf (comparedForm "магазин::Кдиент") (comparedForm "магазин::Клиент") :=
    not_isTypoOf_of_wide hform hwide
  have hne : comparedForm "магазин::Клиент" ≠ comparedForm "магазин::Кдиент" := by decide +kernel
  have hshared : commonPrefixLength (comparedForm "магазин::Кдиент")
      (comparedForm "магазин::Клиент") = 1 := by decide +kernel
  simp [htypo, hne, hne.symm, hshared]

end Wiring.Text
