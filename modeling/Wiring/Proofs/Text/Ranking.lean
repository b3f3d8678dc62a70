import Mathlib.Data.List.Sort
import Mathlib.Data.Prod.Lex
import Mathlib.Data.String.Basic
import Wiring.Container.Diagnosis

/-!
How suggestions are ranked. They stand in a linear order: by their scores from above, and by their
names where the scores are equal. The score of a name is a function of the name, so in that order a
repeated name stands next to itself, and dropping repeats of neighbours leaves each name once. What
is suggested is the start of one strictly ascending list, and such a list is given by its members.
-/

namespace Wiring

namespace Text

namespace Suggestion

/-- The place of a suggestion among others. -/
def place (s : Suggestion) : ℕᵒᵈ ×ₗ String := toLex (OrderDual.toDual s.score, s.name)

theorem place_injective : Function.Injective place := by
  intro a b h
  obtain ⟨score, name⟩ := a
  obtain ⟨score', name'⟩ := b
  simpa [place] using h

/-- A suggestion is below those that it is listed before. -/
instance : LinearOrder Suggestion := LinearOrder.lift' place place_injective

variable {a b : Suggestion}

theorem le_iff : a ≤ b ↔ b.score < a.score ∨ a.score = b.score ∧ a.name ≤ b.name :=
  Prod.Lex.toLex_le_toLex

theorem mk_lt_mk {score score' : Nat} {name name' : String} :
    (⟨score, name⟩ : Suggestion) < ⟨score', name'⟩ ↔
      score' < score ∨ score = score' ∧ name < name' :=
  Prod.Lex.toLex_lt_toLex

theorem atLeast_iff_le : a.atLeast b ↔ a ≤ b := by
  simp only [atLeast, le_iff, Bool.or_eq_true, Bool.and_eq_true, decide_eq_true_eq, beq_iff_eq]

theorem insert_eq_orderedInsert (s : Suggestion) (others : List Suggestion) :
    s.insert others = others.orderedInsert (· ≤ ·) s := by
  induction others with
  | nil => rfl
  | cons other rest ih => simp only [insert, List.orderedInsert_cons, atLeast_iff_le, ih]

end Suggestion

section Ranked

variable {suggestions : List Suggestion}

theorem ranked_eq_insertionSort (suggestions : List Suggestion) :
    ranked suggestions = suggestions.insertionSort (· ≤ ·) := by
  induction suggestions with
  | nil => rfl
  | cons s rest ih =>
    rw [List.insertionSort_cons, ← ih, ← Suggestion.insert_eq_orderedInsert]
    rfl

theorem mem_ranked {s : Suggestion} : s ∈ ranked suggestions ↔ s ∈ suggestions := by
  rw [ranked_eq_insertionSort]
  exact List.mem_insertionSort _

theorem length_ranked : (ranked suggestions).length = suggestions.length := by
  rw [ranked_eq_insertionSort]
  exact List.length_insertionSort _ _

theorem pairwise_ranked (suggestions : List Suggestion) :
    (ranked suggestions).Pairwise (· ≤ ·) := by
  rw [ranked_eq_insertionSort]
  exact List.pairwise_insertionSort _ _

end Ranked

/-- The scores are those of the names. -/
def Scored (score : String → Option Nat) (suggestions : List Suggestion) : Prop :=
  ∀ s ∈ suggestions, score s.name = some s.score

section Repeats

variable {score : String → Option Nat} {suggestions : List Suggestion} {s kept : Suggestion}
  {previous : Option String}

theorem Scored.eq_of_name_eq (h : Scored score suggestions) {a b : Suggestion}
    (ha : a ∈ suggestions) (hb : b ∈ suggestions) (hname : a.name = b.name) : a = b := by
  have hscore : some a.score = some b.score := by rw [← h a ha, ← h b hb, hname]
  obtain ⟨score, name⟩ := a
  obtain ⟨score', name'⟩ := b
  rw [Suggestion.mk.injEq]
  exact ⟨Option.some.inj hscore, hname⟩

theorem Scored.tail (h : Scored score (s :: suggestions)) : Scored score suggestions :=
  fun other hother => h other (List.mem_cons_of_mem s hother)

theorem dropRepeats_sublist (previous : Option String) (suggestions : List Suggestion) :
    (dropRepeats previous suggestions).Sublist suggestions := by
  induction suggestions generalizing previous with
  | nil => exact List.Sublist.refl []
  | cons s rest ih =>
    unfold dropRepeats
    split
    · exact (ih previous).cons s
    · exact (ih (some s.name)).cons_cons s

/-- What is dropped has the name of what was kept before. -/
theorem mem_dropRepeats_of_mem (h : Scored score suggestions) (hmem : s ∈ suggestions)
    (previous : Option String) : previous = some s.name ∨ s ∈ dropRepeats previous suggestions := by
  induction suggestions generalizing previous with
  | nil => simp at hmem
  | cons first rest ih =>
    unfold dropRepeats
    rcases List.mem_cons.1 hmem with rfl | hrest
    · split
      · left; assumption
      · right; exact List.mem_cons_self
    · split
      · exact ih h.tail hrest previous
      · rcases ih h.tail hrest (some first.name) with hname | hkept
        · -- it repeats the first, which is kept
          have heq := h.eq_of_name_eq List.mem_cons_self hmem (Option.some.inj hname)
          right; rw [heq]; exact List.mem_cons_self
        · right; exact List.mem_cons_of_mem first hkept

theorem mem_dropRepeats (h : Scored score suggestions) :
    s ∈ dropRepeats none suggestions ↔ s ∈ suggestions := by
  constructor
  · apply (dropRepeats_sublist none suggestions).subset
  · intro hmem
    exact (mem_dropRepeats_of_mem h hmem none).resolve_left (by simp)

/-- All repeats of what was kept last stand right behind it. -/
theorem not_mem_dropRepeats (h : Scored score (kept :: suggestions))
    (hsorted : (kept :: suggestions).Pairwise (· ≤ ·)) :
    kept ∉ dropRepeats (some kept.name) suggestions := by
  induction suggestions with
  | nil => simp [dropRepeats]
  | cons next rest ih =>
    have hsub : (kept :: rest).Sublist (kept :: next :: rest) :=
      (List.sublist_cons_self next rest).cons_cons kept
    have hrest : kept ∉ dropRepeats (some kept.name) rest :=
      ih (fun s hs => h s (hsub.subset hs)) (hsorted.sublist hsub)
    unfold dropRepeats
    split
    · exact hrest
    · rename_i hname
      have hle : kept ≤ next := List.rel_of_pairwise_cons hsorted List.mem_cons_self
      intro hmem
      rcases List.mem_cons.1 hmem with rfl | hlater
      · exact hname rfl
      · -- between two of a kind there is nothing else
        have hge : next ≤ kept := List.rel_of_pairwise_cons hsorted.of_cons
          ((dropRepeats_sublist _ _).subset hlater)
        exact hname (congrArg (fun s => some s.name) (le_antisymm hle hge))

theorem pairwise_dropRepeats (h : Scored score suggestions)
    (hsorted : suggestions.Pairwise (· ≤ ·)) :
    (dropRepeats previous suggestions).Pairwise (· < ·) := by
  induction suggestions generalizing previous with
  | nil => exact .nil
  | cons s rest ih =>
    unfold dropRepeats
    split
    · exact ih h.tail hsorted.of_cons
    · refine .cons (fun later hlater => ?_) (ih h.tail hsorted.of_cons)
      have hle : s ≤ later := List.rel_of_pairwise_cons hsorted
        ((dropRepeats_sublist _ _).subset hlater)
      have hne : s ≠ later := by
        rintro rfl
        exact not_mem_dropRepeats h hsorted hlater
      exact lt_of_le_of_ne hle hne

end Repeats

/-- The score of a name among the suggestions for another one, where it is one of them. -/
def score? (requested name : String) : Option Nat :=
  if comparedForm requested = [] ∨ name = requested then none
  else similarity? (comparedForm requested) (comparedForm name)

/-- All suggestions for a name, the best first. -/
def standings (requested : String) (available : List String) : List Suggestion :=
  if comparedForm requested = [] then []
  else dropRepeats none
    (ranked (available.filterMap (suggestion? requested (comparedForm requested))))

section Standings

variable {requested : String} {available : List String} {limit : Nat} {s : Suggestion}

theorem suggest_eq_take (requested : String) (available : List String) (limit : Nat) :
    suggest requested available limit =
      ((standings requested available).take limit).map (·.name) := by
  unfold suggest standings
  split <;> simp_all

theorem suggestion?_eq_some (hform : comparedForm requested ≠ []) {name : String} :
    suggestion? requested (comparedForm requested) name = some s ↔
      name = s.name ∧ score? requested s.name = some s.score := by
  obtain ⟨score, name'⟩ := s
  unfold suggestion? score?
  by_cases hname : name = name'
  · subst hname
    simp only [hform, false_or, true_and]
    split <;> simp [Option.map_eq_some_iff]
  · split <;> simp [Option.map_eq_some_iff, hname]

theorem scored_ranked (hform : comparedForm requested ≠ []) :
    Scored (score? requested)
      (ranked (available.filterMap (suggestion? requested (comparedForm requested)))) := by
  intro s hs
  obtain ⟨name, -, hsome⟩ := List.mem_filterMap.1 (mem_ranked.1 hs)
  exact ((suggestion?_eq_some hform).1 hsome).2

theorem mem_standings :
    s ∈ standings requested available ↔
      s.name ∈ available ∧ score? requested s.name = some s.score := by
  by_cases hform : comparedForm requested = []
  · simp [standings, score?, hform]
  · unfold standings
    rw [if_neg hform, mem_dropRepeats (scored_ranked hform), mem_ranked, List.mem_filterMap]
    simp only [suggestion?_eq_some hform]
    constructor
    · rintro ⟨name, hname, rfl, hscore⟩
      exact ⟨hname, hscore⟩
    · rintro ⟨hname, hscore⟩
      exact ⟨s.name, hname, rfl, hscore⟩

theorem pairwise_standings (requested : String) (available : List String) :
    (standings requested available).Pairwise (· < ·) := by
  unfold standings
  split
  · exact .nil
  · apply pairwise_dropRepeats (scored_ranked _) (pairwise_ranked _)
    assumption

theorem length_standings_le (requested : String) (available : List String) :
    (standings requested available).length ≤ available.length := by
  unfold standings
  split
  · exact Nat.zero_le _
  · calc (dropRepeats none _).length
        ≤ (ranked (available.filterMap _)).length := (dropRepeats_sublist _ _).length_le
      _ = (available.filterMap _).length := length_ranked
      _ ≤ available.length := List.length_filterMap_le _ _

/-- Neither the order of the names nor how often one is listed matters. -/
theorem standings_congr {other : List String} (h : ∀ name, name ∈ other ↔ name ∈ available) :
    standings requested other = standings requested available := by
  apply (pairwise_standings requested other).eq_of_mem_iff (pairwise_standings requested available)
  intro s
  rw [mem_standings, mem_standings, h]

theorem nodup_names_standings (requested : String) (available : List String) :
    ((standings requested available).map (·.name)).Nodup := by
  rw [List.nodup_map_iff_inj_on (pairwise_standings requested available).nodup]
  intro a ha b hb hname
  have hscored : Scored (score? requested) (standings requested available) :=
    fun s hs => (mem_standings.1 hs).2
  exact hscored.eq_of_name_eq ha hb hname

theorem mem_names_standings {name : String} :
    name ∈ (standings requested available).map (·.name) ↔
      name ∈ available ∧ (score? requested name).isSome := by
  rw [List.mem_map, Option.isSome_iff_exists]
  constructor
  · rintro ⟨s, hs, rfl⟩
    obtain ⟨hname, hscore⟩ := mem_standings.1 hs
    exact ⟨hname, s.score, hscore⟩
  · rintro ⟨hname, score, hscore⟩
    exact ⟨⟨score, name⟩, mem_standings.2 ⟨hname, hscore⟩, rfl⟩

theorem suggest_eq_names (hlimit : available.length ≤ limit) :
    suggest requested available limit = (standings requested available).map (·.name) := by
  rw [suggest_eq_take, List.take_of_length_le ((length_standings_le _ _).trans hlimit)]

theorem suggest_sublist (requested : String) (available : List String) (limit : Nat) :
    (suggest requested available limit).Sublist
      ((standings requested available).map (·.name)) := by
  rw [suggest_eq_take]
  exact (List.take_sublist limit _).map _

theorem suggest_congr {other : List String} (h : ∀ name, name ∈ other ↔ name ∈ available) :
    suggest requested other limit = suggest requested available limit := by
  rw [suggest_eq_take, suggest_eq_take, standings_congr h]

theorem suggest_prefix {more : Nat} (h : limit ≤ more) :
    suggest requested available limit <+: suggest requested available more := by
  rw [suggest_eq_take, suggest_eq_take]
  exact (List.take_prefix_take_left h).map _

end Standings

/-- What is suggested depends on which names there are and on nothing else about their list. There
are no more suggestions than the limit, all different, each of them an available name and none the
requested one; a higher limit only adds suggestions behind them. With a limit that leaves none out
they are the names that have a score. -/
theorem suggest_ranks_names (requested : String) (available : List String) (limit : Nat) :
    (∀ other : List String, (∀ name, name ∈ other ↔ name ∈ available) →
      suggest requested other limit = suggest requested available limit) ∧
    (suggest requested available limit).length ≤ limit ∧
    (suggest requested available limit).Nodup ∧
    (∀ name ∈ suggest requested available limit, name ∈ available ∧ name ≠ requested) ∧
    (∀ more, limit ≤ more →
      suggest requested available limit <+: suggest requested available more) ∧
    (available.length ≤ limit → ∀ name, name ∈ suggest requested available limit ↔
      name ∈ available ∧ (score? requested name).isSome) := by
  refine ⟨fun other h => suggest_congr h, ?_, ?_, ?_, fun more h => suggest_prefix h, ?_⟩
  · rw [suggest_eq_take, List.length_map]
    exact List.length_take_le _ _
  · exact (nodup_names_standings requested available).sublist (suggest_sublist _ _ _)
  · intro name hname
    obtain ⟨hmem, hscore⟩ := mem_names_standings.1 ((suggest_sublist _ _ _).subset hname)
    refine ⟨hmem, ?_⟩
    rintro rfl
    simp [score?] at hscore
  · intro hlimit name
    rw [suggest_eq_names hlimit]
    exact mem_names_standings

namespace Orders

def listed : List String :=
  ["app::Clock", "app::OrderService", "app::OrderRepository", "app::OrderService"]

def relisted : List String := ["app::OrderRepository", "app::OrderService", "app::Clock"]

end Orders

open Orders in
/-- The same services, listed in another order and without a repeat. -/
theorem services_relisted :
    (∀ name, name ∈ relisted ↔ name ∈ listed) ∧
    suggest "app::OrderServise" relisted 2 = suggest "app::OrderServise" listed 2 ∧
    suggest "app::OrderServise" listed 1 <+: suggest "app::OrderServise" listed 2 ∧
    "app::OrderService" ∈ suggest "app::OrderServise" listed 4 ∧
    suggest "app::OrderServise" listed 2 = ["app::OrderService", "app::OrderRepository"] := by
  have hnames : ∀ name, name ∈ relisted ↔ name ∈ listed := by
    intro name
    simp only [listed, relisted, List.mem_cons, List.not_mem_nil]
    tauto
  obtain ⟨hsame, -, -, -, -, -⟩ := suggest_ranks_names "app::OrderServise" listed 2
  obtain ⟨-, -, -, -, hprefix, -⟩ := suggest_ranks_names "app::OrderServise" listed 1
  obtain ⟨-, -, -, -, -, hall⟩ := suggest_ranks_names "app::OrderServise" listed 4
  have hmem : "app::OrderService" ∈ suggest "app::OrderServise" listed 4 := by
    apply (hall (by decide) _).2
    exact ⟨by decide, by decide +kernel⟩
  have hfirst : suggest "app::OrderServise" listed 2 =
      ["app::OrderService", "app::OrderRepository"] := by decide +kernel
  exact ⟨hnames, hsame relisted hnames, hprefix 2 (by decide), hmem, hfirst⟩

end Text

/-- The order in which a container lists its types does not show in the suggestions. -/
theorem Container.suggestions_perm {c other : Container} (ctx : Context) (requested : TypeExpr)
    (h : other.byType.keys.Perm c.byType.keys) :
    other.suggestions ctx requested = c.suggestions ctx requested := by
  have hnames := (h.filter (·.isClosed)).map (·.identityText)
  simp only [suggestions, Text.suggest_congr fun _ => hnames.mem_iff]

end Wiring
