import Mathlib.Data.List.Chain
import Wiring.Text.Shorten

/-!
What short forms look like. To shorten a text keeps its delimiters as they are and leaves no two
colons side by side; a text in which none are is its own short form. So there is nothing left to
shorten in a short form.
-/

namespace Wiring.Text

variable {c d : Char} {pending cs rest : List Char}

/-- Not both of them are colons. -/
def Apart (c d : Char) : Prop := c = ':' → d ≠ ':'

theorem Apart.symm (h : Apart c d) : Apart d c := fun hd hc => h hc hd

theorem ne_colon_of_isDelimiter (h : isDelimiter d) : d ≠ ':' := by
  rintro rfl
  simp [isDelimiter] at h

theorem isChain_reverse_apart (h : pending.IsChain Apart) : pending.reverse.IsChain Apart :=
  List.isChain_reverse.2 (h.imp fun _ _ => Apart.symm)

theorem isChain_take_one (cs : List Char) : (cs.take 1 ++ []).IsChain Apart := by
  cases cs <;> simp

/-- What is pending has no two colons side by side, nor does it get them from the next character. -/
theorem isChain_shortenFrom (h : (cs.take 1 ++ pending).IsChain Apart) :
    (shortenFrom pending cs).IsChain Apart := by
  fun_induction shortenFrom pending cs with
  | case1 pending => exact isChain_reverse_apart h
  | case2 pending rest ih => exact ih (isChain_take_one rest)
  | case3 pending c rest hpair hc ih =>
    have hcolon := ne_colon_of_isDelimiter hc
    have hrest : (shortenFrom [] rest).IsChain Apart := ih (isChain_take_one rest)
    refine List.isChain_append.2 ⟨isChain_reverse_apart h.tail, ?_, ?_⟩
    · exact List.isChain_cons.2 ⟨fun _ _ heq => absurd heq hcolon, hrest⟩
    · rintro last - _ ⟨⟩ -
      exact hcolon
  | case4 pending c rest hpair hc ih =>
    refine ih ?_
    cases rest with
    | nil => exact h
    | cons next after =>
      -- two colons would have been taken together
      refine List.isChain_cons_cons.2 ⟨fun hnext hcolon => ?_, h⟩
      exact hpair after hcolon (by rw [hnext])

theorem filter_shortenFrom (h : ∀ c ∈ pending, ¬ isDelimiter c) :
    (shortenFrom pending cs).filter isDelimiter = cs.filter isDelimiter := by
  fun_induction shortenFrom pending cs with
  | case1 pending => simpa using h
  | case2 pending rest ih =>
    rw [ih (by simp), List.filter_cons_of_neg (by decide), List.filter_cons_of_neg (by decide)]
  | case3 pending c rest hpair hc ih =>
    have hpending : pending.reverse.filter isDelimiter = [] := by simpa using h
    rw [List.filter_append, hpending, List.nil_append, List.filter_cons_of_pos hc,
      List.filter_cons_of_pos hc, ih (by simp)]
  | case4 pending c rest hpair hc ih =>
    rw [ih (List.forall_mem_cons.2 ⟨hc, h⟩), List.filter_cons_of_neg hc]

/-- Where no two colons stand side by side nothing is dropped. -/
theorem shortenFrom_of_isChain (h : cs.IsChain Apart) :
    shortenFrom pending cs = pending.reverse ++ cs := by
  fun_induction shortenFrom pending cs with
  | case1 pending => exact (List.append_nil _).symm
  | case2 pending rest ih => exact absurd rfl ((List.isChain_cons_cons.1 h).1 rfl)
  | case3 pending c rest hpair hc ih => rw [ih h.tail, List.reverse_nil, List.nil_append]
  | case4 pending c rest hpair hc ih => rw [ih h.tail, List.reverse_cons, List.append_assoc]; rfl

theorem isChain_apart_iff : cs.IsChain Apart ↔ ¬ [':', ':'] <:+: cs := by
  constructor
  · intro h hpair
    have hboth := List.IsChain.infix h hpair
    exact List.isChain_pair.1 hboth rfl rfl
  · intro h
    rw [List.isChain_iff_forall_rel_of_append_cons_cons]
    rintro c d before after rfl rfl rfl
    exact h ⟨before, after, by simp⟩

theorem isChain_shorten (name : String) : (shorten name).toList.IsChain Apart := by
  rw [shorten, String.toList_ofList]
  exact isChain_shortenFrom (isChain_take_one name.toList)

theorem filter_shorten (name : String) :
    (shorten name).toList.filter isDelimiter = name.toList.filter isDelimiter := by
  rw [shorten, String.toList_ofList]
  exact filter_shortenFrom fun c hc => absurd hc List.not_mem_nil

theorem shorten_eq_self_iff {name : String} : shorten name = name ↔ name.toList.IsChain Apart := by
  constructor
  · intro h
    rw [← h]
    exact isChain_shorten name
  · intro h
    rw [shorten, shortenFrom_of_isChain h, List.reverse_nil, List.nil_append, String.ofList_toList]

/-- A short form has no two colons side by side, and the delimiters of the text in their order. The
texts that are their own short forms are those without two colons side by side; a short form is one
of them. -/
theorem shorten_isProjection (name : String) :
    ¬ [':', ':'] <:+: (shorten name).toList ∧
    (shorten name).toList.filter isDelimiter = name.toList.filter isDelimiter ∧
    shorten (shorten name) = shorten name ∧
    (shorten name = name ↔ ¬ [':', ':'] <:+: name.toList) := by
  have hshort := isChain_shorten name
  refine ⟨isChain_apart_iff.1 hshort, filter_shorten name, shorten_eq_self_iff.2 hshort, ?_⟩
  rw [shorten_eq_self_iff, isChain_apart_iff]

/-- Of three colons the first two end a path; the third begins what follows. -/
example : shorten "app:::Cache<core::Key:>" = ":Cache<Key:>" := by decide +kernel

end Wiring.Text
