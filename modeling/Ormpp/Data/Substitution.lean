import Mathlib.Tactic

/-!
# Putting texts in place of marks

A text has marks, and a list of texts is to stand in their place. Done one after the other, each of
them replaces the first mark that there is by then, so that a mark in a text that was put in is
taken for one of the next. The outcome is that of all at once when no text but the last has a mark.
-/

namespace Ormpp

namespace Substitution

variable {α : Type} [DecidableEq α] (mark : α)

/-- The text takes the place of the first mark, if there is one. -/
def replaceFirst (new : List α) : List α → Option (List α)
  | [] => none
  | c :: text =>
    if c = mark then some (new ++ text) else (replaceFirst new text).map fun text ↦ c :: text

/-- The texts take the place of the first mark one after the other. -/
def replaceEach (text : List α) : List (List α) → Option (List α)
  | [] => some text
  | new :: more => (replaceFirst mark new text).bind fun text ↦ replaceEach text more

/-- Each text takes the place of a mark of the text. -/
def fill : List (List α) → List α → List α
  | _, [] => []
  | [], c :: text => c :: text
  | new :: more, c :: text =>
    if c = mark then new ++ fill more text else c :: fill (new :: more) text

variable {mark}

theorem fill_nil (text : List α) : fill mark [] text = text := by
  rcases text with _ | ⟨c, text⟩ <;> rfl

theorem fill_append {front : List α} (h : mark ∉ front) (news : List (List α)) (text : List α) :
    fill mark news (front ++ text) = front ++ fill mark news text := by
  induction front with
  | nil => rfl
  | cons c front ih =>
    obtain ⟨hc, hfront⟩ := List.ne_and_not_mem_of_not_mem_cons h
    rcases news with _ | ⟨new, more⟩
    · rw [fill_nil, fill_nil]
    · rw [List.cons_append, fill, if_neg (Ne.symm hc), ih hfront, List.cons_append]

theorem fill_mark (new : List α) (more : List (List α)) (text : List α) :
    fill mark (new :: more) (mark :: text) = new ++ fill mark more text := if_pos rfl

theorem replaceFirst_append {front : List α} (h : mark ∉ front) (new text : List α) :
    replaceFirst mark new (front ++ text)
      = (replaceFirst mark new text).map fun text ↦ front ++ text := by
  induction front with
  | nil => exact (congrFun Option.map_id_fun _).symm
  | cons c front ih =>
    obtain ⟨hc, hfront⟩ := List.ne_and_not_mem_of_not_mem_cons h
    rw [List.cons_append, replaceFirst, if_neg (Ne.symm hc), ih hfront, Option.map_map]
    rfl

theorem replaceFirst_of_notMem {text : List α} (h : mark ∉ text) (new : List α) :
    replaceFirst mark new text = none := by
  rw [← List.append_nil text, replaceFirst_append h]
  rfl

/-- The first mark of the text. -/
theorem replaceFirst_append_mark {front : List α} (h : mark ∉ front) (new rest : List α) :
    replaceFirst mark new (front ++ mark :: rest) = some (front ++ (new ++ rest)) := by
  rw [replaceFirst_append h, replaceFirst, if_pos rfl, Option.map_some]

/-- What is in front of all marks stays in front. -/
theorem replaceEach_append {front : List α} (h : mark ∉ front) (text : List α)
    (news : List (List α)) :
    replaceEach mark (front ++ text) news
      = (replaceEach mark text news).map fun text ↦ front ++ text := by
  induction news generalizing text with
  | nil => rfl
  | cons new more ih =>
    rw [replaceEach, replaceEach, replaceFirst_append h]
    rcases replaceFirst mark new text with _ | text'
    · rfl
    · exact ih text'

/-! ## One after the other and all at once -/

/-- A text that does not begin with a mark hides the marks that it has from the rest: what replaces
its first one ends up inside of it. -/
theorem replaceEach_ne {front : List α} (hfront : mark ∉ front) {b : α} (hb : b ≠ mark)
    (word rest : List α) (more : List (List α)) (other : List α) :
    replaceEach mark (front ++ mark :: rest) ((b :: word) :: more)
      ≠ some (front ++ mark :: other) := by
  have hnext : mark ∉ front ++ [b] := by
    simp [hfront, Ne.symm hb]
  have htext : front ++ (b :: word ++ rest) = (front ++ [b]) ++ (word ++ rest) := by simp
  rw [replaceEach, replaceFirst_append_mark hfront, Option.bind_some, htext,
    replaceEach_append hnext]
  intro heq
  obtain ⟨text, -, htext⟩ := Option.map_eq_some_iff.mp heq
  rw [List.append_assoc, List.append_cancel_left_eq, List.singleton_append,
    List.cons.injEq] at htext
  exact hb htext.1

theorem replaceEach_eq_fill_iff {news : List (List α)} {text : List α}
    (hcount : text.count mark = news.length)
    (hbegin : ∀ new ∈ news, ∃ b word, new = b :: word ∧ b ≠ mark) :
    replaceEach mark text news = some (fill mark news text) ↔
      ∀ new ∈ news.dropLast, mark ∉ new := by
  induction news generalizing text with
  | nil => exact iff_of_true (congrArg some (fill_nil text).symm) (by simp)
  | cons new more ih =>
    have hmark : mark ∈ text := by
      rw [← List.count_pos_iff, hcount]
      exact Nat.succ_pos _
    obtain ⟨front, rest, rfl, hfront⟩ := List.eq_append_cons_of_mem hmark
    rw [replaceEach, replaceFirst_append_mark hfront, Option.bind_some, fill_append hfront,
      fill_mark, replaceEach_append hfront, Option.map_eq_some_iff]
    simp only [List.append_cancel_left_eq, exists_eq_right]
    rcases more with _ | ⟨next, more⟩
    · rw [fill_nil]
      exact iff_of_true rfl (by simp)
    rw [List.dropLast_cons_of_ne_nil (List.cons_ne_nil _ _), List.forall_mem_cons]
    have hrest : rest.count mark = (next :: more).length := by
      rw [List.count_append, List.count_eq_zero.mpr hfront, List.count_cons_self,
        List.length_cons] at hcount
      omega
    by_cases hnew : mark ∈ new
    · -- The next text would take the place of a mark of this one.
      obtain ⟨before, behind, hsplit, hbefore⟩ := List.eq_append_cons_of_mem hnew
      obtain ⟨b, word, rfl, hb⟩ := hbegin next (List.mem_cons_of_mem _ List.mem_cons_self)
      refine iff_of_false ?_ fun h ↦ h.1 hnew
      rw [hsplit, List.append_assoc, List.append_assoc, List.cons_append, List.cons_append]
      exact replaceEach_ne hbefore hb _ _ _ _
    · rw [replaceEach_append hnew, Option.map_eq_some_iff, and_iff_right hnew,
        ← ih hrest fun new h ↦ hbegin new (List.mem_cons_of_mem _ h)]
      simp only [List.append_cancel_left_eq, exists_eq_right]

/-! ## Whether there is a mark for each -/

/-- There is a mark for the next text as long as the text and those that were put in have more of
them than were replaced. -/
theorem isSome_replaceEach_iff (text : List α) (news : List (List α)) :
    (replaceEach mark text news).isSome ↔
      ∀ k < news.length, k < text.count mark + ((news.take k).map (List.count mark)).sum := by
  induction news generalizing text with
  | nil => simp [replaceEach]
  | cons new more ih =>
    by_cases hmark : mark ∈ text
    · obtain ⟨front, rest, rfl, hfront⟩ := List.eq_append_cons_of_mem hmark
      have hzero : front.count mark = 0 := List.count_eq_zero.mpr hfront
      rw [replaceEach, replaceFirst_append_mark hfront, Option.bind_some, ih]
      simp only [List.count_append, hzero, List.count_cons_self]
      refine ⟨fun h k hk ↦ ?_, fun h k hk ↦ ?_⟩
      · rcases k with _ | k
        · omega
        · have hstep := h k (Nat.lt_of_succ_lt_succ hk)
          rw [List.take_succ_cons, List.map_cons, List.sum_cons]
          omega
      · have hstep := h (k + 1) (Nat.succ_lt_succ hk)
        rw [List.take_succ_cons, List.map_cons, List.sum_cons] at hstep
        omega
    · rw [replaceEach, replaceFirst_of_notMem hmark]
      refine iff_of_false Bool.false_ne_true fun h ↦ ?_
      have hfirst := h 0 (Nat.succ_pos _)
      rw [List.count_eq_zero.mpr hmark] at hfirst
      simp at hfirst

end Substitution

end Ormpp
