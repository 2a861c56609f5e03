import Ormpp.Data.Run
import Ormpp.Sql.Lexer

/-!
# Regions of a text

A machine that follows a text tells where its quoted text and comments are. The question marks
outside them are the placeholders of the text, and two machines that stay in step find the same
ones. Substitution puts other texts at given positions and leaves the rest alone.
-/

namespace Ormpp

namespace Sql

structure Regions (σ : Type) where
  step : σ → Byte → σ
  /-- A question mark that is read in this state belongs to the statement proper. -/
  outside : σ → Bool

namespace Regions

variable {σ τ : Type}

/-- The positions of the question marks outside, where the text begins at the given position. -/
def positions (R : Regions σ) : σ → ℕ → Bytes → List ℕ
  | _, _, [] => []
  | s, i, b :: rest =>
    if b = questionMark ∧ R.outside s then i :: R.positions (R.step s b) (i + 1) rest
    else R.positions (R.step s b) (i + 1) rest

variable {R : Regions σ}

theorem positions_append (s : σ) (i : ℕ) (xs ys : Bytes) :
    R.positions s i (xs ++ ys)
      = R.positions s i xs ++ R.positions (xs.foldl R.step s) (i + xs.length) ys := by
  induction xs generalizing s i with
  | nil => rfl
  | cons b xs ih =>
    have hlength : i + (b :: xs).length = i + 1 + xs.length := by
      rw [List.length_cons, Nat.add_comm xs.length, Nat.add_assoc]
    rw [List.cons_append, positions, positions, List.foldl_cons, hlength, ih]
    split_ifs <;> rfl

theorem positions_bounds {s : σ} {i : ℕ} {text : Bytes} {p : ℕ} (h : p ∈ R.positions s i text) :
    i ≤ p ∧ p < i + text.length := by
  induction text generalizing s i with
  | nil => cases h
  | cons b rest ih =>
    rw [positions] at h
    rw [List.length_cons]
    have hrest (h : p ∈ R.positions (R.step s b) (i + 1) rest) :
        i ≤ p ∧ p < i + (rest.length + 1) := by
      obtain ⟨hlow, hhigh⟩ := ih h
      exact ⟨by omega, by omega⟩
    split_ifs at h
    · obtain rfl | h := List.mem_cons.mp h
      · exact ⟨le_rfl, by omega⟩
      · exact hrest h
    · exact hrest h

/-- Two machines find the same positions as long as they stay in step. -/
theorem positions_eq {R : Regions σ} {S : Regions τ} {sim : σ → τ → Prop} {ok : τ → Byte → Prop}
    (houtside : ∀ s t, sim s t → ok t questionMark → R.outside s = S.outside t)
    (hstep : ∀ s t b, sim s t → ok t b → sim (R.step s b) (S.step t b))
    {text : Bytes} {s : σ} {t : τ} (i : ℕ) (h : sim s t) (hok : Run.Along S.step ok t text) :
    R.positions s i text = S.positions t i text := by
  induction text generalizing s t i with
  | nil => rfl
  | cons b rest ih =>
    obtain ⟨hb, hrest⟩ := hok
    rw [positions, positions, ih (i + 1) (hstep s t b h hb) hrest]
    by_cases hq : b = questionMark
    · subst hq
      rw [houtside s t h hb]
    · simp only [hq, false_and]

end Regions

/-! ## Substitution -/

/-- The text, which begins at the given position, with the byte at each of the given positions
replaced. The positions are in ascending order. -/
def substitute : ℕ → List (ℕ × Bytes) → Bytes → Bytes
  | _, [], text => text
  | _, _ :: _, [] => []
  | i, (p, value) :: values, b :: rest =>
    if p = i then value ++ substitute (i + 1) values rest
    else b :: substitute (i + 1) ((p, value) :: values) rest

/-- What is in front of the first position is left alone. -/
theorem substitute_cons (i : ℕ) (before : Bytes) (value : Bytes) (values : List (ℕ × Bytes))
    (b : Byte)
    (behind : Bytes) :
    substitute i ((i + before.length, value) :: values) (before ++ b :: behind)
      = before ++ value ++ substitute (i + before.length + 1) values behind := by
  induction before generalizing i with
  | nil => exact if_pos rfl
  | cons c before ih =>
    have hne : ¬i + (c :: before).length = i := by
      rw [List.length_cons]
      omega
    have hlength : i + (c :: before).length = i + 1 + before.length := by
      rw [List.length_cons]
      omega
    rw [List.cons_append, substitute, if_neg hne, hlength, ih]
    rfl

theorem substitute_nil (i : ℕ) (text : Bytes) : substitute i [] text = text := by
  cases text <;> rfl

/-- A byte in front of every position is left alone. -/
theorem substitute_of_lt {i : ℕ} {values : List (ℕ × Bytes)} (h : ∀ p ∈ values, i < p.1) (b : Byte)
    (rest : Bytes) : substitute i values (b :: rest) = b :: substitute (i + 1) values rest := by
  cases values with
  | nil => rw [substitute_nil, substitute_nil]
  | cons p values =>
    have hne : p.1 ≠ i := (h p List.mem_cons_self).ne'
    exact if_neg hne

/-- The positions of a text in front do not reach into the text behind it. -/
theorem Regions.substitute_append {σ : Type} {R : Regions σ} {s : σ} {i : ℕ} {xs ys : Bytes}
    {values : List Bytes} (hvalues : (R.positions s i xs).length = values.length)
    {later : List (ℕ × Bytes)} (hlater : ∀ p ∈ later, i + xs.length ≤ p.1) :
    substitute i ((R.positions s i xs).zip values ++ later) (xs ++ ys)
      = substitute i ((R.positions s i xs).zip values) xs
        ++ substitute (i + xs.length) later ys := by
  induction xs generalizing s i values with
  | nil => rw [positions, List.zip_nil_left, substitute_nil]; rfl
  | cons b xs ih =>
    have hlength : i + (b :: xs).length = i + 1 + xs.length := by
      rw [List.length_cons, Nat.add_comm xs.length, Nat.add_assoc]
    rw [hlength] at hlater ⊢
    rw [positions] at hvalues ⊢
    split_ifs at hvalues ⊢
    · rcases values with _ | ⟨value, values⟩
      · exact absurd hvalues (Nat.succ_ne_zero _)
      · rw [List.zip_cons_cons, List.cons_append, List.cons_append, substitute, if_pos rfl,
          substitute, if_pos rfl, ih (Nat.succ_inj.mp hvalues) hlater, List.append_assoc]
    · have hbehind : ∀ p ∈ (R.positions (R.step s b) (i + 1) xs).zip values, i < p.1 :=
        fun p hp ↦ (positions_bounds (List.of_mem_zip hp).1).1
      have hall : ∀ p ∈ (R.positions (R.step s b) (i + 1) xs).zip values ++ later, i < p.1 := by
        intro p hp
        obtain hp | hp := List.mem_append.mp hp
        · exact hbehind p hp
        · exact (by omega : i < i + 1 + xs.length).trans_le (hlater p hp)
      rw [List.cons_append, substitute_of_lt hall, substitute_of_lt hbehind, ih hvalues hlater]
      rfl

/-- Bytes that are put in can be told from the text that comes out. -/
theorem Regions.substitute_inj {σ : Type} {R : Regions σ} {s : σ} {i : ℕ} {text : Bytes}
    {as bs : List Bytes} (ha : as.length = (R.positions s i text).length)
    (hb : bs.length = (R.positions s i text).length) (has : ∀ a ∈ as, a.length = 1)
    (hbs : ∀ b ∈ bs, b.length = 1)
    (h : substitute i ((R.positions s i text).zip as) text
      = substitute i ((R.positions s i text).zip bs) text) : as = bs := by
  induction text generalizing s i as bs with
  | nil =>
    rw [List.length_eq_zero_iff.mp ha, List.length_eq_zero_iff.mp hb]
  | cons c rest ih =>
    rw [positions] at ha hb h
    split_ifs at ha hb h with hc
    · -- The first byte of what comes out is the value that was put in.
      obtain ⟨a, as, rfl⟩ := List.exists_cons_of_length_eq_add_one ha
      obtain ⟨b, bs, rfl⟩ := List.exists_cons_of_length_eq_add_one hb
      obtain ⟨haone, has⟩ := List.forall_mem_cons.mp has
      obtain ⟨hbone, hbehind⟩ := List.forall_mem_cons.mp hbs
      rw [List.zip_cons_cons, List.zip_cons_cons, substitute, substitute, if_pos rfl,
        if_pos rfl] at h
      obtain ⟨rfl, hrest⟩ := List.append_inj h (haone.trans hbone.symm)
      exact congrArg (a :: ·) (ih (Nat.succ.inj ha) (Nat.succ.inj hb) has hbehind hrest)
    · have hlt (vs : List Bytes) :
          ∀ p ∈ (R.positions (R.step s c) (i + 1) rest).zip vs, i < p.1 := fun p hp ↦
        (positions_bounds (List.of_mem_zip hp).1).1
      rw [substitute_of_lt (hlt as), substitute_of_lt (hlt bs)] at h
      exact ih ha hb has hbs (List.cons.inj h).2

end Sql

end Ormpp
