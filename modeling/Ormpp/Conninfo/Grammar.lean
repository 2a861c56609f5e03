import Ormpp.Data.Transducer
import Ormpp.Sql.Lexer

/-!
# Connection strings of `keyword=value` pairs

The grammar of libpq: blanks separate the pairs and may surround the equals sign, a value ends at a
blank or stands between quotes, and a backslash takes the next character as it is.

A pair that is written as `keyword=value` is read back exactly when the value has no blank and no
backslash, does not begin with a quote and is not empty; the last value of the string may be empty.
Any other value is read as something else, whatever follows it. Once a byte of the value has been
read that does not come out, it is owed: it has to come out of what is behind it, where it is either
escaped, so that a backslash is owed with it, or the end of what is read.
-/

namespace Ormpp

namespace Conninfo

open Sql

def equalsSign : Byte := 0x3d

/-- `isspace`, in the C locale. -/
def isSpace (b : Byte) : Bool := b == 0x20 || (0x09 ≤ b && b ≤ 0x0d)

inductive Token
  | pair (keyword value : Bytes)
  /-- The string ends inside a keyword or a quoted value, or an equals sign is missing. -/
  | error
  deriving DecidableEq

inductive Mode
  /-- In front of a keyword. -/
  | between
  | keyword (k : Bytes)
  /-- Behind a keyword and a blank. -/
  | afterKeyword (k : Bytes)
  /-- Behind an equals sign. -/
  | beforeValue (k : Bytes)
  | value (quoted : Bool) (k acc : Bytes)
  /-- Behind a backslash. -/
  | escape (quoted : Bool) (k acc : Bytes)
  | failed

/-- The byte ends a value. -/
def endsValue (quoted : Bool) (b : Byte) : Bool := if quoted then b == quote else isSpace b

def stepValue (quoted : Bool) (k acc : Bytes) (b : Byte) : Mode × List Token :=
  if endsValue quoted b then (.between, [.pair k acc])
  else if b = backslash then (.escape quoted k acc, [])
  else (.value quoted k (acc ++ [b]), [])

def step : Mode → Byte → Mode × List Token
  | .between, b =>
    if isSpace b then (.between, [])
    else if b = equalsSign then (.beforeValue [], [])
    else (.keyword [b], [])
  | .keyword k, b =>
    if b = equalsSign then (.beforeValue k, [])
    else if isSpace b then (.afterKeyword k, [])
    else (.keyword (k ++ [b]), [])
  | .afterKeyword k, b =>
    if isSpace b then (.afterKeyword k, [])
    else if b = equalsSign then (.beforeValue k, [])
    else (.failed, [.error])
  | .beforeValue k, b =>
    if isSpace b then (.beforeValue k, [])
    else if b = quote then (.value true k [], [])
    else stepValue false k [] b
  | .value quoted k acc, b => stepValue quoted k acc b
  | .escape quoted k acc, b => (.value quoted k (acc ++ [b]), [])
  | .failed, _ => (.failed, [])

def finish : Mode → List Token
  | .between | .failed => []
  | .keyword _ | .afterKeyword _ | .value true _ _ | .escape true _ _ => [.error]
  | .beforeValue k => [.pair k []]
  | .value false k acc | .escape false k acc => [.pair k acc]

def parser : Transducer Mode Byte Token := ⟨step, finish⟩

/-- `conninfo_parse`. -/
def parse (text : Bytes) : List Token := parser.output .between text

/-! ## Writing pairs -/

/-- A pair as it is written. -/
def written (p : Bytes × Bytes) : Bytes := p.1 ++ ascii "=" ++ p.2

/-- Some pairs, with blanks between them. -/
def joined : List (Bytes × Bytes) → Bytes
  | [] => []
  | [p] => written p
  | p :: q :: ps => written p ++ blank :: joined (q :: ps)

/-- Pairs with a blank behind each of them, the last blank taken away. -/
theorem dropLast_flatMap_written (ps : List (Bytes × Bytes)) :
    (ps.flatMap fun p ↦ written p ++ [blank]).dropLast = joined ps := by
  induction ps with
  | nil => rfl
  | cons p ps ih =>
    obtain _ | ⟨q, ps⟩ := ps
    · rw [List.flatMap_cons, List.flatMap_nil, List.append_nil]
      exact List.dropLast_concat
    · have hne : ((q :: ps).flatMap fun p ↦ written p ++ [blank]) ≠ [] := by simp
      rw [List.flatMap_cons, List.dropLast_append_of_ne_nil hne, ih, List.append_assoc]
      rfl

theorem notMem_joined_iff {b : Byte} (hblank : b ≠ blank) (hequals : b ≠ equalsSign)
    {ps : List (Bytes × Bytes)} (hps : ∀ p ∈ ps, b ∉ p.1) :
    b ∉ joined ps ↔ ∀ p ∈ ps, b ∉ p.2 := by
  induction ps with
  | nil => simp [joined]
  | cons p ps ih =>
    obtain ⟨hp, hps⟩ := List.forall_mem_cons.mp hps
    have hwritten : b ∉ written p ↔ b ∉ p.2 := by
      have hmem : b ∉ ascii "=" := fun hmem ↦ hequals (List.mem_singleton.mp hmem)
      simp [written, hp, hmem]
    rw [List.forall_mem_cons, ← ih hps]
    obtain _ | ⟨q, ps⟩ := ps
    · simp [joined, hwritten]
    · simp [joined, hwritten, hblank]

/-- A byte of a keyword. -/
def isKeywordByte (b : Byte) : Bool :=
  !isSpace b && b != equalsSign && b != quote && b != backslash

/-- A keyword, such as the library has. -/
def IsKeyword (k : Bytes) : Prop := k ≠ [] ∧ ∀ b ∈ k, isKeywordByte b = true

instance (k : Bytes) : Decidable (IsKeyword k) := inferInstanceAs (Decidable (_ ∧ _))

/-- Neither a blank nor a backslash. -/
def isPlain (b : Byte) : Bool := !isSpace b && b != backslash

/-- The value is read back wherever it is written. -/
def Encodable (v : Bytes) : Prop := v ≠ [] ∧ v.head? ≠ some quote ∧ ∀ b ∈ v, isPlain b = true

instance (v : Bytes) : Decidable (Encodable v) := inferInstanceAs (Decidable (_ ∧ _ ∧ _))

/-! ## Reading a value -/

variable {k : Bytes} {quoted : Bool}

theorem output_value_cons (acc : Bytes) (b : Byte) (text : Bytes) :
    parser.output (.value quoted k acc) (b :: text)
      = (stepValue quoted k acc b).2 ++ parser.output (stepValue quoted k acc b).1 text :=
  parser.output_cons _ b text

/-- A byte that neither ends the value nor escapes is taken as it is. -/
theorem output_value_of_raw {b : Byte} (hend : endsValue quoted b = false) (hb : b ≠ backslash)
    (acc text : Bytes) :
    parser.output (.value quoted k acc) (b :: text)
      = parser.output (.value quoted k (acc ++ [b])) text := by
  rw [output_value_cons, stepValue, if_neg (by simp [hend]), if_neg hb, List.nil_append]

theorem output_value_of_ends {b : Byte} (hend : endsValue quoted b = true) (acc text : Bytes) :
    parser.output (.value quoted k acc) (b :: text) = .pair k acc :: parse text := by
  rw [output_value_cons, stepValue, if_pos hend]
  rfl

theorem endsValue_false (b : Byte) : endsValue false b = isSpace b := rfl

theorem endsValue_backslash : endsValue quoted backslash = false := by cases quoted <;> rfl

theorem output_value_backslash (acc text : Bytes) :
    parser.output (.value quoted k acc) (backslash :: text)
      = parser.output (.escape quoted k acc) text := by
  rw [output_value_cons, stepValue, if_neg (by simp [endsValue_backslash]), if_pos rfl,
    List.nil_append]

theorem output_escape_cons (acc : Bytes) (b : Byte) (text : Bytes) :
    parser.output (.escape quoted k acc) (b :: text)
      = parser.output (.value quoted k (acc ++ [b])) text :=
  parser.output_cons _ b text

/-- What has been read of a value is the beginning of the value. -/
theorem isPrefix_of_output {text acc v : Bytes} {more : List Token} :
    (parser.output (.value quoted k acc) text = .pair k v :: more → acc <+: v) ∧
      (parser.output (.escape quoted k acc) text = .pair k v :: more → acc <+: v) := by
  induction text generalizing acc with
  | nil =>
    constructor <;>
    · intro h
      cases quoted <;> cases h
      exact List.prefix_rfl
  | cons b text ih =>
    have hnext (h : parser.output (.value quoted k (acc ++ [b])) text = .pair k v :: more) :
        acc <+: v :=
      (List.prefix_append acc [b]).trans (ih.1 h)
    refine ⟨fun h ↦ ?_, fun h ↦ hnext ((output_escape_cons acc b text).symm.trans h)⟩
    by_cases hend : endsValue quoted b = true
    · rw [output_value_of_ends hend] at h
      exact (Token.pair.inj (List.cons.inj h).1).2 ▸ List.prefix_rfl
    · by_cases hb : b = backslash
      · subst hb
        rw [output_value_backslash] at h
        exact ih.2 h
      · rw [output_value_of_raw (by simpa using hend) hb] at h
        exact hnext h

/-- The byte that is read next is the next one of the value. -/
theorem eq_of_output {text acc v : Bytes} {b c : Byte} {more : List Token}
    (h : parser.output (.value quoted k (acc ++ [b])) text = .pair k (acc ++ c :: v) :: more) :
    b = c :=
  (List.cons_prefix_cons.mp ((List.prefix_append_right_inj acc).mp (isPrefix_of_output.1 h))).1

/-! ## Where the bytes of a value come from -/

/-- What has been read of a value. -/
def Mode.acc : Mode → Bytes
  | .value _ _ acc | .escape _ _ acc => acc
  | .between | .keyword _ | .afterKeyword _ | .beforeValue _ | .failed => []

/-- The bytes of the values among some tokens. -/
def ValuesFrom (P : Byte → Prop) (tokens : List Token) : Prop :=
  ∀ k v, .pair k v ∈ tokens → ∀ b ∈ v, P b

variable {P : Byte → Prop}

theorem valuesFrom_append {xs ys : List Token} :
    ValuesFrom P (xs ++ ys) ↔ ValuesFrom P xs ∧ ValuesFrom P ys := by
  simp only [ValuesFrom, List.mem_append, or_imp, forall_and]

theorem valuesFrom_stepValue {acc : Bytes} (hacc : ∀ b ∈ acc, P b) {b : Byte} (hb : P b) :
    (∀ c ∈ (stepValue quoted k acc b).1.acc, P c) ∧
      ValuesFrom P (stepValue quoted k acc b).2 := by
  rw [stepValue]
  split_ifs
  · simpa [Mode.acc, ValuesFrom] using hacc
  · exact ⟨hacc, by simp [ValuesFrom]⟩
  · exact ⟨List.forall_mem_append.mpr ⟨hacc, by simpa using hb⟩, by simp [ValuesFrom]⟩

theorem valuesFrom_step {s : Mode} (hs : ∀ b ∈ s.acc, P b) {b : Byte} (hb : P b) :
    (∀ c ∈ (step s b).1.acc, P c) ∧ ValuesFrom P (step s b).2 := by
  have hnone {t : Mode} {tokens : List Token} (ht : t.acc = [])
      (htokens : tokens = [] ∨ tokens = [.error]) :
      (∀ c ∈ t.acc, P c) ∧ ValuesFrom P tokens := by
    obtain rfl | rfl := htokens <;> simp [ht, ValuesFrom]
  rcases s with _ | k | k | k | ⟨quoted, k, acc⟩ | ⟨quoted, k, acc⟩ | _
  · rw [step]
    split_ifs <;> exact hnone rfl (.inl rfl)
  · rw [step]
    split_ifs <;> exact hnone rfl (.inl rfl)
  · rw [step]
    split_ifs
    · exact hnone rfl (.inl rfl)
    · exact hnone rfl (.inl rfl)
    · exact hnone rfl (.inr rfl)
  · rw [step]
    split_ifs
    · exact hnone rfl (.inl rfl)
    · exact hnone rfl (.inl rfl)
    · exact valuesFrom_stepValue (by simp) hb
  · exact valuesFrom_stepValue hs hb
  · exact ⟨List.forall_mem_append.mpr ⟨hs, by simpa using hb⟩, by simp [step, ValuesFrom]⟩
  · exact hnone rfl (.inl rfl)

/-- What is true of every byte of a string is true of every byte of its values. -/
theorem valuesFrom_output {text : Bytes} (htext : ∀ b ∈ text, P b) {s : Mode}
    (hs : ∀ b ∈ s.acc, P b) : ValuesFrom P (parser.output s text) := by
  induction text generalizing s with
  | nil =>
    have hfinish : ValuesFrom P (finish s) := by
      rcases s with _ | k | k | k | ⟨_ | _, k, acc⟩ | ⟨_ | _, k, acc⟩ | _ <;>
        simp_all [finish, ValuesFrom, Mode.acc]
    exact hfinish
  | cons b text ih =>
    obtain ⟨hb, htext⟩ := List.forall_mem_cons.mp htext
    obtain ⟨hacc, hout⟩ := valuesFrom_step hs hb
    rw [parser.output_cons]
    exact valuesFrom_append.mpr ⟨hout, ih htext hacc⟩

/-! ## Bytes that are owed -/

/-- The string ends behind a value, or a blank and a keyword follow. -/
def Follows (tail : Bytes) : Prop :=
  tail = [] ∨ ∃ c text, tail = blank :: c :: text ∧ isKeywordByte c = true

/-- A byte that is not taken as it is in every value. -/
def isSpecial (b : Byte) : Bool := isSpace b || b == quote || b == backslash

/-- The byte does not come out of a value unless it is escaped. -/
def NeedsEscape (quoted : Bool) (b : Byte) : Prop := endsValue quoted b = true ∨ b = backslash

theorem not_isSpecial_of_isKeywordByte {c : Byte} (h : isKeywordByte c = true) :
    isSpecial c = false := by
  simp only [isKeywordByte, Bool.and_eq_true, bne_iff_ne, ne_eq, Bool.not_eq_true'] at h
  obtain ⟨⟨⟨hspace, -⟩, hquote⟩, hbackslash⟩ := h
  simp [isSpecial, hspace, hquote, hbackslash]

theorem not_needsEscape_of_not_isSpecial {c : Byte} (h : isSpecial c = false) :
    ¬NeedsEscape quoted c := by
  simp only [isSpecial, Bool.or_eq_false_iff, beq_eq_false_iff_ne] at h
  obtain ⟨⟨hspace, hquote⟩, hbackslash⟩ := h
  rintro (hend | rfl)
  · cases quoted
    · exact absurd hend (by simp [endsValue, hspace])
    · exact hquote (by simpa [endsValue] using hend)
  · exact hbackslash rfl

/-- Where a blank and a keyword are read as part of a value, the value is not special bytes alone
from there on. -/
theorem output_blank_keyword_ne {q acc : Bytes} (hq : ∀ b ∈ q, isSpecial b = true) {c : Byte}
    (hc : isKeywordByte c = true) (text : Bytes) (more : List Token) :
    parser.output (.value quoted k (acc ++ [blank])) (c :: text) ≠ .pair k (acc ++ q) :: more := by
  intro h
  have hspecial := not_isSpecial_of_isKeywordByte hc
  have hraw : ¬NeedsEscape quoted c := not_needsEscape_of_not_isSpecial hspecial
  rw [output_value_of_raw (by simpa using mt Or.inl hraw) (mt Or.inr hraw), List.append_assoc] at h
  have hprefix := (List.prefix_append_right_inj acc).mp (isPrefix_of_output.1 h)
  have hmem : c ∈ q := hprefix.subset (by simp)
  exact absurd (hq c hmem) (by simp [hspecial])

/-- A value that ends too early is another one. -/
theorem pair_ne {acc : Bytes} (y : Byte) (v : Bytes) (more more' : List Token) :
    Token.pair k acc :: more ≠ .pair k (acc ++ y :: v) :: more' := by
  simp

/-- The string does not end with bytes owed. -/
theorem output_nil_ne (acc : Bytes) (y : Byte) (v : Bytes) (more : List Token) :
    parser.output (.value quoted k acc) [] ≠ .pair k (acc ++ y :: v) :: more ∧
      parser.output (.escape quoted k acc) [] ≠ .pair k (acc ++ y :: v) :: more := by
  cases quoted with
  | false => exact ⟨pair_ne y v [] more, pair_ne y v [] more⟩
  | true => exact ⟨nofun, nofun⟩

/-- **What is owed does not come out.** A value of which special bytes, one of them in need of an
escape, have been passed over is not read back. -/
theorem output_owed_ne (r : Bytes) {q acc tail : Bytes} (hq : ∀ b ∈ q, isSpecial b = true)
    (hescape : ∃ x ∈ q, NeedsEscape quoted x) (htail : Follows tail) (more : List Token) :
    parser.output (.value quoted k acc) (r ++ tail) ≠ .pair k (acc ++ (q ++ r)) :: more := by
  -- by the length of what is left, since a backslash takes the next byte with it
  induction hlength : r.length using Nat.strong_induction_on generalizing r acc q with
  | _ n ih =>
  obtain ⟨x, hx, hneeds⟩ := hescape
  obtain ⟨y, q, rfl⟩ := List.exists_cons_of_ne_nil (List.ne_nil_of_mem hx)
  have hended {b : Byte} (text : Bytes) (hend : endsValue quoted b = true) :
      parser.output (.value quoted k acc) (b :: text) ≠ .pair k (acc ++ (y :: q ++ r)) :: more := by
    rw [output_value_of_ends hend]
    exact pair_ne y (q ++ r) _ more
  obtain _ | ⟨b, r⟩ := r
  · rw [List.nil_append, List.append_nil]
    obtain rfl | ⟨c, text, rfl, hc⟩ := htail
    · exact (output_nil_ne acc y q more).1
    · cases quoted with
      | false => exact fun h ↦ hended (c :: text) rfl (by rwa [List.append_nil])
      | true =>
        rw [output_value_of_raw rfl (by decide)]
        exact output_blank_keyword_ne hq hc text more
  by_cases hend : endsValue quoted b = true
  · exact hended _ hend
  by_cases hb : b = backslash
  · subst hb
    have hspecial (r : Bytes) (hr : ∀ b ∈ r, isSpecial b = true) :
        ∀ b ∈ y :: q ++ backslash :: r, isSpecial b = true :=
      List.forall_mem_append.mpr ⟨hq, List.forall_mem_cons.mpr ⟨rfl, hr⟩⟩
    rw [List.cons_append, output_value_backslash]
    obtain _ | ⟨d, r⟩ := r
    · obtain rfl | ⟨c, text, rfl, hc⟩ := htail
      · exact (output_nil_ne acc y (q ++ [backslash]) more).2
      · rw [List.nil_append, output_escape_cons]
        exact output_blank_keyword_ne (hspecial [] (by simp)) hc text more
    · rw [List.cons_append, output_escape_cons]
      intro h
      -- The escaped byte pays for the first byte owed; the backslash and it are owed instead.
      obtain rfl : d = y := eq_of_output h
      have hq' : ∀ b ∈ q ++ [backslash, d], isSpecial b = true :=
        List.forall_mem_of_forall_mem_cons (hspecial [d] (by simpa using hq d (by simp)))
      have hlt : r.length < n := by
        rw [← hlength, List.length_cons, List.length_cons]
        omega
      have hne : parser.output (.value quoted k (acc ++ [d])) (r ++ tail)
          ≠ .pair k (acc ++ [d] ++ (q ++ [backslash, d] ++ r)) :: more :=
        ih r.length hlt r hq' ⟨backslash, by simp, .inr rfl⟩ rfl
      rw [List.append_assoc, List.append_assoc] at hne
      exact hne h
  · rw [List.cons_append, output_value_of_raw (by simpa using hend) hb]
    intro h
    -- The byte pays for the first byte owed, and is owed instead.
    obtain rfl : b = y := eq_of_output h
    have hx : x ∈ q := (List.mem_cons.mp hx).resolve_left fun hxb ↦
      hneeds.elim (fun hends ↦ hend (hxb ▸ hends)) fun hbackslash ↦ hb (hxb ▸ hbackslash)
    obtain ⟨hbspecial, hq⟩ := List.forall_mem_cons.mp hq
    have hq' : ∀ c ∈ q ++ [b], isSpecial c = true :=
      List.forall_mem_append.mpr ⟨hq, by simpa using hbspecial⟩
    have hlt : r.length < n := by
      rw [← hlength]
      exact Nat.lt_succ_self _
    have hne : parser.output (.value quoted k (acc ++ [b])) (r ++ tail)
        ≠ .pair k (acc ++ [b] ++ (q ++ [b] ++ r)) :: more :=
      ih r.length hlt r hq' ⟨x, List.mem_append_left _ hx, hneeds⟩ rfl
    rw [List.append_assoc, List.append_assoc] at hne
    exact hne h

/-- A value with a blank or a backslash in it is not read back. -/
theorem output_value_ne {v : Bytes} (hv : ¬∀ b ∈ v, isPlain b = true) (acc : Bytes) {tail : Bytes}
    (htail : Follows tail) (more : List Token) :
    parser.output (.value false k acc) (v ++ tail) ≠ .pair k (acc ++ v) :: more := by
  induction v generalizing acc with
  | nil => exact absurd (by simp) hv
  | cons b v ih =>
    by_cases hspace : endsValue false b = true
    · rw [List.cons_append, output_value_of_ends hspace]
      exact pair_ne b v _ more
    by_cases hb : b = backslash
    · subst hb
      have hspecial : ∀ b ∈ [backslash], isSpecial b = true := by decide
      rw [List.cons_append, output_value_backslash]
      obtain _ | ⟨d, v⟩ := v
      · obtain rfl | ⟨c, text, rfl, hc⟩ := htail
        · exact (output_nil_ne acc backslash [] more).2
        · rw [List.nil_append, output_escape_cons]
          exact output_blank_keyword_ne hspecial hc text more
      · rw [List.cons_append, output_escape_cons]
        intro h
        obtain rfl : d = backslash := eq_of_output h
        have hne : parser.output (.value false k (acc ++ [backslash])) (v ++ tail)
            ≠ .pair k (acc ++ [backslash] ++ ([backslash] ++ v)) :: more :=
          output_owed_ne v hspecial ⟨backslash, List.mem_cons_self, .inr rfl⟩ htail more
        rw [List.append_assoc] at hne
        exact hne h
    · have hnotSpace : isSpace b = false := by simpa [endsValue] using hspace
      have hplain : isPlain b = true := by simp [isPlain, hnotSpace, hb]
      have hne := ih (fun hall ↦ hv (List.forall_mem_cons.mpr ⟨hplain, hall⟩)) (acc ++ [b])
      rw [List.append_assoc] at hne
      rwa [List.cons_append, output_value_of_raw ((endsValue_false b).trans hnotSpace) hb]

theorem output_value_of_plain {v : Bytes} (hv : ∀ b ∈ v, isPlain b = true) (acc text : Bytes) :
    parser.output (.value false k acc) (v ++ text)
      = parser.output (.value false k (acc ++ v)) text := by
  induction v generalizing acc with
  | nil => rw [List.nil_append, List.append_nil]
  | cons b v ih =>
    obtain ⟨hb, hv⟩ := List.forall_mem_cons.mp hv
    simp only [isPlain, Bool.and_eq_true, Bool.not_eq_true', bne_iff_ne] at hb
    rw [List.cons_append, output_value_of_raw ((endsValue_false b).trans hb.1) hb.2, ih hv,
      List.append_assoc, List.singleton_append]

/-! ## Behind the equals sign -/

theorem output_beforeValue_space {b : Byte} (hb : isSpace b = true) (text : Bytes) :
    parser.output (.beforeValue k) (b :: text) = parser.output (.beforeValue k) text := by
  have hstep : parser.step (.beforeValue k) b = (.beforeValue k, []) := if_pos hb
  rw [parser.output_cons, hstep, List.nil_append]

theorem output_beforeValue_quote (text : Bytes) :
    parser.output (.beforeValue k) (quote :: text) = parser.output (.value true k []) text :=
  parser.output_cons _ _ _

theorem output_beforeValue_cons {b : Byte} (hspace : isSpace b ≠ true) (hquote : b ≠ quote)
    (text : Bytes) :
    parser.output (.beforeValue k) (b :: text) = parser.output (.value false k []) (b :: text) := by
  have hstep : parser.step (.beforeValue k) b = stepValue false k [] b :=
    (if_neg hspace).trans (if_neg hquote)
  rw [parser.output_cons, hstep, output_value_cons]

/-- A keyword that follows is read as the value. -/
theorem output_beforeValue_follows_ne {c : Byte} (hc : isKeywordByte c = true) (text : Bytes)
    {v : Bytes} (hv : v.head? ≠ some c) (more : List Token) :
    parser.output (.beforeValue k) (blank :: c :: text) ≠ .pair k v :: more := by
  have hspecial := not_isSpecial_of_isKeywordByte hc
  have hraw : ¬NeedsEscape false c := not_needsEscape_of_not_isSpecial hspecial
  simp only [isSpecial, Bool.or_eq_false_iff, beq_eq_false_iff_ne] at hspecial
  rw [output_beforeValue_space rfl, output_beforeValue_cons (by simp [hspecial]) hspecial.1.2,
    output_value_of_raw (by simpa using mt Or.inl hraw) (mt Or.inr hraw)]
  intro h
  obtain ⟨rest, rfl⟩ := isPrefix_of_output.1 h
  exact hv rfl

/-- A value that begins with a blank is not read back. -/
theorem output_beforeValue_owed_ne {q : Bytes} (hq : ∀ b ∈ q, isSpace b = true) (hne : q ≠ [])
    (r : Bytes) {tail : Bytes} (htail : Follows tail) (more : List Token) :
    parser.output (.beforeValue k) (r ++ tail) ≠ .pair k (q ++ r) :: more := by
  induction r generalizing q with
  | nil =>
    obtain ⟨y, q, rfl⟩ := List.exists_cons_of_ne_nil hne
    rw [List.nil_append, List.append_nil]
    obtain rfl | ⟨c, text, rfl, hc⟩ := htail
    · exact pair_ne y q [] more
    · refine output_beforeValue_follows_ne hc text ?_ more
      rintro ⟨⟩
      simp [isKeywordByte, hq y List.mem_cons_self] at hc
  | cons b r ih =>
    have hspecial (c : Byte) (hc : isSpecial c = true) : ∀ b ∈ q ++ [c], isSpecial b = true :=
      List.forall_mem_append.mpr ⟨fun b hb ↦ by simp [isSpecial, hq b hb], by simpa using hc⟩
    by_cases hspace : isSpace b = true
    · rw [List.cons_append, output_beforeValue_space hspace, List.append_cons]
      exact ih (List.forall_mem_append.mpr ⟨hq, by simpa using hspace⟩) (by simp)
    by_cases hquote : b = quote
    · subst hquote
      have howed : parser.output (.value true k []) (r ++ tail)
          ≠ .pair k ([] ++ (q ++ [quote] ++ r)) :: more :=
        output_owed_ne r (hspecial quote rfl) ⟨quote, by simp, .inl rfl⟩ htail more
      rwa [List.cons_append, output_beforeValue_quote, List.append_cons]
    · obtain ⟨y, hy⟩ := List.exists_mem_of_ne_nil q hne
      have howed : parser.output (.value false k []) (b :: r ++ tail)
          ≠ .pair k ([] ++ (q ++ b :: r)) :: more :=
        output_owed_ne (b :: r) (fun b hb ↦ by simp [isSpecial, hq b hb])
          ⟨y, hy, .inl ((endsValue_false y).trans (hq y hy))⟩ htail more
      rwa [List.cons_append, output_beforeValue_cons hspace hquote]

/-- The value is read back from in front of a tail. -/
def ReadBack (v tail : Bytes) : Prop := Encodable v ∨ v = [] ∧ tail = []

theorem output_of_readBack {v tail : Bytes} (htail : Follows tail) (h : ReadBack v tail) :
    parser.output (.beforeValue k) (v ++ tail) = .pair k v :: parse (tail.drop 1) := by
  obtain ⟨hne, hquote, hplain⟩ | ⟨rfl, rfl⟩ := h
  · obtain ⟨b, v, rfl⟩ := List.exists_cons_of_ne_nil hne
    have hspace : isSpace b ≠ true := fun hb ↦ by
      simpa [isPlain, hb] using hplain b List.mem_cons_self
    have hb : b ≠ quote := by simpa using hquote
    rw [List.cons_append, output_beforeValue_cons hspace hb, ← List.cons_append,
      output_value_of_plain hplain, List.nil_append]
    obtain rfl | ⟨c, text, rfl, -⟩ := htail
    · rfl
    · exact output_value_of_ends rfl _ _
  · rfl

theorem readBack_of_output {v tail : Bytes} (htail : Follows tail) {more : List Token}
    (h : parser.output (.beforeValue k) (v ++ tail) = .pair k v :: more) : ReadBack v tail := by
  obtain _ | ⟨b, v⟩ := v
  · obtain rfl | ⟨c, text, rfl, hc⟩ := htail
    · exact .inr ⟨rfl, rfl⟩
    · exact absurd h (output_beforeValue_follows_ne hc text (by simp) more)
  by_cases hspace : isSpace b = true
  · refine absurd h ?_
    rw [List.cons_append, output_beforeValue_space hspace]
    exact output_beforeValue_owed_ne (by simpa using hspace) (List.cons_ne_nil b []) v htail more
  by_cases hquote : b = quote
  · subst hquote
    have howed : parser.output (.value true k []) (v ++ tail)
        ≠ .pair k ([] ++ ([quote] ++ v)) :: more :=
      output_owed_ne v (by decide) ⟨quote, List.mem_cons_self, .inl rfl⟩ htail more
    rw [List.cons_append, output_beforeValue_quote] at h
    exact absurd h howed
  · refine .inl ⟨List.cons_ne_nil b v, by simpa using hquote, ?_⟩
    by_contra hplain
    rw [List.cons_append, output_beforeValue_cons hspace hquote, ← List.cons_append] at h
    exact output_value_ne hplain [] htail more h

/-- **Reading a value.** -/
theorem output_beforeValue_eq_iff {v tail : Bytes} (htail : Follows tail) {more : List Token} :
    parser.output (.beforeValue k) (v ++ tail) = .pair k v :: more ↔
      ReadBack v tail ∧ more = parse (tail.drop 1) := by
  constructor
  · intro h
    have hread := readBack_of_output htail h
    exact ⟨hread, (List.cons.inj (h.symm.trans (output_of_readBack htail hread))).2⟩
  · rintro ⟨hread, rfl⟩
    exact output_of_readBack htail hread

/-! ## Reading the pairs -/

/-- A keyword and its equals sign. -/
theorem parse_keyword {k : Bytes} (hk : IsKeyword k) (text : Bytes) :
    parse (k ++ equalsSign :: text) = parser.output (.beforeValue k) text := by
  have hbyte {b : Byte} (hb : isKeywordByte b = true) : isSpace b ≠ true ∧ b ≠ equalsSign := by
    simp only [isKeywordByte, Bool.and_eq_true, bne_iff_ne, Bool.not_eq_true'] at hb
    exact ⟨by simp [hb], hb.1.1.2⟩
  have hrest (acc : Bytes) (k : Bytes) (hk : ∀ b ∈ k, isKeywordByte b = true) :
      parser.output (.keyword acc) (k ++ equalsSign :: text)
        = parser.output (.beforeValue (acc ++ k)) text := by
    induction k generalizing acc with
    | nil =>
      rw [List.nil_append, List.append_nil]
      exact parser.output_cons _ _ _
    | cons b k ih =>
      obtain ⟨hb, hk⟩ := List.forall_mem_cons.mp hk
      have hstep : parser.step (.keyword acc) b = (.keyword (acc ++ [b]), []) :=
        (if_neg (hbyte hb).2).trans (if_neg (hbyte hb).1)
      rw [List.cons_append, parser.output_cons, hstep, List.nil_append, ih _ hk, List.append_assoc,
        List.singleton_append]
  obtain ⟨hne, hk⟩ := hk
  obtain ⟨b, k, rfl⟩ := List.exists_cons_of_ne_nil hne
  obtain ⟨hb, hk⟩ := List.forall_mem_cons.mp hk
  have hstep : parser.step .between b = (.keyword [b], []) :=
    (if_neg (hbyte hb).1).trans (if_neg (hbyte hb).2)
  rw [parse, List.cons_append, parser.output_cons, hstep, List.nil_append, hrest [b] k hk,
    List.singleton_append]

/-- Every value but the last can be encoded, and the last one can or is empty. -/
def AllReadBack : List (Bytes × Bytes) → Prop
  | [] => True
  | [p] => Encodable p.2 ∨ p.2 = []
  | p :: q :: ps => Encodable p.2 ∧ AllReadBack (q :: ps)

/-- **Reading the pairs back.** Some pairs are read as they were meant exactly when every value can
be encoded. -/
theorem parse_joined_iff {ps : List (Bytes × Bytes)} (hps : ∀ p ∈ ps, IsKeyword p.1) :
    parse (joined ps) = ps.map (fun p ↦ .pair p.1 p.2) ↔ AllReadBack ps := by
  induction ps with
  | nil => exact iff_of_true rfl trivial
  | cons p ps ih =>
    obtain ⟨hp, hps⟩ := List.forall_mem_cons.mp hps
    have hparse (tail : Bytes) :
        parse (written p ++ tail) = parser.output (.beforeValue p.1) (p.2 ++ tail) := by
      rw [written, List.append_assoc, List.append_assoc]
      exact parse_keyword hp _
    obtain _ | ⟨q, ps⟩ := ps
    · have hjoined : joined [p] = written p ++ [] := (List.append_nil _).symm
      have hend : parse (List.drop 1 []) = [] := rfl
      rw [hjoined, hparse, List.map_cons, output_beforeValue_eq_iff (.inl rfl), ReadBack, hend,
        List.map_nil, AllReadBack, and_iff_left rfl, and_iff_left rfl]
    · have htail : Follows (blank :: joined (q :: ps)) := by
        obtain ⟨hne, hbytes⟩ := hps q List.mem_cons_self
        obtain ⟨c, k, hk⟩ := List.exists_cons_of_ne_nil hne
        have hc : isKeywordByte c = true := hbytes c (hk ▸ List.mem_cons_self)
        obtain _ | ⟨r, ps⟩ := ps
        · exact .inr ⟨c, k ++ ascii "=" ++ q.2, by simp [joined, written, hk], hc⟩
        · exact .inr ⟨c, k ++ ascii "=" ++ q.2 ++ blank :: joined (r :: ps),
            by simp [joined, written, hk], hc⟩
      rw [joined, hparse, List.map_cons, output_beforeValue_eq_iff htail, AllReadBack, ← ih hps,
        ReadBack, or_iff_left fun hnil ↦ List.cons_ne_nil _ _ hnil.2, eq_comm (b := parse _)]
      rfl

end Conninfo

end Ormpp
