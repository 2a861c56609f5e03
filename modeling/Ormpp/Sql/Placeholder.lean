import Ormpp.Sql.Literal
import Ormpp.Sql.Region

/-!
# Placeholders

A client that numbers or fills in the placeholders of a statement has to find them in the text. It
looks for question marks and leaves out quoted text and comments; clients differ in what they take
for these. The scanner is a machine that reads a byte at a time, so that the search can be followed
through the parts of a text one after the other.
-/

namespace Ormpp

namespace Sql

structure Scanner where
  /-- In quoted text, a backslash takes the next byte with it. -/
  backslashEscapes : Bool
  /-- Backticks enclose a name. -/
  backtickNames : Bool
  /-- `#` begins a comment. -/
  hashComments : Bool

inductive ScanMode
  | code
  | minus
  | slash
  | line
  | block
  | blockStar
  | quoted (q : Byte)
  | escape (q : Byte)
  | closing (q : Byte)
  deriving DecidableEq

/-- The next byte belongs to the statement proper, unless it goes on with what is being read. -/
def ScanMode.readsCode : ScanMode → Bool
  | .code | .minus | .slash => true
  | .closing q => q != questionMark
  | .line | .block | .blockStar | .quoted _ | .escape _ => false

namespace Scanner

variable (s : Scanner)

def enter (b : Byte) : ScanMode :=
  if b = quote ∨ b = doubleQuote then .quoted b
  else if b = backtick ∧ s.backtickNames then .quoted b
  else if b = dash then .minus
  else if b = hash ∧ s.hashComments then .line
  else if b = Sql.slash then .slash
  else .code

def step : ScanMode → Byte → ScanMode
  | .code, b => s.enter b
  | .minus, b => if b = dash then .line else s.enter b
  | .slash, b => if b = star then .block else s.enter b
  | .line, b => if b = newline ∨ b = 0x0d then .code else .line
  | .block, b => if b = star then .blockStar else .block
  | .blockStar, b =>
    if b = Sql.slash then .code else if b = star then .blockStar else .block
  | .quoted q, b =>
    if s.backslashEscapes ∧ q ≠ backtick ∧ b = backslash then .escape q
    else if b = q then .closing q
    else .quoted q
  | .escape q, _ => .quoted q
  | .closing q, b => if b = q then .quoted q else s.enter b

/-- The text in front of the next placeholder and the text behind it. -/
def split : ScanMode → Bytes → Option (Bytes × Bytes)
  | _, [] => none
  | m, b :: rest =>
    if b = questionMark ∧ m.readsCode then some ([], rest)
    else (split (s.step m b) rest).map fun parts ↦ (b :: parts.1, parts.2)

variable {s}

theorem length_lt_of_split {m : ScanMode} {text before behind : Bytes}
    (h : s.split m text = some (before, behind)) : behind.length < text.length := by
  induction text generalizing m before with
  | nil => cases h
  | cons b rest ih =>
    rw [split] at h
    split_ifs at h
    · cases h
      exact Nat.lt_succ_self _
    · obtain ⟨parts, hparts, heq⟩ := Option.map_eq_some_iff.mp h
      cases heq
      exact Nat.lt_succ_of_lt (ih hparts)

variable (s)

/-- Puts a value for every placeholder; `value` says which by the number of the placeholder. -/
def replaceAll (value : ℕ → Bytes) (index : ℕ) (text : Bytes) : Bytes :=
  match _h : s.split .code text with
  | none => text
  | some (before, behind) => before ++ value index ++ replaceAll value (index + 1) behind
termination_by text.length
decreasing_by exact length_lt_of_split _h

/-- The search goes on behind the text as if it had begun there, in the second mode. -/
def Skips (m : ScanMode) (text : Bytes) (m' : ScanMode) : Prop :=
  ∀ rest, s.split m (text ++ rest) = (s.split m' rest).map fun parts ↦ (text ++ parts.1, parts.2)

variable {s}

/-! ## Skipping -/

theorem skips_nil (m : ScanMode) : s.Skips m [] m := by
  intro rest
  rw [List.nil_append]
  exact Option.map_id'.symm

theorem Skips.append {m₁ m₂ m₃ : ScanMode} {xs ys : Bytes} (hx : s.Skips m₁ xs m₂)
    (hy : s.Skips m₂ ys m₃) : s.Skips m₁ (xs ++ ys) m₃ := by
  intro rest
  rw [List.append_assoc, hx, hy, Option.map_map]
  refine congrArg (Option.map · _) (funext fun parts ↦ ?_)
  rw [Function.comp_apply, List.append_assoc]

theorem skips_byte {m : ScanMode} {b : Byte} (h : ¬(b = questionMark ∧ m.readsCode = true)) :
    s.Skips m [b] (s.step m b) := by
  intro rest
  rw [List.singleton_append, split, if_neg h]
  rfl

theorem Skips.cons {m m' : ScanMode} {b : Byte} {text : Bytes}
    (hb : ¬(b = questionMark ∧ m.readsCode = true)) (h : s.Skips (s.step m b) text m') :
    s.Skips m (b :: text) m' := (skips_byte hb).append h

/-- A byte that begins nothing. -/
theorem enter_of_isCodeByte {b : Byte} (h : isCodeByte b = true) : s.enter b = .code := by
  simp only [isCodeByte, Bool.and_eq_true, bne_iff_ne] at h
  obtain ⟨⟨⟨⟨⟨h1, h2⟩, h3⟩, h4⟩, h5⟩, h6⟩ := h
  simp [enter, h1, h2, h3, h4, h5, h6]

theorem skips_code {text : Bytes} (h : ∀ b ∈ text, isCodeByte b = true ∧ b ≠ questionMark) :
    s.Skips .code text .code := by
  induction text with
  | nil => exact skips_nil _
  | cons b text ih =>
    obtain ⟨⟨hb, hne⟩, htext⟩ := List.forall_mem_cons.mp h
    refine Skips.cons (fun hq ↦ hne hq.1) ?_
    rw [step, enter_of_isCodeByte hb]
    exact ih htext

/-- A dash is skipped before a byte that begins nothing. -/
theorem skips_dash {b : Byte} {text : Bytes}
    (h : ∀ c ∈ b :: text, isCodeByte c = true ∧ c ≠ questionMark) :
    s.Skips .code (dash :: b :: text) .code := by
  obtain ⟨⟨hb, hne⟩, htext⟩ := List.forall_mem_cons.mp h
  have hdash : s.step .code dash = .minus := rfl
  have hnext : s.step .minus b = .code := by
    have hbdash : b ≠ dash := by
      rintro rfl
      cases hb
    rw [step, if_neg hbdash, enter_of_isCodeByte hb]
  apply Skips.cons (by decide)
  rw [hdash]
  refine Skips.cons (fun hq ↦ hne hq.1) ?_
  rw [hnext]
  exact skips_code htext

/-- Behind a closing quote, a text that does not begin with the quote is searched as if from the
start. -/
theorem split_closing {q : Byte} {text : Bytes} (h : text.head? ≠ some q) :
    s.split (.closing q) text = s.split .code text := by
  cases text with
  | nil => rfl
  | cons b text =>
    have hb : b ≠ q := by simpa using h
    have hstep : s.step (.closing q) b = s.step .code b := if_neg hb
    have hreads : b = questionMark ∧ (ScanMode.closing q).readsCode = true ↔
        b = questionMark ∧ ScanMode.code.readsCode = true := by
      refine and_congr_right fun heq ↦ iff_of_true (bne_iff_ne.mpr ?_) rfl
      rintro rfl
      exact hb heq
    rw [split, split, hstep]
    exact if_congr hreads rfl rfl

/-- A string is skipped up to its closing quote, where a quote is the only escape. -/
theorem skips_doubled (h : s.backslashEscapes = false) (value : Bytes) :
    s.Skips (.quoted quote) (doubled value) (.quoted quote) := by
  have hquoted (b : Byte) (hb : b ≠ quote) : s.step (.quoted quote) b = .quoted quote := by
    rw [step, if_neg (by simp [h]), if_neg hb]
  have hclosing : s.step (.quoted quote) quote = .closing quote := by
    rw [step, if_neg (by simp [h]), if_pos rfl]
  induction value with
  | nil => exact skips_nil _
  | cons b value ih =>
    by_cases hb : b = quote
    · subst hb
      apply Skips.cons (by simp [ScanMode.readsCode])
      rw [hclosing]
      exact Skips.cons (by decide) ih
    · rw [doubled_cons_of_ne hb]
      apply Skips.cons (by simp [ScanMode.readsCode])
      rw [hquoted b hb]
      exact ih

theorem split_literal (h : s.backslashEscapes = false) (value : Bytes) {rest : Bytes}
    (hrest : rest.head? ≠ some quote) :
    s.split .code (Piece.text (.literal value) ++ rest)
      = (s.split .code rest).map fun parts ↦ (Piece.text (.literal value) ++ parts.1, parts.2) := by
  have hopen : s.step .code quote = .quoted quote := rfl
  have hclosing : s.step (.quoted quote) quote = .closing quote := by
    rw [step, if_neg (by simp [h]), if_pos rfl]
  have hend : s.Skips (.quoted quote) [quote] (.closing quote) := by
    rw [← hclosing]
    exact skips_byte (by simp [ScanMode.readsCode])
  have hliteral : s.Skips .code (Piece.text (.literal value)) (.closing quote) := by
    apply Skips.cons (by decide)
    rw [hopen]
    exact (skips_doubled h value).append hend
  rw [hliteral, split_closing hrest]

/-! ## Replacing -/

theorem replaceAll_of_none {text : Bytes} (h : s.split .code text = none) (value : ℕ → Bytes)
    (index : ℕ) : s.replaceAll value index text = text := by
  rw [replaceAll]
  split
  · rfl
  · rename_i hsome
    cases h.symm.trans hsome

theorem replaceAll_of_some {text before behind : Bytes}
    (h : s.split .code text = some (before, behind)) (value : ℕ → Bytes) (index : ℕ) :
    s.replaceAll value index text
      = before ++ value index ++ s.replaceAll value (index + 1) behind := by
  rw [replaceAll]
  split
  · rename_i hnone
    cases h.symm.trans hnone
  · rename_i hsome
    cases h.symm.trans hsome
    rfl

/-- What is skipped is left as it is. -/
theorem replaceAll_skip {text rest : Bytes}
    (h : s.split .code (text ++ rest)
      = (s.split .code rest).map fun parts ↦ (text ++ parts.1, parts.2))
    (value : ℕ → Bytes) (index : ℕ) :
    s.replaceAll value index (text ++ rest) = text ++ s.replaceAll value index rest := by
  cases hrest : s.split .code rest with
  | none =>
    rw [hrest] at h
    rw [replaceAll_of_none h, replaceAll_of_none hrest]
  | some parts =>
    rw [hrest] at h
    rw [replaceAll_of_some h, replaceAll_of_some hrest]
    simp only [List.append_assoc]

theorem replaceAll_placeholder (value : ℕ → Bytes) (index : ℕ) (rest : Bytes) :
    s.replaceAll value index (questionMark :: rest)
      = value index ++ s.replaceAll value (index + 1) rest := by
  have hsplit : s.split .code (questionMark :: rest) = some ([], rest) := rfl
  exact replaceAll_of_some hsplit value index

/-! ## Positions -/

variable (s) in
/-- The scanner as a machine that tells regions apart. -/
def regions : Regions ScanMode := ⟨s.step, ScanMode.readsCode⟩

/-- A question mark of the statement proper leaves the scanner where it began. -/
theorem step_questionMark {m : ScanMode} (h : m.readsCode = true) :
    s.step m questionMark = .code := by
  have henter : s.enter questionMark = .code := by
    simp [enter, questionMark, quote, doubleQuote, backtick, dash, Sql.hash, Sql.slash]
  cases m with
  | code => exact henter
  | minus | slash => exact henter
  | closing q =>
    have hq : questionMark ≠ q := (bne_iff_ne.mp h).symm
    exact (if_neg hq).trans henter
  | line | block | blockStar | quoted | escape => cases h

theorem positions_of_none {m : ScanMode} {text : Bytes} (h : s.split m text = none) (i : ℕ) :
    s.regions.positions m i text = [] := by
  induction text generalizing m i with
  | nil => rfl
  | cons b rest ih =>
    rw [split] at h
    split_ifs at h with hb
    exact (if_neg hb).trans (ih (Option.map_eq_none_iff.mp h) (i + 1))

/-- The first position is where the search stops, and the others are found from there on. -/
theorem positions_of_some {m : ScanMode} {text before behind : Bytes}
    (h : s.split m text = some (before, behind)) (i : ℕ) :
    text = before ++ questionMark :: behind ∧
      s.regions.positions m i text
        = (i + before.length) :: s.regions.positions .code (i + before.length + 1) behind := by
  induction text generalizing m before i with
  | nil => cases h
  | cons b rest ih =>
    rw [split] at h
    split_ifs at h with hb
    · cases h
      obtain ⟨rfl, hcode⟩ := hb
      refine ⟨rfl, (if_pos ⟨rfl, hcode⟩).trans ?_⟩
      change i :: s.regions.positions (s.step m questionMark) (i + 1) behind = _
      rw [step_questionMark hcode]
      rfl
    · obtain ⟨⟨before', behind'⟩, hsplit, heq⟩ := Option.map_eq_some_iff.mp h
      cases heq
      obtain ⟨hrest, hpositions⟩ := ih hsplit (i + 1)
      have hlength : i + (b :: before').length = i + 1 + before'.length := by
        rw [List.length_cons]
        omega
      refine ⟨congrArg (b :: ·) hrest, (if_neg hb).trans ?_⟩
      rw [hlength]
      exact hpositions

/-- Replacing every placeholder is a substitution at the positions that the scanner finds. -/
theorem replaceAll_eq_substitute (value : ℕ → Bytes) (index i : ℕ) (text : Bytes) :
    s.replaceAll value index text
      = substitute i (((s.regions.positions .code i text).zipIdx index).map
          fun pj ↦ (pj.1, value pj.2)) text := by
  induction hn : text.length using Nat.strong_induction_on generalizing text index i with
  | h n ih =>
    cases hsplit : s.split .code text with
    | none =>
      rw [replaceAll_of_none hsplit, positions_of_none hsplit i]
      exact (substitute_nil i text).symm
    | some parts =>
      obtain ⟨before, behind⟩ := parts
      obtain ⟨htext, hpositions⟩ := positions_of_some hsplit i
      have hlt : behind.length < n := hn ▸ length_lt_of_split hsplit
      rw [replaceAll_of_some hsplit, hpositions, List.zipIdx_cons, List.map_cons, htext,
        substitute_cons, ih _ hlt _ (i + before.length + 1) behind rfl]

/-- A byte that no value holds is there as often as before. -/
theorem count_replaceAll {b : Byte} (hb : b ≠ questionMark) {value : ℕ → Bytes}
    (hvalue : ∀ index, b ∉ value index) (index : ℕ) (text : Bytes) :
    (s.replaceAll value index text).count b = text.count b := by
  induction hn : text.length using Nat.strong_induction_on generalizing text index with
  | h n ih =>
    cases hsplit : s.split .code text with
    | none => rw [replaceAll_of_none hsplit]
    | some parts =>
      obtain ⟨before, behind⟩ := parts
      have htext := (positions_of_some hsplit 0).1
      have hlt : behind.length < n := hn ▸ length_lt_of_split hsplit
      rw [replaceAll_of_some hsplit, List.count_append, List.count_append, ih _ hlt _ behind rfl,
        List.count_eq_zero_of_not_mem (hvalue index), htext, List.count_append,
        List.count_cons_of_ne hb.symm, Nat.add_zero]

/-! ## Counting -/

/-- The text has so many placeholders, and the search goes on behind it as if from the start. -/
def Places (s : Scanner) (text : Bytes) (n : ℕ) : Prop :=
  text.foldl s.step .code = .code ∧ ∀ i, (s.regions.positions .code i text).length = n

theorem Places.append {xs ys : Bytes} {m n : ℕ} (hx : s.Places xs m) (hy : s.Places ys n) :
    s.Places (xs ++ ys) (m + n) := by
  obtain ⟨hxmode, hxcount⟩ := hx
  obtain ⟨hymode, hycount⟩ := hy
  constructor
  · rw [List.foldl_append, hxmode, hymode]
  · intro i
    have hmode : xs.foldl s.regions.step .code = .code := hxmode
    rw [Regions.positions_append, List.length_append, hxcount, hmode, hycount]

/-- Code without a question mark. -/
theorem places_code {text : Bytes} (h : ∀ b ∈ text, isCodeByte b = true ∧ b ≠ questionMark) :
    s.Places text 0 := by
  induction text with
  | nil => exact ⟨rfl, fun _ ↦ rfl⟩
  | cons b text ih =>
    obtain ⟨⟨hb, hne⟩, htext⟩ := List.forall_mem_cons.mp h
    obtain ⟨hmode, hcount⟩ := ih htext
    have hstep : s.step .code b = .code := enter_of_isCodeByte hb
    constructor
    · rw [List.foldl_cons, hstep, hmode]
    · intro i
      have hregion : s.regions.step .code b = .code := hstep
      rw [Regions.positions, if_neg fun h ↦ hne h.1, hregion, hcount]

theorem places_questionMark : s.Places [questionMark] 1 := by
  have hstep : s.step .code questionMark = .code := step_questionMark rfl
  exact ⟨hstep, fun _ ↦ rfl⟩

theorem step_backtick {b : Byte} (h : b ≠ backtick) :
    s.step (.quoted backtick) b = .quoted backtick := by
  rw [step, if_neg fun h ↦ h.2.1 rfl, if_neg h]

/-- There is no placeholder inside backticks. -/
theorem positions_backtick {text : Bytes} (h : ∀ b ∈ text, b ≠ backtick) :
    text.foldl s.step (.quoted backtick) = .quoted backtick ∧
      ∀ i, s.regions.positions (.quoted backtick) i text = [] := by
  induction text with
  | nil => exact ⟨rfl, fun _ ↦ rfl⟩
  | cons b text ih =>
    obtain ⟨hb, htext⟩ := List.forall_mem_cons.mp h
    obtain ⟨hmode, hnone⟩ := ih htext
    constructor
    · rw [List.foldl_cons, step_backtick hb, hmode]
    · intro i
      have hregion : s.regions.step (.quoted backtick) b = .quoted backtick := step_backtick hb
      rw [Regions.positions, if_neg fun h ↦ Bool.false_ne_true h.2, hregion, hnone]

/-- A name in backticks, and a byte of code behind it. -/
theorem places_backticks (hback : s.backtickNames = true) {text : Bytes}
    (h : ∀ b ∈ text, b ≠ backtick) {c : Byte} (hc : isCodeByte c = true) (hne : c ≠ questionMark) :
    s.Places (backtick :: text ++ [backtick, c]) 0 := by
  have hcback : c ≠ backtick := by
    rintro rfl
    exact absurd hc (by decide)
  have hbacktick : backtick ≠ questionMark := by decide
  have hopen : s.step .code backtick = .quoted backtick := by
    simp [step, enter, hback]
  have hclose : s.step (.quoted backtick) backtick = .closing backtick := by
    rw [step, if_neg fun h ↦ h.2.1 rfl, if_pos rfl]
  have hnext : s.step (.closing backtick) c = .code := by
    rw [step, if_neg hcback, enter_of_isCodeByte hc]
  obtain ⟨hmode, hnone⟩ := positions_backtick (s := s) h
  constructor
  · have hname : (backtick :: text).foldl s.step .code = .quoted backtick := by
      rw [List.foldl_cons, hopen, hmode]
    rw [List.foldl_append, hname, List.foldl_cons, hclose, List.foldl_cons, hnext]
    rfl
  · intro i
    have hopening : s.regions.step .code backtick = .quoted backtick := hopen
    have hname : text.foldl s.regions.step (.quoted backtick) = .quoted backtick := hmode
    have hclosing : s.regions.step (.quoted backtick) backtick = .closing backtick := hclose
    rw [List.cons_append, Regions.positions, if_neg fun h ↦ hbacktick h.1, hopening,
      Regions.positions_append, hnone, hname, List.nil_append, Regions.positions,
      if_neg fun h ↦ hbacktick h.1, hclosing, Regions.positions, if_neg fun h ↦ hne h.1]
    rfl

/-- Items with a separator between them that has no placeholder. -/
theorem places_intercalate {sep : Bytes} (hsep : s.Places sep 0) {items : List Bytes}
    (hne : items ≠ []) (h : ∀ x ∈ items, s.Places x 1) :
    s.Places (sep.intercalate items) items.length := by
  induction items with
  | nil => exact absurd rfl hne
  | cons x items ih =>
    obtain ⟨hx, hitems⟩ := List.forall_mem_cons.mp h
    cases items with
    | nil =>
      rw [List.intercalate_singleton]
      exact hx
    | cons y items =>
      rw [List.intercalate_cons_cons, List.length_cons, Nat.add_comm]
      exact (hx.append hsep).append (ih (List.cons_ne_nil _ _) hitems)

/-! ## Filling in -/

/-- Chunks of text, each with a value behind it. -/
def filled (chunks values : List Bytes) : Bytes := (List.zipWith (· ++ ·) chunks values).flatten

theorem filled_cons (c : Bytes) (chunks : List Bytes) (value : Bytes) (values : List Bytes) :
    filled (c :: chunks) (value :: values) = c ++ value ++ filled chunks values := rfl

theorem filled_append {chunks values : List Bytes} (h : chunks.length = values.length)
    (chunks' values' : List Bytes) :
    filled (chunks ++ chunks') (values ++ values')
      = filled chunks values ++ filled chunks' values' := by
  rw [filled, List.zipWith_append h, List.flatten_append]
  rfl

/-- The chunks of a list of items, with a text in front and another one between them. -/
def separated (front sep : Bytes) : List Bytes → List Bytes
  | [] => []
  | item :: items => (front ++ item) :: items.map (sep ++ ·)

theorem forall_mem_separated {P : Bytes → Prop} {front sep : Bytes} {items : List Bytes}
    (hfront : ∀ item ∈ items, P (front ++ item)) (hsep : ∀ item ∈ items, P (sep ++ item)) :
    ∀ c ∈ separated front sep items, P c := by
  rcases items with _ | ⟨item, items⟩
  · intro c hc
    cases hc
  · refine List.forall_mem_cons.mpr ⟨hfront item List.mem_cons_self, fun c hc ↦ ?_⟩
    obtain ⟨item', hitem', rfl⟩ := List.mem_map.mp hc
    exact hsep item' (List.mem_cons_of_mem item hitem')

theorem separated_injective (front sep : Bytes) : Function.Injective (separated front sep) := by
  intro xs ys h
  rcases xs with _ | ⟨x, xs⟩ <;> rcases ys with _ | ⟨y, ys⟩
  · rfl
  · cases h
  · cases h
  · obtain ⟨hhead, htail⟩ := List.cons.inj h
    have hcancel : Function.Injective (sep ++ ·) := fun _ _ ↦ List.append_cancel_left
    rw [List.append_cancel_left hhead, List.map_injective_iff.mpr hcancel htail]

theorem map_length_separated {front sep : Bytes} {xs ys : List Bytes}
    (h : xs.map List.length = ys.map List.length) :
    (separated front sep xs).map List.length = (separated front sep ys).map List.length := by
  rcases xs with _ | ⟨x, xs⟩ <;> rcases ys with _ | ⟨y, ys⟩
  · rfl
  · cases h
  · cases h
  · obtain ⟨hhead, htail⟩ := List.cons.inj h
    have hbehind := congrArg (List.map (sep.length + ·)) htail
    rw [List.map_map, List.map_map] at hbehind
    have hadd : List.length ∘ (sep ++ ·) = (sep.length + ·) ∘ List.length :=
      funext fun _ ↦ List.length_append
    rw [separated, separated, List.map_cons, List.map_cons, List.length_append,
      List.length_append, hhead, List.map_map, List.map_map, hadd, hbehind]

theorem length_separated (front sep : Bytes) (items : List Bytes) :
    (separated front sep items).length = items.length := by
  rcases items with _ | ⟨item, items⟩
  · rfl
  · rw [separated, List.length_cons, List.length_map, List.length_cons]

theorem filled_separated {ι : Type} (front : Bytes) {sep : Bytes} {items : List ι}
    (hne : items ≠ []) (text value : ι → Bytes) :
    filled (separated front sep (items.map text)) (items.map value)
      = front ++ sep.intercalate (items.map fun x ↦ text x ++ value x) := by
  induction items generalizing front with
  | nil => exact absurd rfl hne
  | cons x items ih =>
    rcases items with _ | ⟨y, items⟩
    · simp [separated, filled]
    · -- Behind the first item the list goes on with the separator in front.
      have hrest : filled ((sep ++ text y) :: (items.map text).map (sep ++ ·))
          (value y :: items.map value)
            = sep ++ sep.intercalate ((y :: items).map fun x ↦ text x ++ value x) :=
        ih sep (List.cons_ne_nil y items)
      have hchunks : separated front sep ((x :: y :: items).map text)
          = (front ++ text x) :: (sep ++ text y) :: (items.map text).map (sep ++ ·) := rfl
      rw [hchunks, List.map_cons, List.map_cons, filled_cons, hrest]
      simp [List.intercalate_cons_cons]

/-- With the values in its placeholders the text is the given one, and the search goes on behind it
as if from the start. -/
structure Fills (s : Scanner) (text : Bytes) (values : List Bytes) (result : Bytes) : Prop where
  mode : text.foldl s.step .code = .code
  length : ∀ i, (s.regions.positions .code i text).length = values.length
  substitute : ∀ i, substitute i ((s.regions.positions .code i text).zip values) text = result

theorem Places.fills {text : Bytes} (h : s.Places text 0) : s.Fills text [] text where
  mode := h.1
  length := h.2
  substitute i := by rw [List.zip_nil_right, substitute_nil]

theorem fills_questionMark (value : Bytes) : s.Fills [questionMark] [value] value where
  mode := places_questionMark.1
  length := places_questionMark.2
  substitute i := by
    have hpositions : s.regions.positions .code i [questionMark] = [i] := rfl
    rw [hpositions, List.zip_cons_cons, Sql.substitute, if_pos rfl, List.zip_nil_right,
      substitute_nil, List.append_nil]

theorem Fills.append {xs ys fx fy : Bytes} {vs ws : List Bytes} (hx : s.Fills xs vs fx)
    (hy : s.Fills ys ws fy) : s.Fills (xs ++ ys) (vs ++ ws) (fx ++ fy) := by
  have hmode : xs.foldl s.regions.step .code = .code := hx.mode
  refine ⟨?_, fun i ↦ ?_, fun i ↦ ?_⟩
  · rw [List.foldl_append, hx.mode, hy.mode]
  · rw [Regions.positions_append, hmode, List.length_append, hx.length, hy.length,
      List.length_append]
  · have hlater : ∀ p ∈ (s.regions.positions .code (i + xs.length) ys).zip ws,
        i + xs.length ≤ p.1 :=
      fun p hp ↦ (Regions.positions_bounds (List.of_mem_zip hp).1).1
    rw [Regions.positions_append, hmode, List.zip_append (hx.length i),
      Regions.substitute_append (hx.length i) hlater, hx.substitute, hy.substitute]

/-- A list of items with a placeholder in each of them. -/
theorem fills_intercalate {ι : Type} {sep : Bytes} (hsep : s.Places sep 0) {items : List ι}
    (hne : items ≠ []) {text value result : ι → Bytes}
    (h : ∀ x ∈ items, s.Fills (text x) [value x] (result x)) :
    s.Fills (sep.intercalate (items.map text)) (items.map value)
      (sep.intercalate (items.map result)) := by
  induction items with
  | nil => exact absurd rfl hne
  | cons x items ih =>
    obtain ⟨hx, hitems⟩ := List.forall_mem_cons.mp h
    rcases items with _ | ⟨y, items⟩
    · simpa using hx
    · have hrest := (hx.append hsep.fills).append (ih (List.cons_ne_nil _ _) hitems)
      simpa [List.intercalate_cons_cons] using hrest

/-- A text of chunks, each with a placeholder behind it. -/
theorem fills_filled {chunks values : List Bytes} (hchunks : ∀ c ∈ chunks, s.Places c 0)
    (h : chunks.length = values.length) :
    s.Fills (filled chunks (values.map fun _ ↦ [questionMark])) values (filled chunks values) := by
  induction chunks generalizing values with
  | nil =>
    obtain rfl := List.eq_nil_of_length_eq_zero h.symm
    exact ⟨rfl, fun _ ↦ rfl, fun _ ↦ rfl⟩
  | cons c chunks ih =>
    obtain ⟨value, values, rfl⟩ := List.exists_cons_of_length_eq_add_one h.symm
    obtain ⟨hc, hrest⟩ := List.forall_mem_cons.mp hchunks
    exact (hc.fills.append (fills_questionMark value)).append (ih hrest (Nat.succ_inj.mp h))

end Scanner

end Sql

end Ormpp
