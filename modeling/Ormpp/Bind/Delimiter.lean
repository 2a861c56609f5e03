import Ormpp.Bind.Format

/-!
# Values that can be told apart

In a list of assignments a value is followed by a comma, by a blank or by nothing. What the client
writes for a value ends where the next of these begins, in a quoted string as outside, so that the
values can be read off the text that they were put in.
-/

namespace Ormpp

open Sql

/-- A byte that follows a value. -/
def isDelimiter (b : Byte) : Bool := b = 0x2c || b = blank

/-- What follows a value. -/
def Delimits (rest : Bytes) : Prop := ∀ b, rest.head? = some b → isDelimiter b = true

/-- A text without quotes, which goes up to the next delimiter. -/
structure Bare (text : Bytes) : Prop where
  ne_nil : text ≠ []
  plain : ∀ b ∈ text, isDelimiter b = false ∧ b ≠ quote

theorem bare_of_isDigit {text : Bytes} (hne : text ≠ []) (h : ∀ b ∈ text, isDigit b = true) :
    Bare text := by
  refine ⟨hne, fun b hb ↦ ?_⟩
  have hdigit : isDigit b = true := h b hb
  constructor
  · rw [isDelimiter, Bool.or_eq_false_iff, decide_eq_false_iff_not, decide_eq_false_iff_not]
    constructor <;> rintro rfl <;> exact absurd hdigit (by decide)
  · rintro rfl
    exact absurd hdigit (by decide)

theorem Bare.cons {b : Byte} (hb : isDelimiter b = false ∧ b ≠ quote) {text : Bytes}
    (h : Bare text) : Bare (b :: text) :=
  ⟨List.cons_ne_nil b text, List.forall_mem_cons.mpr ⟨hb, h.plain⟩⟩

theorem bare_intText (n : ℤ) : Bare (intText n) := by
  have hnat (n : ℕ) : Bare (natText n) :=
    bare_of_isDigit (natText_ne_nil n) fun _ hb ↦ isDigit_of_mem_natText hb
  obtain n | n := n
  · exact hnat n
  · exact (hnat (n + 1)).cons (by decide)

theorem RealText.bare (v : RealText) : Bare v.text := by
  have hbody : Bare v.body := by
    refine ⟨v.body_ne_nil, fun b hb ↦ ?_⟩
    have hplain := v.body_plain b hb
    constructor
    · rw [isDelimiter, Bool.or_eq_false_iff, decide_eq_false_iff_not, decide_eq_false_iff_not]
      constructor <;> rintro rfl <;> exact absurd hplain (by decide)
    · rintro rfl
      exact absurd hplain (by decide)
  rw [RealText.text]
  split_ifs
  · exact hbody.cons (by decide)
  · exact hbody

theorem hexDigit_plain {n : Byte} (h : n.toNat < 16) :
    isDelimiter (hexDigit n) = false ∧ hexDigit n ≠ quote :=
  forall_lt_sixteen (p := fun n ↦ isDelimiter (hexDigit n) = false ∧ hexDigit n ≠ quote)
    (by decide) h

theorem bare_blobToHex (value : Bytes) : Bare (blobToHex value) := by
  refine ⟨List.cons_ne_nil _ _, fun b hb ↦ ?_⟩
  rw [blobToHex, List.mem_append, List.mem_flatMap] at hb
  obtain hb | ⟨c, -, hb⟩ := hb
  · have hfront : ∀ b ∈ ascii "0x", isDelimiter b = false ∧ b ≠ quote := by decide
    exact hfront b hb
  · obtain rfl | hb := List.mem_cons.mp hb
    · exact hexDigit_plain (high_lt c)
    · rw [List.mem_singleton.mp hb]
      exact hexDigit_plain (low_lt c)

/-- What the client writes for a value is a quoted string or goes up to the next delimiter. -/
theorem quoted_or_bare (noBackslashEscapes : Bool) (v : QueryArg) :
    (∃ s, toQueryArg noBackslashEscapes v = escapeMysqlString s noBackslashEscapes) ∨
      Bare (toQueryArg noBackslashEscapes v) := by
  have hnull : ∀ b ∈ ascii "NULL", isDelimiter b = false ∧ b ≠ quote := by decide
  have hzero : ∀ b ∈ ascii "0", isDelimiter b = false ∧ b ≠ quote := by decide
  have hone : ∀ b ∈ ascii "1", isDelimiter b = false ∧ b ≠ quote := by decide
  obtain _ | b | n | r | s | buffer | s | value := v
  · exact .inr ⟨List.cons_ne_nil _ _, hnull⟩
  · rcases b with _ | _
    · exact .inr ⟨List.cons_ne_nil _ _, hzero⟩
    · exact .inr ⟨List.cons_ne_nil _ _, hone⟩
  · exact .inr (bare_intText n)
  · exact .inr r.bare
  · exact .inl ⟨s, rfl⟩
  · exact .inl ⟨untilNul buffer, rfl⟩
  · exact .inl ⟨untilNul (s.getD []), rfl⟩
  · exact .inr (bare_blobToHex value)

theorem Bare.takeWhile_append {text rest : Bytes} (h : Bare text) (hrest : Delimits rest) :
    (text ++ rest).takeWhile (fun b ↦ !isDelimiter b) = text := by
  rw [List.takeWhile_append_of_pos fun b hb ↦ by rw [(h.plain b hb).1]; rfl]
  rcases rest with _ | ⟨b, rest⟩
  · exact List.append_nil text
  · rw [List.takeWhile_cons_of_neg (by simp [hrest b rfl]), List.append_nil]

theorem Bare.ne_escape {text : Bytes} (h : Bare text) (noBackslashEscapes : Bool)
    (rest s more : Bytes) : text ++ rest ≠ escapeMysqlString s noBackslashEscapes ++ more := by
  obtain ⟨b, text, rfl⟩ := List.exists_cons_of_ne_nil h.ne_nil
  intro heq
  obtain rfl : b = quote := (List.cons.inj heq).1
  exact (h.plain quote List.mem_cons_self).2 rfl

theorem Delimits.head_ne_quote {rest : Bytes} (h : Delimits rest) : rest.head? ≠ some quote := by
  intro hquote
  exact absurd (h quote hquote) (by decide)

/-- Where a value ends can be read off the text. -/
theorem toQueryArg_append_inj (noBackslashEscapes : Bool) (v w : QueryArg) {rest rest' : Bytes}
    (hrest : Delimits rest) (hrest' : Delimits rest')
    (h : toQueryArg noBackslashEscapes v ++ rest = toQueryArg noBackslashEscapes w ++ rest') :
    toQueryArg noBackslashEscapes v = toQueryArg noBackslashEscapes w ∧ rest = rest' := by
  have hvalue : toQueryArg noBackslashEscapes v = toQueryArg noBackslashEscapes w := by
    obtain ⟨s, hs⟩ | hv := quoted_or_bare noBackslashEscapes v
    · obtain ⟨s', hs'⟩ | hw := quoted_or_bare noBackslashEscapes w
      · -- The server reads both strings off the same text.
        have hlex := congrArg (mysqlDialect noBackslashEscapes).lex h
        rw [hs, hs', lex_escapeMysqlString s rest noBackslashEscapes hrest.head_ne_quote,
          lex_escapeMysqlString s' rest' noBackslashEscapes hrest'.head_ne_quote] at hlex
        obtain rfl : s = s' := Lexeme.literal.inj (List.cons.inj hlex).1
        rw [hs, hs']
      · rw [hs] at h
        exact absurd h.symm (hw.ne_escape noBackslashEscapes _ _ _)
    · obtain ⟨s', hs'⟩ | hw := quoted_or_bare noBackslashEscapes w
      · rw [hs'] at h
        exact absurd h (hv.ne_escape noBackslashEscapes _ _ _)
      · rw [← hv.takeWhile_append hrest, h, hw.takeWhile_append hrest']
  exact ⟨hvalue, List.append_cancel_left (hvalue ▸ h)⟩

theorem delimits_nil : Delimits [] := by
  intro b hb
  cases hb

theorem delimits_filled {chunks : List Bytes} (h : ∀ c ∈ chunks, c ≠ [] ∧ Delimits c)
    (values : List Bytes) : Delimits (Scanner.filled chunks values) := by
  rcases chunks with _ | ⟨c, chunks⟩
  · exact delimits_nil
  · rcases values with _ | ⟨value, values⟩
    · exact delimits_nil
    · obtain ⟨hne, hc⟩ := h c List.mem_cons_self
      obtain ⟨b, c, rfl⟩ := List.exists_cons_of_ne_nil hne
      exact hc

/-- The chunks and the values can be read off the text that they make, where the lengths of the
chunks are known. -/
theorem filled_inj (noBackslashEscapes : Bool) {chunks chunks' : List Bytes}
    (hlength : chunks.map List.length = chunks'.map List.length)
    (hchunks : ∀ c ∈ chunks.tail, c ≠ [] ∧ Delimits c)
    (hchunks' : ∀ c ∈ chunks'.tail, c ≠ [] ∧ Delimits c) {vs ws : List QueryArg}
    (hvs : vs.length = chunks.length) (hws : ws.length = chunks'.length)
    (h : Scanner.filled chunks (vs.map (toQueryArg noBackslashEscapes))
      = Scanner.filled chunks' (ws.map (toQueryArg noBackslashEscapes))) :
    chunks = chunks' ∧
      vs.map (toQueryArg noBackslashEscapes) = ws.map (toQueryArg noBackslashEscapes) := by
  induction chunks generalizing chunks' vs ws with
  | nil =>
    obtain rfl := List.map_eq_nil_iff.mp hlength.symm
    obtain rfl := List.eq_nil_of_length_eq_zero hvs
    obtain rfl := List.eq_nil_of_length_eq_zero hws
    exact ⟨rfl, rfl⟩
  | cons c chunks ih =>
    rcases chunks' with _ | ⟨c', chunks'⟩
    · cases hlength
    obtain ⟨v, vs, rfl⟩ := List.exists_cons_of_length_eq_add_one hvs
    obtain ⟨w, ws, rfl⟩ := List.exists_cons_of_length_eq_add_one hws
    obtain ⟨hfront, hbehind⟩ := List.cons.inj hlength
    simp only [List.map_cons, Scanner.filled_cons, List.append_assoc] at h
    obtain ⟨rfl, hvalues⟩ := List.append_inj h hfront
    -- Behind the first value stands a delimiter, so that it ends in the same place in both texts.
    obtain ⟨hvalue, hrest⟩ := toQueryArg_append_inj noBackslashEscapes v w
      (delimits_filled hchunks _) (delimits_filled hchunks' _) hvalues
    obtain ⟨rfl, hlater⟩ := ih hbehind (fun c' hc' ↦ hchunks c' (List.mem_of_mem_tail hc'))
      (fun c' hc' ↦ hchunks' c' (List.mem_of_mem_tail hc')) (Nat.succ.inj hvs) (Nat.succ.inj hws)
      hrest
    rw [List.map_cons, List.map_cons, hvalue, hlater]
    exact ⟨rfl, rfl⟩

end Ormpp
