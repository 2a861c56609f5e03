import Ormpp.Sql.Table

/-!
# A condition behind another

A condition that stands behind `1 = 1 and` says of a row what it says by itself. It need not be in
parentheses: where it has an `OR` the equation goes with what is in front of that, and changes
nothing there. What is read does not depend on the number that bounds the nesting, as long as it is
greater than that of the tokens.
-/

namespace Ormpp

namespace Sql

namespace Parser

/-! ## What a reader takes -/

/-- What is left is less than what was there. -/
def Consumes (sub : ℕ → Reader Expr) : Prop :=
  ∀ level ts e rest, sub level ts = some (e, rest) → rest.length < ts.length

/-- The readers agree on fewer than `k` tokens. -/
def AgreeBelow (k : ℕ) (sub sub' : ℕ → Reader Expr) : Prop :=
  ∀ level ts, ts.length < k → sub level ts = sub' level ts

theorem length_of_operator {ts rest : List Token} {op : Operator}
    (h : operator ts = some (op, rest)) : rest.length < ts.length := by
  revert h
  fun_cases operator ts <;> intro h <;> cases h <;> simp only [List.length_cons] <;> omega

theorem length_of_expect {t : Token} {ts rest : List Token} (h : expect t ts = some rest) :
    rest.length < ts.length := by
  cases ts with
  | nil => cases h
  | cons t' ts =>
    rw [expect] at h
    split_ifs at h
    cases h
    exact Nat.lt_succ_self _

section

variable {sub sub' : ℕ → Reader Expr} {k : ℕ}

theorem length_of_list (hsub : Consumes sub) {n : ℕ} {ts rest : List Token} {es : List Expr}
    (h : list sub n ts = some (es, rest)) : rest.length < ts.length := by
  induction n generalizing ts es with
  | zero => cases h
  | succ n ih =>
    rw [list, Option.bind_eq_bind, Option.bind_eq_some_iff] at h
    obtain ⟨⟨e, ts'⟩, he, h⟩ := h
    have hlt := hsub _ _ _ _ he
    dsimp only at h
    split at h
    · rw [Option.bind_eq_bind, Option.bind_eq_some_iff] at h
      obtain ⟨⟨es', ts''⟩, hes, h⟩ := h
      cases h
      have := ih hes
      simp only [List.length_cons] at hlt
      omega
    · cases h
      simp only [List.length_cons] at hlt
      omega
    · cases h

theorem length_of_parenthesized (hsub : Consumes sub) {ts rest : List Token} {es : List Expr}
    (h : parenthesized sub ts = some (es, rest)) : rest.length < ts.length := by
  rw [parenthesized, Option.bind_eq_bind, Option.bind_eq_some_iff] at h
  obtain ⟨ts', hopen, h⟩ := h
  have hlt := length_of_expect hopen
  split at h
  · cases h
    rw [List.length_cons] at hlt
    omega
  · exact (length_of_list hsub h).trans hlt

theorem length_of_operands (hsub : Consumes sub) {lhs e : Expr} {op : Operator}
    {ts rest : List Token} (h : operands sub lhs op ts = some (e, rest)) :
    rest.length < ts.length := by
  cases op with
  | or | and | compare | is | like =>
    rw [operands, Option.bind_eq_bind, Option.bind_eq_some_iff] at h
    obtain ⟨⟨rhs, ts'⟩, hrhs, h⟩ := h
    cases h
    exact hsub _ _ _ _ hrhs
  | between =>
    simp only [operands, Option.bind_eq_bind, Option.bind_eq_some_iff] at h
    obtain ⟨⟨lo, ts'⟩, hlo, ts'', hand, ⟨hi, ts'''⟩, hhi, h⟩ := h
    cases h
    exact (hsub _ _ _ _ hhi).trans ((length_of_expect hand).trans (hsub _ _ _ _ hlo))
  | isIn =>
    rw [operands, Option.bind_eq_bind, Option.bind_eq_some_iff] at h
    obtain ⟨⟨es, ts'⟩, hes, h⟩ := h
    cases h
    exact length_of_parenthesized hsub hes

theorem length_of_primary (hsub : Consumes sub) {e : Expr} {ts rest : List Token}
    (h : primary sub ts = some (e, rest)) : rest.length < ts.length := by
  revert h
  fun_cases primary sub ts
  case case6 ts =>
    intro h
    rw [Option.bind_eq_bind, Option.bind_eq_some_iff] at h
    obtain ⟨⟨e', ts'⟩, he, h⟩ := h
    cases h
    exact (hsub _ _ _ _ he).trans (Nat.lt_succ_self _)
  case case7 ts =>
    intro h
    rw [Option.bind_eq_bind, Option.bind_eq_some_iff] at h
    obtain ⟨⟨e', ts'⟩, he, h⟩ := h
    cases h
    exact (hsub _ _ _ _ he).trans (Nat.lt_succ_self _)
  case case8 ts =>
    intro h
    simp only [Option.bind_eq_bind, Option.bind_eq_some_iff] at h
    obtain ⟨⟨e', ts'⟩, he, ts'', hclose, h⟩ := h
    cases h
    exact (length_of_expect hclose).trans ((hsub _ _ _ _ he).trans (Nat.lt_succ_self _))
  all_goals intro h; cases h <;> simp only [List.length_cons] <;> omega

theorem length_of_operators (hsub : Consumes sub) {level n : ℕ} {lhs e : Expr}
    {ts rest : List Token} (h : operators sub level n lhs ts = some (e, rest)) :
    rest.length ≤ ts.length := by
  induction n generalizing lhs ts with
  | zero => cases h
  | succ n ih =>
    rw [operators] at h
    split at h
    · cases h
      exact le_rfl
    · rename_i op rest' hop
      split_ifs at h
      · cases h
        exact le_rfl
      · rw [Option.bind_eq_bind, Option.bind_eq_some_iff] at h
        obtain ⟨⟨e', ts'⟩, he, h⟩ := h
        exact (ih h).trans ((length_of_operands hsub he).trans (length_of_operator hop)).le

end

theorem consumes_expr (n : ℕ) : Consumes (expr n) := by
  induction n with
  | zero =>
    intro level ts e rest h
    cases h
  | succ n ih =>
    intro level ts e rest h
    rw [expr, Option.bind_eq_bind, Option.bind_eq_some_iff] at h
    obtain ⟨⟨lhs, ts'⟩, hlhs, h⟩ := h
    exact (length_of_operators ih h).trans_lt (length_of_primary ih hlhs)

/-! ## The bound on the nesting -/

section

variable {sub sub' : ℕ → Reader Expr} {k : ℕ} (hagree : AgreeBelow k sub sub')

include hagree

theorem primary_congr {ts : List Token} (h : ts.length ≤ k) :
    primary sub ts = primary sub' ts := by
  fun_cases primary sub ts
  case case5 column ts hdot => rw [primary.eq_5 _ _ _ hdot]
  case case6 ts | case7 ts | case8 ts =>
    rw [List.length_cons] at h
    rw [primary, ← hagree _ ts (by omega)]
  case case9 => rw [primary] <;> assumption
  all_goals rfl

variable (hsub : Consumes sub)

include hsub

theorem list_congr (n : ℕ) {ts : List Token} (h : ts.length < k) :
    list sub n ts = list sub' n ts := by
  induction n generalizing ts with
  | zero => rfl
  | succ n ih =>
    rw [list, list, ← hagree 0 ts h]
    refine Option.bind_congr fun p hp ↦ ?_
    have hlt := hsub _ _ _ _ hp
    dsimp only
    split
    · rename_i heq
      rw [heq, List.length_cons] at hlt
      rw [ih (by omega)]
    all_goals rfl

theorem parenthesized_congr {ts : List Token} (h : ts.length < k) :
    parenthesized sub ts = parenthesized sub' ts := by
  rw [parenthesized, parenthesized]
  refine Option.bind_congr fun ts' hts ↦ ?_
  have hlt := length_of_expect hts
  split
  · rfl
  · exact list_congr hagree hsub _ (by omega)

theorem operands_congr (lhs : Expr) (op : Operator) {ts : List Token} (h : ts.length < k) :
    operands sub lhs op ts = operands sub' lhs op ts := by
  cases op with
  | or | and | compare | is | like => rw [operands, operands, ← hagree _ ts h]
  | between =>
    rw [operands, operands, ← hagree _ ts h]
    refine Option.bind_congr fun p hp ↦ Option.bind_congr fun ts' hts ↦ ?_
    have hlo := hsub _ _ _ _ hp
    have hand := length_of_expect hts
    rw [← hagree _ ts' (by omega)]
  | isIn => rw [operands, operands, parenthesized_congr hagree hsub h]

theorem operators_congr (level n : ℕ) (lhs : Expr) {ts : List Token} (h : ts.length ≤ k) :
    operators sub level n lhs ts = operators sub' level n lhs ts := by
  induction n generalizing lhs ts with
  | zero => rfl
  | succ n ih =>
    rw [operators, operators]
    split
    · rfl
    · rename_i op rest hop
      have hrest := length_of_operator hop
      split_ifs
      · rfl
      · rw [← operands_congr hagree hsub lhs op (by omega)]
        refine Option.bind_congr fun p hp ↦ ?_
        have hlt := length_of_operands hsub hp
        exact ih p.1 (by omega)

end

/-- A bound that is greater than the number of the tokens is as good as any other. -/
theorem agreeBelow_expr {n m : ℕ} (h : n ≤ m) : AgreeBelow n (expr n) (expr m) := by
  induction n generalizing m with
  | zero =>
    intro level ts hlt
    exact absurd hlt (Nat.not_lt_zero _)
  | succ n ih =>
    obtain ⟨m, rfl⟩ : ∃ k, m = k + 1 := ⟨m - 1, by omega⟩
    have hagree : AgreeBelow n (expr n) (expr m) := ih (by omega)
    intro level ts hlt
    rw [expr, expr, ← primary_congr hagree (by omega)]
    refine Option.bind_congr fun p hp ↦ ?_
    have hrest := length_of_primary (consumes_expr n) hp
    exact operators_congr hagree (consumes_expr n) level _ p.1 (by omega)

theorem expr_congr {n m level : ℕ} {ts : List Token} (hn : ts.length < n) (hm : ts.length < m) :
    expr n level ts = expr m level ts := by
  obtain h | h := le_total n m
  · exact agreeBelow_expr h level ts hn
  · exact (agreeBelow_expr h level ts hm).symm

/-! ## The operators in two goes -/

section

variable {sub : ℕ → Reader Expr} {level level' n m : ℕ} {ts : List Token}

/-- An operator that binds tightly enough is taken with its operands. -/
theorem operators_of_le {op : Operator} {rest : List Token} (hop : operator ts = some (op, rest))
    (hle : level ≤ op.level) (lhs : Expr) :
    operators sub level (n + 1) lhs ts
      = (operands sub lhs op rest).bind fun p ↦ operators sub level n p.1 p.2 := by
  rw [operators, hop]
  exact if_neg (Nat.not_lt.mpr hle)

/-- What is left begins with no operator that could have been taken. -/
theorem stops_of_operators {lhs e : Expr} {rest : List Token}
    (h : operators sub level n lhs ts = some (e, rest)) : Stops level rest := by
  induction n generalizing lhs ts with
  | zero => cases h
  | succ n ih =>
    rw [operators] at h
    split at h
    · rename_i hnone
      cases h
      exact stops_of_none hnone
    · rename_i op rest' hop
      split_ifs at h with hlevel
      · cases h
        intro op' rest'' hop'
        cases hop.symm.trans hop'
        exact hlevel
      · obtain ⟨⟨e', ts'⟩, -, h⟩ := Option.bind_eq_some_iff.mp h
        exact ih h

theorem stops_of_expr {e : Expr} {rest : List Token} (h : expr n level ts = some (e, rest)) :
    Stops level rest := by
  cases n with
  | zero => cases h
  | succ n =>
    obtain ⟨⟨lhs, ts'⟩, -, h⟩ := Option.bind_eq_some_iff.mp h
    exact stops_of_operators h

theorem operators_fuel (hsub : Consumes sub) (lhs : Expr) (hn : ts.length < n)
    (hm : ts.length < m) : operators sub level n lhs ts = operators sub level m lhs ts := by
  induction n generalizing m lhs ts with
  | zero => exact absurd hn (Nat.not_lt_zero _)
  | succ n ih =>
    obtain ⟨m, rfl⟩ : ∃ k, m = k + 1 := ⟨m - 1, by omega⟩
    rw [operators, operators]
    split
    · rfl
    · rename_i op rest hop
      have hrest := length_of_operator hop
      split_ifs
      · rfl
      · refine Option.bind_congr fun p hp ↦ ?_
        have hlt := length_of_operands hsub hp
        exact ih p.1 (by omega) (by omega)

/-- The operators that bind more tightly are taken first, and then the others. -/
theorem operators_bind (hsub : Consumes sub) (hlevel : level ≤ level') (lhs : Expr)
    (hn : ts.length < n) :
    operators sub level n lhs ts
      = (operators sub level' n lhs ts).bind fun p ↦ operators sub level n p.1 p.2 := by
  induction n generalizing lhs ts with
  | zero => exact absurd hn (Nat.not_lt_zero _)
  | succ n ih =>
    have hnext : operators sub level' (n + 1) lhs ts = some (lhs, ts) →
        operators sub level (n + 1) lhs ts = (operators sub level' (n + 1) lhs ts).bind
          fun p ↦ operators sub level (n + 1) p.1 p.2 := by
      intro h
      rw [h]
      rfl
    rcases hop : operator ts with _ | ⟨op, rest⟩
    · exact hnext (operators_of_stops (stops_of_none hop) n lhs)
    · by_cases hless : op.level < level'
      · refine hnext (operators_of_stops (fun op' rest' hop' ↦ ?_) n lhs)
        cases hop.symm.trans hop'
        exact hless
      · have hrest := length_of_operator hop
        rw [operators_of_le hop (by omega), operators_of_le hop (by omega), Option.bind_assoc]
        refine Option.bind_congr fun p hp ↦ ?_
        have hlt := length_of_operands hsub hp
        rw [ih p.1 (by omega)]
        refine Option.bind_congr fun q hq ↦ ?_
        have hle := length_of_operators hsub hq
        exact operators_fuel hsub q.1 (by omega) (by omega)

theorem expr_bind (hlevel : level ≤ level') (hm : ts.length ≤ m) :
    expr (n + 1) level ts
      = (expr (n + 1) level' ts).bind fun p ↦ operators (expr n) level m p.1 p.2 := by
  have hsub := consumes_expr n
  rw [expr, expr, Option.bind_eq_bind, Option.bind_assoc]
  refine Option.bind_congr fun p hp ↦ ?_
  have hprimary := length_of_primary hsub hp
  refine (operators_bind hsub hlevel p.1 (Nat.lt_succ_self _)).trans ?_
  refine Option.bind_congr fun q hq ↦ ?_
  have hle := length_of_operators hsub hq
  exact operators_fuel hsub q.1 (by omega) (by omega)

end

end Parser

/-! ## Conditions that say the same -/

/-- The conditions name the same columns and say the same of every row. -/
structure Expr.Same (e e' : Expr) : Prop where
  columns : e.columns = e'.columns
  truth : ∀ row, e.truth row = e'.truth row

namespace Expr

variable {e e' : Expr}

theorem Same.refl (e : Expr) : e.Same e := ⟨rfl, fun _ ↦ rfl⟩

theorem Same.or (h : e.Same e') (rhs : Expr) : (Expr.or e rhs).Same (.or e' rhs) where
  columns := by rw [Expr.columns, Expr.columns, h.columns]
  truth row := by rw [Expr.truth, Expr.truth, h.truth]

theorem Same.and (h : e.Same e') (rhs : Expr) : (Expr.and e rhs).Same (.and e' rhs) where
  columns := by rw [Expr.columns, Expr.columns, h.columns]
  truth row := by rw [Expr.truth, Expr.truth, h.truth]

/-- `1 = 1`. -/
def oneIsOne : Expr := .compare .eq (.integer 1) (.integer 1)

theorem same_oneIsOne_and (e : Expr) : e.Same (.and oneIsOne e) where
  columns := rfl
  truth row := by
    have hone : oneIsOne.truth row = some .yes := rfl
    rw [truth, hone]
    rcases e.truth row with _ | _ | _ | _ <;> rfl

end Expr

namespace Parser

/-- Both readings fail, or they leave the same tokens and say the same. -/
def SameReading : Option (Expr × List Token) → Option (Expr × List Token) → Prop :=
  Option.Rel fun p q ↦ p.1.Same q.1 ∧ p.2 = q.2

theorem Stops.mono {level level' : ℕ} {ts : List Token} (h : Stops level ts)
    (hle : level ≤ level') : Stops level' ts :=
  fun op rest hop ↦ (h op rest hop).trans_le hle

/-- Behind operands that say the same, the `AND`s and `OR`s make conditions that say the same. -/
theorem sameReading_operators {k level n : ℕ} {e e' : Expr} (h : e.Same e') {ts : List Token}
    (hstops : Stops 3 ts) :
    SameReading (operators (expr k) level n e ts) (operators (expr k) level n e' ts) := by
  induction n generalizing e e' ts with
  | zero => exact .none
  | succ n ih =>
    rw [operators, operators]
    rcases hop : operator ts with _ | ⟨op, rest⟩
    · exact .some ⟨h, rfl⟩
    · have hlevel := hstops op rest hop
      dsimp only
      split_ifs with hless
      · exact .some ⟨h, rfl⟩
      · cases op with
        | or =>
          rw [operands, operands]
          rcases hrhs : expr k 2 rest with _ | ⟨rhs, ts'⟩
          · exact .none
          · exact ih (h.or rhs) ((stops_of_expr hrhs).mono (by decide))
        | and =>
          rw [operands, operands]
          rcases hrhs : expr k 3 rest with _ | ⟨rhs, ts'⟩
          · exact .none
          · exact ih (h.and rhs) (stops_of_expr hrhs)
        | compare op => cases op <;> exact absurd hlevel (by decide)
        | is | like | between | isIn => exact absurd hlevel (Nat.not_lt.mpr (Nat.le_succ 3))

/-- The tokens of `1 = 1 and`. -/
def oneIsOneAnd : List Token :=
  [.integer 1, .symbol (.compare .eq), .integer 1, .keyword .and]

/-- The tokens of the condition are the second operand of the `AND` as far as they bind tightly
enough. -/
theorem expr_oneIsOneAnd (n : ℕ) (ts : List Token) :
    expr (n + 3) 0 (oneIsOneAnd ++ ts)
      = (expr (n + 2) 3 ts).bind fun p ↦
          operators (expr (n + 2)) 0 (ts.length + 2) (.and .oneIsOne p.1) p.2 := by
  have hone : expr (n + 2) 5 (.integer 1 :: .keyword .and :: ts)
      = some (.integer 1, .keyword .and :: ts) := by
    refine expr_primary rfl fun op rest hop ↦ ?_
    cases hop
    decide
  have hcompare : operators (expr (n + 2)) 0 (ts.length + 4) (.integer 1)
        (.symbol (.compare .eq) :: .integer 1 :: .keyword .and :: ts)
      = operators (expr (n + 2)) 0 (ts.length + 3) .oneIsOne (.keyword .and :: ts) := by
    have hoperands : operands (expr (n + 2)) (.integer 1) (.compare .eq)
        (.integer 1 :: .keyword .and :: ts) = some (.oneIsOne, .keyword .and :: ts) := by
      have hlevel : (Operator.compare .eq).level.succ = 5 := rfl
      rw [operands, hlevel, hone]
      rfl
    rw [operators_of_le rfl (Nat.zero_le _), hoperands, Option.bind_some]
  refine hcompare.trans ?_
  rw [operators_of_le rfl (Nat.zero_le _), operands, Option.bind_eq_bind, Option.bind_assoc]
  rfl

theorem sameReading_oneIsOneAnd (ts : List Token) :
    SameReading (expr (ts.length + 1) 0 ts)
      (expr ((oneIsOneAnd ++ ts).length + 1) 0 (oneIsOneAnd ++ ts)) := by
  have hlength : (oneIsOneAnd ++ ts).length = ts.length + 4 := by
    rw [List.length_append, Nat.add_comm]
    rfl
  have hfront : expr (ts.length + 5) 0 ts
      = (expr (ts.length + 5) 3 ts).bind fun p ↦
          operators (expr (ts.length + 4)) 0 (ts.length + 2) p.1 p.2 :=
    expr_bind (Nat.zero_le _) (by omega)
  have hcondition : expr (ts.length + 1) 0 ts = expr (ts.length + 5) 0 ts :=
    expr_congr (by omega) (by omega)
  have htight : expr (ts.length + 4) 3 ts = expr (ts.length + 5) 3 ts :=
    expr_congr (by omega) (by omega)
  rw [hlength, hcondition, hfront, expr_oneIsOneAnd (ts.length + 2), htight]
  rcases hread : expr (ts.length + 5) 3 ts with _ | ⟨e, rest⟩
  · exact .none
  · exact sameReading_operators (Expr.same_oneIsOne_and e) (stops_of_expr hread)

end Parser

/-- A condition behind `1 = 1 and` says what it says by itself. -/
theorem same_parseTokens (ts : List Token) :
    Option.Rel Expr.Same (parseTokens ts) (parseTokens (Parser.oneIsOneAnd ++ ts)) := by
  have hreading := Parser.sameReading_oneIsOneAnd ts
  rw [parseTokens, parseTokens]
  generalize Parser.expr (ts.length + 1) 0 ts = p at hreading ⊢
  generalize Parser.expr ((Parser.oneIsOneAnd ++ ts).length + 1) 0
    (Parser.oneIsOneAnd ++ ts) = q at hreading ⊢
  cases hreading with
  | none => exact .none
  | @some p q h =>
    obtain ⟨e, rest⟩ := p
    obtain ⟨e', rest'⟩ := q
    obtain ⟨hsame, rfl⟩ := h
    cases rest with
    | nil => exact .some hsame
    | cons t rest => exact .none

theorem Expr.Same.truthIn {e e' : Expr} (h : e.Same e') (env : Environment) :
    e.truthIn env = e'.truthIn env := by
  rw [Expr.truthIn, Expr.truthIn, h.columns, h.truth]

/-! ## Columns that are equal to parameters -/

/-- A column, and the number of the parameter that it is compared with. -/
abbrev Equation := Bytes × ℕ

namespace Equation

def tokens (p : Equation) : List Token :=
  .name p.1 :: .symbol (.compare .eq) :: parameterTokens p.2

def expr (p : Equation) : Expr := .compare .eq (.column none p.1) (parameter p.2)

/-- The equations with `AND` between them. -/
def all (p : Equation) (ps : List Equation) : Expr := ps.foldl (fun e q ↦ .and e q.expr) p.expr

end Equation

theorem intercalate_cons_eq {α : Type} (between item : List α) (items : List (List α)) :
    between.intercalate (item :: items) = item ++ items.flatMap fun item ↦ between ++ item := by
  induction items generalizing item with
  | nil => rw [List.intercalate_singleton, List.flatMap_nil, List.append_nil]
  | cons item' items ih =>
    rw [List.intercalate_cons_cons, ih, List.flatMap_cons, List.append_assoc, List.append_assoc]

namespace Parser

/-- The equation is taken, and the operators behind it. -/
theorem expr_equation {n level : ℕ} (hlevel : level ≤ 4) (p : Equation) {ts : List Token}
    (hstops : Stops 5 ts) :
    ∃ m, ts.length < m ∧
      expr (n + 2) level (p.tokens ++ ts) = operators (expr (n + 1)) level m p.expr ts := by
  have hright : expr (n + 1) 5 (parameterTokens p.2 ++ ts) = some (parameter p.2, ts) :=
    expr_primary rfl hstops
  have hoperands : operands (expr (n + 1)) (.column none p.1) (.compare .eq)
      (parameterTokens p.2 ++ ts) = some (p.expr, ts) := by
    have hlevel : (Operator.compare .eq).level.succ = 5 := rfl
    rw [operands, hlevel, hright]
    rfl
  have hle : level ≤ (Operator.compare .eq).level := hlevel
  refine ⟨(parameterTokens p.2 ++ ts).length + 1, ?_, ?_⟩
  · rw [List.length_append]
    omega
  · change operators (expr (n + 1)) level ((parameterTokens p.2 ++ ts).length + 2)
      (.column none p.1) (.symbol (.compare .eq) :: (parameterTokens p.2 ++ ts)) = _
    rw [operators_of_le rfl hle, hoperands, Option.bind_some]

/-- The equations that follow. -/
def andTokens (ps : List Equation) : List Token :=
  ps.flatMap fun p ↦ [.keyword .and] ++ p.tokens

theorem stops_andTokens (ps : List Equation) : Stops 3 (andTokens ps) := by
  cases ps with
  | nil => exact stops_of_none rfl
  | cons p ps =>
    intro op rest hop
    cases hop
    decide

theorem operators_andTokens {n m : ℕ} (lhs : Expr) {ps : List Equation} (hm : ps.length < m) :
    operators (expr (n + 2)) 0 m lhs (andTokens ps)
      = some (ps.foldl (fun e q ↦ .and e q.expr) lhs, []) := by
  induction ps generalizing m lhs with
  | nil =>
    obtain ⟨m, rfl⟩ : ∃ k, m = k + 1 := ⟨m - 1, by omega⟩
    rfl
  | cons p ps ih =>
    obtain ⟨m, rfl⟩ : ∃ k, m = k + 1 := ⟨m - 1, by omega⟩
    rw [List.length_cons] at hm
    have hstops := stops_andTokens ps
    have htaken : expr (n + 2) 3 (p.tokens ++ andTokens ps) = some (p.expr, andTokens ps) := by
      obtain ⟨k, hk, hexpr⟩ :=
        expr_equation (n := n) (show 3 ≤ 4 by omega) p (hstops.mono (by omega))
      obtain ⟨k, rfl⟩ : ∃ j, k = j + 1 := ⟨k - 1, by omega⟩
      rw [hexpr, operators_of_stops hstops]
    have hop : operator (andTokens (p :: ps)) = some (.and, p.tokens ++ andTokens ps) := rfl
    rw [operators_of_le hop (Nat.zero_le _), operands, htaken]
    exact ih _ (by omega)

end Parser

/-- Equations are read as what they are. -/
theorem parseTokens_equations (p : Equation) (ps : List Equation) :
    parseTokens ([Token.keyword .and].intercalate ((p :: ps).map Equation.tokens))
      = some (p.all ps) := by
  have hlength : ps.length ≤ (Parser.andTokens ps).length := by
    induction ps with
    | nil => exact Nat.zero_le _
    | cons q ps ih =>
      rw [Parser.andTokens] at ih ⊢
      simp only [List.flatMap_cons, List.length_append, List.length_cons]
      omega
  have htokens : [Token.keyword .and].intercalate ((p :: ps).map Equation.tokens)
      = p.tokens ++ Parser.andTokens ps := by
    rw [List.map_cons, intercalate_cons_eq, List.flatMap_map]
    rfl
  have hbound : (p.tokens ++ Parser.andTokens ps).length + 1
      = ((Parser.andTokens ps).length + 3) + 1 + 2 := by
    rw [List.length_append, Nat.add_comm p.tokens.length]
    rfl
  obtain ⟨m, hm, hexpr⟩ := Parser.expr_equation (n := (Parser.andTokens ps).length + 3 + 1)
    (Nat.zero_le 4) p ((Parser.stops_andTokens ps).mono (by omega))
  have hread := Parser.operators_andTokens (n := (Parser.andTokens ps).length + 3) p.expr
    (show ps.length < m by omega)
  rw [htokens, parseTokens, hbound, hexpr, hread]
  rfl

/-! ## Where the equations hold -/

/-- The cells are numbers, or texts. -/
def Alike (v w : Sqlite.Cell) : Prop :=
  (∃ m n, v = .integer m ∧ w = .integer n) ∨ ∃ s t, v = .text s ∧ w = .text t

/-- What stands for the cell in a condition. -/
abbrev datumOf (v : Sqlite.Cell) : Datum := v.datum?.getD .null

theorem Alike.compare {v w : Sqlite.Cell} (h : Alike v w) :
    (datumOf v).compare .eq (datumOf w) = some (.ofBool (v = w)) := by
  obtain ⟨m, n, rfl, rfl⟩ | ⟨s, t, rfl, rfl⟩ := h
  · refine (Datum.compare_eq_integer m n).trans ?_
    simp
  · refine (Datum.compare_eq_text s t).trans ?_
    simp

theorem Alike.isSome {v w : Sqlite.Cell} (h : Alike v w) :
    v.datum?.isSome = true ∧ w.datum?.isSome = true := by
  obtain ⟨m, n, rfl, rfl⟩ | ⟨s, t, rfl, rfl⟩ := h
  · exact ⟨rfl, rfl⟩
  · exact ⟨rfl, rfl⟩

namespace Equation

variable {env : Environment}

def left (env : Environment) (p : Equation) : Sqlite.Cell := env none p.1

def right (env : Environment) (p : Equation) : Sqlite.Cell :=
  env (some parameterTable) (natText p.2)

theorem truth_expr {p : Equation} (h : Alike (p.left env) (p.right env)) :
    p.expr.truth (fun table name ↦ datumOf (env table name))
      = some (.ofBool (p.left env = p.right env)) := h.compare

theorem truth_foldl {e : Expr} {b : Bool}
    (he : e.truth (fun table name ↦ datumOf (env table name)) = some (.ofBool b))
    {ps : List Equation} (h : ∀ p ∈ ps, Alike (p.left env) (p.right env)) :
    (ps.foldl (fun e q ↦ .and e q.expr) e).truth (fun table name ↦ datumOf (env table name))
      = some (.ofBool (b && ps.all fun p ↦ p.left env = p.right env)) := by
  induction ps generalizing e b with
  | nil => rw [List.foldl_nil, List.all_nil, Bool.and_true, he]
  | cons p ps ih =>
    obtain ⟨hp, hps⟩ := List.forall_mem_cons.mp h
    have hand : (Expr.and e p.expr).truth (fun table name ↦ datumOf (env table name))
        = some (.ofBool (b && decide (p.left env = p.right env))) := by
      rw [Expr.truth, he, truth_expr hp]
      cases b <;> cases decide (p.left env = p.right env) <;> rfl
    rw [List.foldl_cons, ih hand hps, List.all_cons, Bool.and_assoc]

theorem columns_foldl (e : Expr) (ps : List Equation) :
    (ps.foldl (fun e q ↦ .and e q.expr) e).columns
      = e.columns ++ ps.flatMap fun p ↦ [(none, p.1), (some parameterTable, natText p.2)] := by
  induction ps generalizing e with
  | nil => exact (List.append_nil _).symm
  | cons p ps ih =>
    rw [List.foldl_cons, ih, List.flatMap_cons, Expr.columns, List.append_assoc]
    rfl

theorem columns_all (p : Equation) (ps : List Equation) :
    (p.all ps).columns
      = (p :: ps).flatMap fun q ↦ [(none, q.1), (some parameterTable, natText q.2)] :=
  columns_foldl p.expr ps

/-- **Equations.** Where numbers are compared with numbers and texts with texts, they all hold if
every column is equal to its parameter. -/
theorem truthIn_all {p : Equation} {ps : List Equation}
    (h : ∀ q ∈ p :: ps, Alike (q.left env) (q.right env)) :
    (p.all ps).truthIn env
      = some (.ofBool ((p :: ps).all fun q ↦ q.left env = q.right env)) := by
  obtain ⟨hp, hps⟩ := List.forall_mem_cons.mp h
  have hsome : ((p.all ps).columns.all fun c ↦ (env c.1 c.2).datum?.isSome) = true := by
    rw [columns_all, List.all_flatMap, List.all_eq_true]
    intro q hq
    obtain ⟨hleft, hright⟩ := (h q hq).isSome
    rw [left] at hleft
    rw [right] at hright
    simp only [List.all_cons, hleft, hright, List.all_nil, Bool.and_self]
  rw [Expr.truthIn, if_pos hsome, List.all_cons]
  exact truth_foldl (truth_expr hp) hps

end Equation

end Sql

end Ormpp
