import Mathlib.Data.List.TakeWhile
import Ormpp.Query.Items
import Ormpp.Sql.Grammar

/-!
# Condition trees read back

The trees whose text SQLite reads back. Their columns are named by words that the grammar leaves for
names, their strings do not contain NUL, where the server would stop reading, and no string that is
compared is the builder's own text for a parameter. Every condition is written between parentheses,
so the precedence of the operators has no say in how the tree is put together again.
-/

namespace Ormpp

open Sql

/-! ## Plain trees -/

/-- An identifier that is read as a name. -/
structure PlainName extends Name where
  starts : (text.head?.map isDigit).getD false = false
  not_keyword : keyword? text = none

structure PlainColumn where
  owner : Option PlainName
  field : PlainName

def PlainColumn.column (c : PlainColumn) : Column where
  owner := c.owner.map PlainName.toName
  field := c.field.toName

/-- A text without NUL. -/
def NulFree (text : Bytes) : Prop := 0 ∉ text

instance (text : Bytes) : Decidable (NulFree text) := inferInstanceAs (Decidable (0 ∉ text))

inductive PlainValue
  | integer (n : ℤ)
  | string (s : Bytes) (h : NulFree s)

def PlainValue.value : PlainValue → Value
  | .integer n => .integer n
  | .string s _ => .string s

/-- A value that can be compared with: every one but the text for a parameter. -/
inductive ComparedValue
  | integer (n : ℤ)
  | string (s : Bytes) (h : NulFree s) (hne : s ≠ placeholderText)

def ComparedValue.plain : ComparedValue → PlainValue
  | .integer n => .integer n
  | .string s h _ => .string s h

inductive PlainTree
  | compare (c : PlainColumn) (op : CompareOp) (v : ComparedValue)
  | isIn (c : PlainColumn) (vs : List PlainValue)
  | notIn (c : PlainColumn) (vs : List PlainValue)
  | null (c : PlainColumn)
  | notNull (c : PlainColumn)
  | between (c : PlainColumn) (lo hi : PlainValue)
  | like (c : PlainColumn) (s : Bytes) (h : NulFree s)
  | or (lhs rhs : PlainTree)
  | and (lhs rhs : PlainTree)

/-- The tree as the builder is given it. -/
def PlainTree.tree : PlainTree → ConditionTree
  | .compare c op v => .compare (.column c.column) op v.plain.value
  | .isIn c vs => .isIn c.column (vs.map PlainValue.value)
  | .notIn c vs => .notIn c.column (vs.map PlainValue.value)
  | .null c => .null c.column
  | .notNull c => .notNull c.column
  | .between c lo hi => .between c.column lo.value hi.value
  | .like c s _ => .like c.column s
  | .or lhs rhs => .or lhs.tree rhs.tree
  | .and lhs rhs => .and lhs.tree rhs.tree

/-! ## The expression of a tree -/

def PlainColumn.expr (c : PlainColumn) : Expr :=
  .column (c.owner.map fun n ↦ n.text) c.field.text

def PlainValue.expr : PlainValue → Expr
  | .integer n => Parser.integerExpr n
  | .string s _ => .text s

def CompareOp.comparison : CompareOp → Comparison
  | .eq => .eq
  | .ge => .ge
  | .le => .le
  | .ne => .ne
  | .gt => .gt
  | .lt => .lt

/-- What stands for a condition on an empty list. -/
def constantExpr (n : ℕ) : Expr := .compare .eq (.integer 1) (.integer n)

def listExpr (negated : Bool) (c : PlainColumn) : List PlainValue → Expr
  | [] => constantExpr (if negated then 1 else 0)
  | v :: vs => .isIn negated c.expr ((v :: vs).map PlainValue.expr)

/-- The expression that a tree stands for. -/
def PlainTree.expr : PlainTree → Expr
  | .compare c op v => .compare op.comparison c.expr v.plain.expr
  | .isIn c vs => listExpr false c vs
  | .notIn c vs => listExpr true c vs
  | .null c => .is false c.expr .null
  | .notNull c => .is true c.expr .null
  | .between c lo hi => .between false c.expr lo.expr hi.expr
  | .like c s _ => .like false c.expr (.text s)
  | .or lhs rhs => .or lhs.expr rhs.expr
  | .and lhs rhs => .and lhs.expr rhs.expr

/-! ## The tokens of a tree -/

section Tokens

def PlainColumn.tokens (c : PlainColumn) : List Token :=
  match c.owner with
  | some n => [.name n.text, .symbol .dot, .name c.field.text]
  | none => [.name c.field.text]

def PlainValue.tokens : PlainValue → List Token
  | .integer n => integerTokens n
  | .string s _ => [.text s]

/-- A list of values with its closing parenthesis. -/
def listTokens (v : PlainValue) : List PlainValue → List Token
  | [] => v.tokens ++ [.symbol .closeParen]
  | w :: vs => v.tokens ++ .symbol .comma :: listTokens w vs

def inTokens (negated : Bool) (c : PlainColumn) : List PlainValue → List Token
  | [] => [.symbol .openParen, .integer 1, .symbol (.compare .eq),
      .integer (if negated then 1 else 0), .symbol .closeParen]
  | v :: vs => .symbol .openParen :: c.tokens ++ (if negated then [.keyword .not] else []) ++
      [.keyword .inList, .symbol .openParen] ++ listTokens v vs ++ [.symbol .closeParen]

def PlainTree.tokens : PlainTree → List Token
  | .compare c op v => .symbol .openParen :: c.tokens ++ [.symbol (.compare op.comparison)] ++
      v.plain.tokens ++ [.symbol .closeParen]
  | .isIn c vs => inTokens false c vs
  | .notIn c vs => inTokens true c vs
  | .null c => .symbol .openParen :: c.tokens ++ [.keyword .is, .keyword .null, .symbol .closeParen]
  | .notNull c => .symbol .openParen :: c.tokens ++
      [.keyword .is, .keyword .not, .keyword .null, .symbol .closeParen]
  | .between c lo hi => .symbol .openParen :: c.tokens ++ [.keyword .between] ++ lo.tokens ++
      [.keyword .and] ++ hi.tokens ++ [.symbol .closeParen]
  | .like c s _ => .symbol .openParen :: c.tokens ++ [.keyword .like, .text s, .symbol .closeParen]
  | .or lhs rhs => .symbol .openParen :: lhs.tokens ++ .keyword .or :: rhs.tokens ++
      [.symbol .closeParen]
  | .and lhs rhs => .symbol .openParen :: lhs.tokens ++ .keyword .and :: rhs.tokens ++
      [.symbol .closeParen]

theorem PlainName.wordToken (n : PlainName) : Sql.wordToken n.text = .name n.text := by
  have hdigits : n.text.all isDigit = false := by
    obtain ⟨b, bs, heq⟩ := List.exists_cons_of_ne_nil n.text_ne_nil
    have hb := n.starts
    rw [heq] at hb ⊢
    rw [List.all_cons, show isDigit b = false from hb, Bool.false_and]
  rw [Sql.wordToken, hdigits, n.starts, n.not_keyword]
  rfl

theorem PlainName.tokens_text (n : PlainName) {rest : List Lexeme} (hrest : EndsWord rest) :
    tokens (n.text.map .code ++ rest) = .name n.text :: tokens rest := by
  rw [tokens_word n.text_ne_nil (fun b hb ↦ isWordByte_of_isNameByte (n.plain b hb)) hrest,
    n.wordToken]

theorem PlainColumn.tokens_text (c : PlainColumn) {rest : List Lexeme} (hrest : EndsWord rest) :
    Sql.tokens (c.column.text.map .code ++ rest) = c.tokens ++ Sql.tokens rest := by
  obtain ⟨owner, field⟩ := c
  cases owner with
  | none => exact field.tokens_text hrest
  | some n =>
    have hdot : Sql.tokens ((ascii ".").map .code ++ (field.text.map .code ++ rest))
        = .symbol .dot :: Sql.tokens (field.text.map .code ++ rest) :=
      tokens_append (ascii ".") [_] _ rfl
    have htext : (PlainColumn.mk (some n) field).column.text
        = n.text ++ (ascii "." ++ field.text) := by
      simp [column, Column.text, Column.className, qualifiedFieldName, n.text_ne_nil]
    rw [htext, List.map_append, List.map_append, List.append_assoc, List.append_assoc,
      n.tokens_text, hdot, field.tokens_text hrest]
    · rfl
    · exact endsWord_text rfl

theorem PlainValue.tokens_item (v : PlainValue) {rest : List Lexeme} (hrest : EndsWord rest) :
    Sql.tokens (v.value.item.lexemes ++ rest) = v.tokens ++ Sql.tokens rest := by
  cases v with
  | integer n => exact tokens_intText n hrest
  | string s h => rfl

theorem ComparedValue.tokens_item (v : ComparedValue) {rest : List Lexeme} (hrest : EndsWord rest) :
    Sql.tokens (v.plain.value.comparedItem.lexemes ++ rest)
      = v.plain.tokens ++ Sql.tokens rest := by
  cases v with
  | integer n => exact tokens_intText n hrest
  | string s h hne =>
    have hlexemes : (Item.compared s).lexemes = [.literal s] := by
      rw [Item.lexemes, Item.written, if_neg hne, Piece.lexemes]
    exact congrArg (fun lexemes ↦ Sql.tokens (lexemes ++ rest)) hlexemes

/-- A value is no part of a symbol in front of it. -/
theorem ComparedValue.endsSymbol_item (v : ComparedValue) (rest : List Lexeme) :
    EndsSymbol (v.plain.value.comparedItem.lexemes ++ rest) := by
  have hdigits (n : ℕ) : EndsSymbol ((natText n).map .code ++ rest) := by
    obtain ⟨b, bs, heq⟩ := List.exists_cons_of_ne_nil (natText_ne_nil n)
    have hb : isDigit b = true := isDigit_of_mem_natText (heq ▸ List.mem_cons_self)
    rw [heq]
    rintro c hc
    cases hc
    constructor <;>
    · rintro rfl
      exact absurd hb (by decide)
  cases v with
  | integer n =>
    cases n with
    | ofNat n => exact hdigits n
    | negSucc n =>
      rintro b hb
      cases hb
      decide
  | string s h hne =>
    have hlexemes : (Item.compared s).lexemes = [.literal s] := by
      rw [Item.lexemes, Item.written, if_neg hne, Piece.lexemes]
    rintro b hb
    rw [plain, PlainValue.value, Value.comparedItem, hlexemes] at hb
    cases hb

theorem CompareOp.tokens_text (op : CompareOp) {rest : List Lexeme} (hrest : EndsSymbol rest) :
    tokens (op.text.map .code ++ rest) = .symbol (.compare op.comparison) :: tokens rest := by
  cases op with
  | eq | gt | lt => exact tokens_held rfl rfl rfl hrest
  | ge | le | ne => rfl

theorem CompareOp.endsWord (op : CompareOp) (rest : List Lexeme) :
    EndsWord (op.text.map .code ++ rest) := by
  cases op <;> exact endsWord_text rfl

theorem tokens_valueItems (v : PlainValue) (vs : List PlainValue) (rest : List Lexeme) :
    tokens ((valueItems v.value (vs.map PlainValue.value)).flatMap Item.lexemes ++
        ((ascii "))").map .code ++ rest))
      = listTokens v vs ++ .symbol .closeParen :: tokens rest := by
  have hclose : tokens ((ascii "))").map .code ++ rest)
      = .symbol .closeParen :: .symbol .closeParen :: tokens rest :=
    tokens_append (ascii "))") [_, _] rest rfl
  have hcomma (rest : List Lexeme) :
      tokens ((ascii ",").map .code ++ rest) = .symbol .comma :: tokens rest :=
    tokens_append (ascii ",") [_] rest rfl
  induction vs generalizing v with
  | nil =>
    rw [List.map_nil, valueItems, List.flatMap_nil, List.flatMap_singleton,
      v.tokens_item (endsWord_text rfl), hclose, listTokens, List.append_assoc]
    rfl
  | cons w vs ih =>
    have hitems : (valueItems v.value ((w :: vs).map PlainValue.value)).flatMap Item.lexemes
        = v.value.item.lexemes ++ ((ascii ",").map .code ++
          (valueItems w.value (vs.map PlainValue.value)).flatMap Item.lexemes) := rfl
    rw [hitems, List.append_assoc, List.append_assoc, v.tokens_item (endsWord_text rfl), hcomma,
      ih w, listTokens, List.append_assoc]
    rfl

theorem tokens_open (rest : List Lexeme) :
    tokens ((ascii "(").map .code ++ rest) = .symbol .openParen :: tokens rest :=
  tokens_append (ascii "(") [_] rest rfl

theorem tokens_close (rest : List Lexeme) :
    tokens ((ascii ")").map .code ++ rest) = .symbol .closeParen :: tokens rest :=
  tokens_append (ascii ")") [_] rest rfl

/-- A column behind the parenthesis that opens its condition. -/
theorem PlainColumn.tokens_opened (c : PlainColumn) {word : Bytes} {ts : List Token}
    (hstart : word.head?.map isWordByte = some false)
    (hword : tokenizer.run .idle (word.map .code) = (.idle, ts)) (rest : List Lexeme) :
    Sql.tokens ((ascii "(" ++ c.column.text ++ word).map .code ++ rest)
      = .symbol .openParen :: c.tokens ++ ts ++ Sql.tokens rest := by
  rw [List.map_append, List.map_append, List.append_assoc, List.append_assoc, tokens_open,
    c.tokens_text (endsWord_text hstart), tokens_append word ts rest hword]
  simp

theorem tokens_listItems (negated : Bool) (c : PlainColumn) {word constant : Bytes}
    (hstart : word.head?.map isWordByte = some false)
    (hword : tokenizer.run .idle (word.map .code)
      = (.idle,
        (if negated then [.keyword .not] else []) ++ [.keyword .inList, .symbol .openParen]))
    (hconstant : tokenizer.run .idle (constant.map .code) = (.idle, inTokens negated c []))
    (vs : List PlainValue) (rest : List Lexeme) :
    tokens ((ConditionTree.listItems c.column word constant (vs.map PlainValue.value)).flatMap
        Item.lexemes ++ rest)
      = inTokens negated c vs ++ tokens rest := by
  cases vs with
  | nil =>
    have hitems : (ConditionTree.listItems c.column word constant []).flatMap Item.lexemes
        = constant.map .code := List.append_nil _
    rw [List.map_nil, hitems, tokens_append constant _ rest hconstant]
  | cons v vs =>
    have hitems : (ConditionTree.listItems c.column word constant
          ((v :: vs).map PlainValue.value)).flatMap Item.lexemes
        = (ascii "(" ++ c.column.text ++ word).map .code ++
          ((valueItems v.value (vs.map PlainValue.value)).flatMap Item.lexemes ++
            (ascii "))").map .code) := by
      rw [List.map_cons, ConditionTree.listItems, List.flatMap_cons, List.flatMap_append,
        List.flatMap_singleton]
      rfl
    rw [hitems, List.append_assoc _ _ rest, c.tokens_opened hstart hword,
      List.append_assoc _ _ rest, tokens_valueItems, inTokens]
    simp

/-- Two conditions with a word between them, in parentheses. -/
theorem tokens_joined {l r : List Lexeme} {ls rs : List Token} {word : Bytes} {k : Keyword}
    (hl : ∀ rest, Sql.tokens (l ++ rest) = ls ++ Sql.tokens rest)
    (hr : ∀ rest, Sql.tokens (r ++ rest) = rs ++ Sql.tokens rest)
    (hword : ∀ rest, Sql.tokens (word.map .code ++ rest) = .keyword k :: Sql.tokens rest)
    (rest : List Lexeme) :
    Sql.tokens ((ascii "(").map .code ++ (l ++ (word.map .code ++ (r ++ (ascii ")").map .code)))
        ++ rest)
      = .symbol .openParen :: ls ++ .keyword k :: rs ++ [.symbol .closeParen] ++
        Sql.tokens rest := by
  simp only [List.append_assoc]
  rw [tokens_open, hl, hword, hr, tokens_close]
  simp

/-- The tokens of a condition, whatever follows it. -/
theorem PlainTree.tokens_items (t : PlainTree) (rest : List Lexeme) :
    Sql.tokens (t.tree.items.flatMap Item.lexemes ++ rest) = t.tokens ++ Sql.tokens rest := by
  have hor (rest : List Lexeme) :
      Sql.tokens ((ascii " OR ").map .code ++ rest) = .keyword .or :: Sql.tokens rest :=
    tokens_append (ascii " OR ") [_] rest rfl
  have hand (rest : List Lexeme) :
      Sql.tokens ((ascii " AND ").map .code ++ rest) = .keyword .and :: Sql.tokens rest :=
    tokens_append (ascii " AND ") [_] rest rfl
  have hbetween (rest : List Lexeme) :
      Sql.tokens ((ascii " and ").map .code ++ rest) = .keyword .and :: Sql.tokens rest :=
    tokens_append (ascii " and ") [_] rest rfl
  induction t generalizing rest with
  | compare c op v =>
    have hitems : (compare c op v).tree.items.flatMap Item.lexemes
        = (ascii "(" ++ c.column.text ++ op.text).map .code ++
          (v.plain.value.comparedItem.lexemes ++ (ascii ")").map .code) := rfl
    rw [hitems, List.map_append, List.map_append, List.append_assoc, List.append_assoc,
      List.append_assoc, List.append_assoc, tokens_open, c.tokens_text (op.endsWord _),
      op.tokens_text (v.endsSymbol_item _), v.tokens_item (endsWord_text rfl), tokens_close]
    simp [tokens]
  | isIn c vs => exact tokens_listItems false c rfl rfl rfl vs rest
  | notIn c vs => exact tokens_listItems true c rfl rfl rfl vs rest
  | null c =>
    have hitems : (null c).tree.items.flatMap Item.lexemes
        = (ascii "(" ++ c.column.text ++ ascii " IS NULL)").map .code := List.append_nil _
    have hword : tokenizer.run .idle ((ascii " IS NULL)").map .code)
        = (.idle, [.keyword .is, .keyword .null, .symbol .closeParen]) := rfl
    rw [hitems, c.tokens_opened rfl hword]
    rfl
  | notNull c =>
    have hitems : (notNull c).tree.items.flatMap Item.lexemes
        = (ascii "(" ++ c.column.text ++ ascii " IS NOT NULL)").map .code := List.append_nil _
    have hword : tokenizer.run .idle ((ascii " IS NOT NULL)").map .code)
        = (.idle, [.keyword .is, .keyword .not, .keyword .null, .symbol .closeParen]) := rfl
    rw [hitems, c.tokens_opened rfl hword]
    rfl
  | between c lo hi =>
    have hitems : (between c lo hi).tree.items.flatMap Item.lexemes
        = (ascii "(" ++ c.column.text ++ ascii " between ").map .code ++
          (lo.value.item.lexemes ++ ((ascii " and ").map .code ++
            (hi.value.item.lexemes ++ (ascii ")").map .code))) := rfl
    have hword : tokenizer.run .idle ((ascii " between ").map .code)
        = (.idle, [.keyword .between]) := rfl
    rw [hitems, List.append_assoc _ _ rest, c.tokens_opened rfl hword, List.append_assoc _ _ rest,
      List.append_assoc _ _ rest, lo.tokens_item (endsWord_text rfl), hbetween,
      List.append_assoc _ _ rest, hi.tokens_item (endsWord_text rfl), tokens_close]
    simp [tokens]
  | like c s h =>
    have hitems : (like c s h).tree.items.flatMap Item.lexemes
        = (ascii "(" ++ c.column.text ++ ascii " like ").map .code ++
          ([.literal s] ++ (ascii ")").map .code) := rfl
    have hword : tokenizer.run .idle ((ascii " like ").map .code) = (.idle, [.keyword .like]) := rfl
    rw [hitems, List.append_assoc _ _ rest, c.tokens_opened rfl hword, List.append_assoc _ _ rest,
      List.singleton_append, tokens_literal, tokens_close]
    simp [tokens]
  | or lhs rhs ihl ihr =>
    have hitems : (or lhs rhs).tree.items.flatMap Item.lexemes
        = (ascii "(").map .code ++ (lhs.tree.items.flatMap Item.lexemes ++
          ((ascii " OR ").map .code ++
            (rhs.tree.items.flatMap Item.lexemes ++ (ascii ")").map .code))) := by
      simp [tree, ConditionTree.items, Item.lexemes, Item.written, Piece.lexemes]
    rw [hitems]
    exact tokens_joined ihl ihr hor rest
  | and lhs rhs ihl ihr =>
    have hitems : (and lhs rhs).tree.items.flatMap Item.lexemes
        = (ascii "(").map .code ++ (lhs.tree.items.flatMap Item.lexemes ++
          ((ascii " AND ").map .code ++
            (rhs.tree.items.flatMap Item.lexemes ++ (ascii ")").map .code))) := by
      simp [tree, ConditionTree.items, Item.lexemes, Item.written, Piece.lexemes]
    rw [hitems]
    exact tokens_joined ihl ihr hand rest

end Tokens

/-! ## Reading the tokens -/

section Reading

open Parser

theorem PlainColumn.primary_tokens (c : PlainColumn) (sub : ℕ → Reader Expr) {t : Token}
    (ht : t ≠ .symbol .dot) (ts : List Token) :
    primary sub (c.tokens ++ t :: ts) = some (c.expr, t :: ts) := by
  obtain ⟨owner, field⟩ := c
  cases owner with
  | some n => rfl
  | none =>
    -- a dot behind the name would make it the name of a table
    change primary sub (.name field.text :: t :: ts) = _
    rw [primary]
    · rfl
    · rintro column ts' h
      exact ht (List.cons.inj h).1

theorem PlainValue.expr_tokens (v : PlainValue) (m : ℕ) {level : ℕ} {rest : List Token}
    (hrest : Stops level rest) :
    Parser.expr (m + 2) level (v.tokens ++ rest) = some (v.expr, rest) := by
  refine expr_primary ?_ hrest
  cases v with
  | integer n => exact primary_integerTokens m n rest
  | string s h => rfl

theorem list_listTokens (m : ℕ) (v : PlainValue) (vs : List PlainValue) (rest : List Token) (n : ℕ)
    (hn : vs.length < n) :
    Parser.list (Parser.expr (m + 2)) n (listTokens v vs ++ rest)
      = some ((v :: vs).map PlainValue.expr, rest) := by
  obtain ⟨n, rfl⟩ : ∃ k, n = k + 1 := ⟨n - 1, by omega⟩
  induction vs generalizing v n with
  | nil =>
    rw [listTokens, List.append_assoc, Parser.list, v.expr_tokens m (stops_of_none rfl)]
    rfl
  | cons w vs ih =>
    rw [List.length_cons] at hn
    obtain ⟨n, rfl⟩ : ∃ k, n = k + 1 := ⟨n - 1, by omega⟩
    rw [listTokens, List.append_assoc, Parser.list, List.cons_append,
      v.expr_tokens m (stops_of_none rfl)]
    simp only [Option.bind_eq_bind, Option.bind_some, ih w n (by omega), List.map_cons]

theorem length_lt_listTokens (v : PlainValue) (vs : List PlainValue) :
    vs.length < (listTokens v vs).length := by
  induction vs generalizing v with
  | nil => simp [listTokens]
  | cons w vs ih =>
    have hw := ih w
    rw [listTokens, List.length_append, List.length_cons, List.length_cons]
    omega

theorem parenthesized_listTokens (m : ℕ) (v : PlainValue) (vs : List PlainValue)
    (rest : List Token) :
    parenthesized (Parser.expr (m + 2)) (.symbol .openParen :: (listTokens v vs ++ rest))
      = some ((v :: vs).map PlainValue.expr, rest) := by
  have hlist := list_listTokens m v vs rest (listTokens v vs ++ rest).length <| by
    rw [List.length_append]
    exact Nat.lt_add_right _ (length_lt_listTokens v vs)
  obtain ⟨t, ts, heq, ht⟩ : ∃ t ts, listTokens v vs = t :: ts ∧ t ≠ .symbol .closeParen := by
    cases vs <;> obtain (n | n) | s := v <;> exact ⟨_, _, rfl, by simp⟩
  rw [heq, List.cons_append] at hlist ⊢
  rw [parenthesized, expect_self, Option.bind_eq_bind, Option.bind_some, ← hlist]
  split
  · rename_i h
    exact absurd (List.cons.inj h).1 ht
  · rfl

theorem primary_inTokens (negated : Bool) (m : ℕ) (c : PlainColumn) (vs : List PlainValue)
    (rest : List Token) :
    primary (Parser.expr (m + 3)) (inTokens negated c vs ++ rest)
      = some (listExpr negated c vs, rest) := by
  cases vs with
  | nil =>
    have hop : operator (.symbol (.compare .eq) :: .integer (if negated then 1 else 0) ::
        .symbol .closeParen :: rest)
        = some (.compare .eq, .integer (if negated then 1 else 0) :: .symbol .closeParen :: rest) :=
    rfl
    exact primary_operator rfl hop rfl
  | cons v vs =>
    have htokens : inTokens negated c (v :: vs) ++ rest
        = .symbol .openParen :: (c.tokens ++ ((if negated then [.keyword .not] else []) ++
          .keyword .inList :: .symbol .openParen ::
            (listTokens v vs ++ .symbol .closeParen :: rest))) := by
      simp [inTokens]
    have hlist := parenthesized_listTokens m v vs (.symbol .closeParen :: rest)
    have hoperands : operands (Parser.expr (m + 2)) c.expr (.isIn negated)
          (.symbol .openParen :: (listTokens v vs ++ .symbol .closeParen :: rest))
        = some (listExpr negated c (v :: vs), .symbol .closeParen :: rest) := by
      rw [operands, hlist]
      rfl
    rw [htokens]
    cases negated with
    | false => exact primary_operator (c.primary_tokens _ (by decide) _) rfl hoperands
    | true => exact primary_operator (c.primary_tokens _ (by decide) _) rfl hoperands

theorem three_le_inTokens (negated : Bool) (c : PlainColumn) (vs : List PlainValue) :
    3 ≤ (inTokens negated c vs).length := by
  cases vs with
  | nil => simp [inTokens]
  | cons v vs => simp [inTokens]; omega

/-- A condition is read as one operand. The nesting that has to be allowed for is at most the number
of tokens. -/
theorem PlainTree.primary_tokens (t : PlainTree) (n : ℕ) (hn : t.tokens.length ≤ n)
    (rest : List Token) :
    primary (Parser.expr n) (t.tokens ++ rest) = some (t.expr, rest) := by
  have hclose (level : ℕ) (rest : List Token) : Stops level (.symbol .closeParen :: rest) :=
    stops_of_none rfl
  have hdepth {ts : List Token} {k : ℕ} (hts : 3 ≤ ts.length) (hk : ts.length ≤ k) :
      ∃ m, k = m + 3 := ⟨k - 3, by omega⟩
  induction t generalizing n rest with
  | compare c op v =>
    obtain ⟨m, rfl⟩ := hdepth (by simp [tokens]; omega) hn
    have hoperands : operands (Parser.expr (m + 2)) c.expr (.compare op.comparison)
          (v.plain.tokens ++ .symbol .closeParen :: rest)
        = some ((compare c op v).expr, .symbol .closeParen :: rest) := by
      rw [operands, v.plain.expr_tokens m (hclose _ rest)]
      rfl
    simp only [tokens, List.cons_append, List.append_assoc, List.nil_append]
    exact primary_operator (c.primary_tokens _ (by simp) _) rfl hoperands
  | isIn c vs =>
    obtain ⟨m, rfl⟩ := hdepth (three_le_inTokens false c vs) hn
    exact primary_inTokens false m c vs rest
  | notIn c vs =>
    obtain ⟨m, rfl⟩ := hdepth (three_le_inTokens true c vs) hn
    exact primary_inTokens true m c vs rest
  | null c =>
    obtain ⟨m, rfl⟩ := hdepth (by simp [tokens]) hn
    simp only [tokens, List.cons_append, List.append_assoc, List.nil_append]
    exact primary_operator (c.primary_tokens _ (by simp) _) rfl rfl
  | notNull c =>
    obtain ⟨m, rfl⟩ := hdepth (by simp [tokens]) hn
    simp only [tokens, List.cons_append, List.append_assoc, List.nil_append]
    exact primary_operator (c.primary_tokens _ (by simp) _) rfl rfl
  | between c lo hi =>
    obtain ⟨m, rfl⟩ := hdepth (by simp [tokens]; omega) hn
    have hoperands : operands (Parser.expr (m + 2)) c.expr (.between false)
          (lo.tokens ++ .keyword .and :: (hi.tokens ++ .symbol .closeParen :: rest))
        = some ((between c lo hi).expr, .symbol .closeParen :: rest) := by
      -- the `AND` binds too weakly to be taken for an operator behind the lower bound
      have hand : Stops 5 (.keyword .and :: (hi.tokens ++ .symbol .closeParen :: rest)) := by
        intro op rest' hop
        cases hop
        decide
      rw [operands, lo.expr_tokens m hand]
      simp only [Option.bind_eq_bind, Option.bind_some, expect_self,
        hi.expr_tokens m (hclose 5 rest)]
      rfl
    simp only [tokens, List.cons_append, List.append_assoc, List.nil_append]
    exact primary_operator (c.primary_tokens _ (by simp) _) rfl hoperands
  | like c s h =>
    obtain ⟨m, rfl⟩ := hdepth (by simp [tokens]) hn
    simp only [tokens, List.cons_append, List.append_assoc, List.nil_append]
    exact primary_operator (c.primary_tokens _ (by simp) _) rfl rfl
  | or lhs rhs ihl ihr =>
    simp only [tokens, List.length_cons, List.length_append, List.length_nil] at hn
    obtain ⟨m, rfl⟩ : ∃ m, n = m + 2 := ⟨n - 2, by omega⟩
    have hoperands : operands (Parser.expr (m + 1)) lhs.expr .or
          (rhs.tokens ++ .symbol .closeParen :: rest)
        = some ((or lhs rhs).expr, .symbol .closeParen :: rest) := by
      rw [operands, expr_primary (ihr m (by omega) _) (hclose 2 rest)]
      rfl
    simp only [tokens, List.cons_append, List.append_assoc, List.nil_append]
    exact primary_operator (ihl (m + 1) (by omega) _) rfl hoperands
  | and lhs rhs ihl ihr =>
    simp only [tokens, List.length_cons, List.length_append, List.length_nil] at hn
    obtain ⟨m, rfl⟩ : ∃ m, n = m + 2 := ⟨n - 2, by omega⟩
    have hoperands : operands (Parser.expr (m + 1)) lhs.expr .and
          (rhs.tokens ++ .symbol .closeParen :: rest)
        = some ((and lhs rhs).expr, .symbol .closeParen :: rest) := by
      rw [operands, expr_primary (ihr m (by omega) _) (hclose 3 rest)]
      rfl
    simp only [tokens, List.cons_append, List.append_assoc, List.nil_append]
    exact primary_operator (ihl (m + 1) (by omega) _) rfl hoperands

end Reading

/-! ## A condition contains no NUL -/

theorem nulFree_append {xs ys : Bytes} : NulFree (xs ++ ys) ↔ NulFree xs ∧ NulFree ys := by
  rw [NulFree, List.mem_append, not_or]
  rfl

theorem NulFree.append {xs ys : Bytes} (hx : NulFree xs) (hy : NulFree ys) : NulFree (xs ++ ys) :=
  nulFree_append.mpr ⟨hx, hy⟩

theorem Name.nulFree (n : Name) : NulFree n.text := by
  intro hmem
  exact absurd (n.plain 0 hmem) (by decide)

theorem Column.nulFree (c : Column) : NulFree c.text := by
  have hclass : NulFree c.className := by
    rw [className]
    cases c.owner with
    | none => exact List.not_mem_nil
    | some n => exact n.nulFree
  rw [text, qualifiedFieldName]
  split_ifs
  · exact (hclass.append (by decide)).append c.field.nulFree
  · exact c.field.nulFree

theorem nulFree_natText (n : ℕ) : NulFree (natText n) := by
  intro hmem
  exact absurd (isDigit_of_mem_natText hmem) (by decide)

theorem nulFree_formatString {s : Bytes} (h : NulFree s) : NulFree (formatString s) := by
  have hescaped : NulFree (escapeSqlString s) := by
    intro hmem
    obtain ⟨b, hb, hzero⟩ := List.mem_flatMap.mp hmem
    split_ifs at hzero with hquote
    · exact absurd hzero (by decide)
    · rw [← List.mem_singleton.mp hzero] at hb
      exact h hb
  exact (NulFree.append (by decide) hescaped).append (by decide)

theorem PlainValue.nulFree (v : PlainValue) : NulFree v.value.toText := by
  cases v with
  | integer n =>
    cases n with
    | ofNat n => exact nulFree_natText n
    | negSucc n => exact List.not_mem_cons_of_ne_of_not_mem (by decide) (nulFree_natText (n + 1))
  | string s h => exact nulFree_formatString h

theorem ComparedValue.text_comparedItem (v : ComparedValue) :
    v.plain.value.comparedItem.text = v.plain.value.toText := by
  cases v with
  | integer n => rfl
  | string s h hne => exact (Item.text_compared s).trans (if_neg hne)

theorem nulFree_listItems (c : Column) {word constant : Bytes} (hword : NulFree word)
    (hconstant : NulFree constant) (vs : List PlainValue) :
    NulFree ((ConditionTree.listItems c word constant (vs.map PlainValue.value)).flatMap
      Item.text) := by
  have hmore (vs : List PlainValue) : NulFree
      (((vs.map PlainValue.value).flatMap fun v ↦ [Item.code (ascii ","), v.item]).flatMap
        Item.text) := by
    induction vs with
    | nil => exact List.not_mem_nil
    | cons v vs ih =>
      rw [List.map_cons, List.flatMap_cons, List.flatMap_append]
      refine NulFree.append ?_ ih
      simp [nulFree_append, v.nulFree]
      decide
  cases vs with
  | nil => simpa [ConditionTree.listItems] using hconstant
  | cons v vs =>
    rw [List.map_cons, ConditionTree.listItems, valueItems]
    simp only [List.flatMap_cons, List.flatMap_append, List.flatMap_nil, List.append_nil,
      List.cons_append, nulFree_append, Item.text_code, Value.text_item]
    exact ⟨⟨⟨by decide, c.nulFree⟩, hword⟩, v.nulFree, hmore vs, by decide⟩

theorem PlainTree.nulFree_toSql (t : PlainTree) : NulFree t.tree.build.toSql := by
  have hopened (c : PlainColumn) {word : Bytes} (hword : NulFree word) :
      NulFree (ascii "(" ++ c.column.text ++ word) :=
    (NulFree.append (by decide) c.column.nulFree).append hword
  have hjoined {lhs rhs word : Bytes} (hlhs : NulFree lhs) (hword : NulFree word)
      (hrhs : NulFree rhs) : NulFree (ascii "(" ++ lhs ++ word ++ rhs ++ ascii ")") :=
    ((((NulFree.append (by decide) hlhs).append hword).append hrhs).append (by decide))
  induction t with
  | compare c op v =>
    have hop : NulFree op.text := by cases op <;> decide
    rw [ConditionTree.toSql_build]
    simp only [tree, ConditionTree.items, List.flatMap_cons, List.flatMap_nil, List.append_nil,
      Item.text_code, v.text_comparedItem]
    exact (hopened c hop).append (v.plain.nulFree.append (by decide))
  | isIn c vs =>
    rw [ConditionTree.toSql_build]
    exact nulFree_listItems c.column (by decide) (by decide) vs
  | notIn c vs =>
    rw [ConditionTree.toSql_build]
    exact nulFree_listItems c.column (by decide) (by decide) vs
  | null c =>
    rw [ConditionTree.toSql_build]
    exact (hopened c (by decide)).append List.not_mem_nil
  | notNull c =>
    rw [ConditionTree.toSql_build]
    exact (hopened c (by decide)).append List.not_mem_nil
  | between c lo hi =>
    have hleft : NulFree (c.column.text ++ ascii " between " ++ lo.value.toText) :=
      (c.column.nulFree.append (by decide)).append lo.nulFree
    have hand : NulFree (ascii " and ") := by decide
    exact hjoined hleft hand hi.nulFree
  | like c s h =>
    have hlike : NulFree (ascii " like ") := by decide
    exact hjoined c.column.nulFree hlike (nulFree_formatString h)
  | or lhs rhs ihl ihr =>
    have hor : NulFree (ascii " OR ") := by decide
    exact hjoined ihl hor ihr
  | and lhs rhs ihl ihr =>
    have hand : NulFree (ascii " AND ") := by decide
    exact hjoined ihl hand ihr

/-! ## Fidelity -/

theorem cString_of_nulFree {text : Bytes} (h : NulFree text) : cString text = text := by
  refine List.takeWhile_eq_self_iff.mpr fun b hb ↦ bne_iff_ne.mpr ?_
  rintro rfl
  exact h hb

theorem PlainTree.parseTokens_tokens (t : PlainTree) : parseTokens t.tokens = some t.expr := by
  have hprimary := t.primary_tokens t.tokens.length le_rfl []
  rw [List.append_nil] at hprimary
  rw [parseTokens, Parser.expr_primary hprimary (Parser.stops_of_none rfl)]

theorem PlainTree.parse_items (t : PlainTree) :
    parse (t.tree.items.flatMap Item.text) = some t.expr := by
  have hspaced : Item.Spaced t.tree.items := by
    have hitems := t.tree.spaced_items (show Item.Spaced [] from trivial)
    rwa [List.append_nil] at hitems
  have htokens := t.tokens_items []
  rw [List.append_nil, tokens_nil, List.append_nil] at htokens
  have hnul : NulFree (t.tree.items.flatMap Item.text) := by
    rw [← ConditionTree.toSql_build]
    exact t.nulFree_toSql
  rw [parse, cString_of_nulFree hnul, Item.lex_standard hspaced, htokens, t.parseTokens_tokens]

/-- **Condition trees read back.** The text of a tree is read as the expression that the tree stands
for: the same operators over the same columns and values. -/
theorem PlainTree.parse_toSql (t : PlainTree) : parse t.tree.build.toSql = some t.expr := by
  rw [ConditionTree.toSql_build, t.parse_items]

end Ormpp
