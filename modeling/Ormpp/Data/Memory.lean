import Mathlib.Data.List.GetD
import Ormpp.Data.Decoder
import Ormpp.Data.Effect

/-!
# Cursors over memory

A reader that walks over a sequence in memory finds something at every address that it comes to, in
the sequence or behind it. Its cursor therefore keeps an account: the offsets that have been read,
and the values that it has had.

`Follows x d` says that such a reader does what the decoder `d` does with the unread suffix, and
that it stays within the sequence: it reads nothing behind it, and the cursor neither passes the end
nor moves back. The rules build this up along the sequence of reads.
-/

namespace Ormpp

/-- A sequence in memory, with what lies behind it. -/
structure Memory (τ : Type) where
  content : List τ
  beyond : ℕ → τ

/-- What is found at an offset. -/
def Memory.load {τ : Type} (m : Memory τ) (i : ℕ) : τ := m.content.getD i (m.beyond i)

theorem Memory.load_of_lt {τ : Type} {m : Memory τ} {i : ℕ} (h : i < m.content.length) :
    m.load i = m.content[i] := List.getD_eq_getElem _ _ h

structure Cursor where
  cur : ℕ := 0
  /-- The offsets that have been read. -/
  reads : List ℕ := []
  /-- The values that the cursor has been given. -/
  visited : List ℕ := []

/-- A reader that moves a cursor. -/
abbrev CursorReader (ε α : Type) := EStateM ε Cursor α

namespace Cursor

variable {τ : Type}

/-- Nothing behind the sequence has been read, and the cursor has not passed the end. -/
structure Within (m : Memory τ) (c : Cursor) : Prop where
  cur : c.cur ≤ m.content.length
  reads : ∀ i ∈ c.reads, i < m.content.length
  visited : ∀ i ∈ c.visited, i ≤ m.content.length

/-- The cursor has gone on within the sequence, or stayed where it was. -/
structure Reaches (m : Memory τ) (c c' : Cursor) : Prop where
  within : c'.Within m
  le : c.cur ≤ c'.cur

theorem within_start (m : Memory τ) : ({} : Cursor).Within m :=
  ⟨Nat.zero_le _, nofun, nofun⟩

theorem Within.reaches {m : Memory τ} {c : Cursor} (h : c.Within m) : c.Reaches m c :=
  ⟨h, Nat.le_refl _⟩

theorem Reaches.trans {m : Memory τ} {c c' c'' : Cursor} (h : c.Reaches m c')
    (h' : c'.Reaches m c'') : c.Reaches m c'' :=
  ⟨h'.within, h.le.trans h'.le⟩

end Cursor

namespace CursorReader

variable {ε ε' τ α β : Type}

/-! ## Reading -/

/-- The element at an offset from the cursor. -/
def loadAt (m : Memory τ) (i : ℕ) : CursorReader ε τ := fun c ↦
  .ok (m.load (c.cur + i)) { c with reads := c.reads ++ [c.cur + i] }

/-- The elements from the cursor on. -/
def loads (m : Memory τ) (k : ℕ) : CursorReader ε (List τ) := fun c ↦
  .ok ((List.range k).map fun i ↦ m.load (c.cur + i))
    { c with reads := c.reads ++ (List.range k).map fun i ↦ c.cur + i }

def advance (k : ℕ) : CursorReader ε Unit := fun c ↦
  .ok () { c with cur := c.cur + k, visited := c.visited ++ [c.cur + k] }

/-- The cursor once `k` elements have been read. -/
def past (c : Cursor) (k : ℕ) : Cursor where
  cur := c.cur + k
  reads := c.reads ++ (List.range k).map fun i ↦ c.cur + i
  visited := c.visited ++ [c.cur + k]

theorem loadAt_eq (m : Memory τ) (i : ℕ) (c : Cursor) : (loadAt m i : CursorReader ε τ) c
    = .ok (m.load (c.cur + i)) { c with reads := c.reads ++ [c.cur + i] } := rfl

theorem loads_advance (m : Memory τ) (k : ℕ) (g : List τ → α) (c : Cursor) :
    (do let xs ← loads m k; advance k; pure (g xs) : CursorReader ε α) c
      = .ok (g ((List.range k).map fun i ↦ m.load (c.cur + i))) (past c k) := rfl

/-- Within the sequence, what is read is the front of the unread suffix. -/
theorem map_load_range {m : Memory τ} {i k : ℕ} (h : i + k ≤ m.content.length) :
    ((List.range k).map fun j ↦ m.load (i + j)) = (m.content.drop i).take k := by
  apply List.ext_getElem
  · rw [List.length_map, List.length_range, List.length_take, List.length_drop]
    omega
  · intro j hj _
    rw [List.length_map, List.length_range] at hj
    rw [List.getElem_map, List.getElem_range, List.getElem_take, List.getElem_drop,
      Memory.load_of_lt (by omega)]

/-- An element within the sequence is read. -/
theorem reaches_loadAt {m : Memory τ} {c : Cursor} (hc : c.Within m) {i : ℕ}
    (h : c.cur + i < m.content.length) :
    c.Reaches m { c with reads := c.reads ++ [c.cur + i] } := by
  refine ⟨⟨hc.cur, ?_, hc.visited⟩, Nat.le_refl _⟩
  intro j hj
  obtain hj | hj := List.mem_append.mp hj
  · exact hc.reads j hj
  · rw [List.mem_singleton.mp hj]
    exact h

theorem reaches_loads {m : Memory τ} {c : Cursor} (hc : c.Within m) {k : ℕ}
    (h : c.cur + k ≤ m.content.length) :
    c.Reaches m { c with reads := c.reads ++ (List.range k).map fun i ↦ c.cur + i } := by
  refine ⟨⟨hc.cur, ?_, hc.visited⟩, Nat.le_refl _⟩
  intro i hi
  obtain hi | hi := List.mem_append.mp hi
  · exact hc.reads i hi
  · obtain ⟨j, hj, rfl⟩ := List.mem_map.mp hi
    have hlt : j < k := List.mem_range.mp hj
    omega

theorem reaches_advance {m : Memory τ} {c : Cursor} (hc : c.Within m) {k : ℕ}
    (h : c.cur + k ≤ m.content.length) :
    c.Reaches m { c with cur := c.cur + k, visited := c.visited ++ [c.cur + k] } := by
  refine ⟨⟨h, hc.reads, ?_⟩, Nat.le_add_right _ _⟩
  intro i hi
  obtain hi | hi := List.mem_append.mp hi
  · exact hc.visited i hi
  · rw [List.mem_singleton.mp hi]
    exact h

theorem reaches_past {m : Memory τ} {c : Cursor} (hc : c.Within m) {k : ℕ}
    (h : c.cur + k ≤ m.content.length) : c.Reaches m (past c k) :=
  (reaches_loads hc h).trans (reaches_advance (reaches_loads hc h).within h)

/-! ## Following a decoder -/

/-- Two outcomes that agree, the one of a reader with its cursor and the one of a decoder. An
exception of the reader is one that the decoder has too. -/
inductive Agree (m : Memory τ) (f : ε → Option ε') (c : Cursor) :
    EStateM.Result ε Cursor α → Except ε' (α × List τ) → Prop
  | ok {a : α} {c' : Cursor} (hreach : c.Reaches m c') :
    Agree m f c (.ok a c') (.ok (a, m.content.drop c'.cur))
  | error {e : ε} {e' : ε'} {c' : Cursor} (hreach : c.Reaches m c') (he : f e = some e') :
    Agree m f c (.error e c') (.error e')

/-- The reader does what the decoder does, and stays within the sequence. -/
def Follows (m : Memory τ) (f : ε → Option ε') (x : CursorReader ε α) (d : Decoder ε' τ α) : Prop :=
  ∀ c : Cursor, c.Within m → Agree m f c (x c) (d.run (m.content.drop c.cur))

section Rules

variable {m : Memory τ} {f : ε → Option ε'}

theorem Agree.of_reaches {c c' : Cursor} (h : c.Reaches m c') {r : EStateM.Result ε Cursor α}
    {s : Except ε' (α × List τ)} (hagree : Agree m f c' r s) : Agree m f c r s := by
  obtain hreach | ⟨hreach, he⟩ := hagree
  · exact .ok (h.trans hreach)
  · exact .error (h.trans hreach) he

theorem Follows.pure (a : α) :
    Follows m f (Pure.pure a : CursorReader ε α) (Pure.pure a : Decoder ε' τ α) :=
  fun _ hc ↦ .ok hc.reaches

theorem Follows.throw {e : ε} {e' : ε'} (h : f e = some e') :
    Follows m f (throw e : CursorReader ε α) (throw e' : Decoder ε' τ α) :=
  fun _ hc ↦ .error hc.reaches h

theorem Follows.bind {x : CursorReader ε α} {d : Decoder ε' τ α} {g : α → CursorReader ε β}
    {h : α → Decoder ε' τ β} (hx : Follows m f x d) (hg : ∀ a, Follows m f (g a) (h a)) :
    Follows m f (x >>= g) (d >>= h) := by
  intro c hc
  have hfirst := hx c hc
  generalize hr : x c = r at hfirst
  generalize hs : d.run (m.content.drop c.cur) = s at hfirst
  obtain hreach | ⟨hreach, he⟩ := hfirst
  · rw [Effect.bind_of_ok hr, Decoder.run_bind_ok hs]
    exact (hg _ _ hreach.within).of_reaches hreach
  · rw [Effect.bind_of_error hr, Decoder.run_bind_error hs]
    exact .error hreach he

theorem Follows.map {x : CursorReader ε α} {d : Decoder ε' τ α} (hx : Follows m f x d)
    (g : α → β) : Follows m f (g <$> x) (g <$> d) := by
  rw [map_eq_pure_bind, map_eq_pure_bind]
  exact hx.bind fun a ↦ .pure (g a)

theorem Follows.ite {p : Prop} [Decidable p] {x y : CursorReader ε α} {d e : Decoder ε' τ α}
    (hx : Follows m f x d) (hy : Follows m f y e) :
    Follows m f (if p then x else y) (if p then d else e) := by
  split_ifs
  · exact hx
  · exact hy

end Rules

/-! ## What a reader that follows has done -/

variable {m : Memory τ} {f : ε → Option ε'} {x : CursorReader ε α} {d : Decoder ε' τ α}

theorem Follows.reaches (h : Follows m f x d) {c : Cursor} (hc : c.Within m) :
    c.Reaches m (Effect.final x c) := by
  have hagree := h c hc
  generalize hr : x c = r at hagree
  generalize d.run (m.content.drop c.cur) = s at hagree
  obtain hreach | ⟨hreach, -⟩ := hagree
  · rwa [Effect.final_of_ok hr]
  · rwa [Effect.final_of_error hr]

theorem Follows.of_ok (h : Follows m f x d) {c c' : Cursor} (hc : c.Within m) {a : α}
    (hx : x c = .ok a c') :
    c.Reaches m c' ∧ d.run (m.content.drop c.cur) = .ok (a, m.content.drop c'.cur) := by
  have hagree := h c hc
  rw [hx] at hagree
  generalize d.run (m.content.drop c.cur) = s at hagree
  cases hagree with
  | ok hreach => exact ⟨hreach, rfl⟩

theorem Follows.of_error (h : Follows m f x d) {c c' : Cursor} (hc : c.Within m) {e : ε}
    (hx : x c = .error e c') :
    ∃ e', f e = some e' ∧ d.run (m.content.drop c.cur) = .error e' := by
  have hagree := h c hc
  rw [hx] at hagree
  generalize d.run (m.content.drop c.cur) = s at hagree
  cases hagree with
  | error hreach he => exact ⟨_, he, rfl⟩

theorem Follows.exists_ok (h : Follows m f x d) {c : Cursor} (hc : c.Within m) {a : α}
    {rest : List τ} (hd : d.run (m.content.drop c.cur) = .ok (a, rest)) :
    ∃ c', x c = .ok a c' ∧ c.Reaches m c' ∧ m.content.drop c'.cur = rest := by
  have hagree := h c hc
  rw [hd] at hagree
  generalize hx : x c = r at hagree
  generalize hs : (Except.ok (a, rest) : Except ε' (α × List τ)) = s at hagree
  obtain hreach | ⟨hreach, he⟩ := hagree
  · cases hs
    exact ⟨_, rfl, hreach, rfl⟩
  · cases hs

end CursorReader

end Ormpp
