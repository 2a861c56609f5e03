import Mathlib.Tactic

/-!
# Recorded actions with an early return

A computation of type `Traced ε α` records what it does, and either goes on with a value or returns
early. `Traced.andFinally` is for what happens at the end of a scope, however it is left. A loop
over a list is left with the first item that its body returns early for: the body is given by which
items it takes and by what it does for such an item, and `FirstRefused` says which item is the first
that it does not take.
-/

namespace Ormpp

def Traced (ε α : Type) : Type := List ε × Option α

namespace Traced

variable {ε α β γ : Type}

instance : Monad (Traced ε) where
  pure a := ([], some a)
  bind x f :=
    match x with
    | (es, none) => (es, none)
    | (es, some a) => (es ++ (f a).1, (f a).2)

/-- An action is done. -/
def emit (es : List ε) : Traced ε Unit := (es, some ())

/-- The actions are done, and the computation returns early. -/
def leave (es : List ε) : Traced ε α := (es, none)

def when (c : Bool) (x : Traced ε Unit) : Traced ε Unit := if c then x else pure ()

/-- The actions are done at the end, also after an early return. -/
def andFinally (es : List ε) (x : Traced ε α) : Traced ε α := (x.1 ++ es, x.2)

/-- The work between a beginning and an end, which are left out where it is not to be bracketed. -/
def bracket (opens : Bool) (begin commit : Traced ε Unit) (work : Traced ε α) : Traced ε α := do
  when opens begin
  let a ← work
  when opens commit
  pure a

def forEach (body : ℕ → α → β → Traced ε β) : ℕ → List α → β → Traced ε β
  | _, [], b => pure b
  | k, a :: as, b => body k a b >>= forEach body (k + 1) as

/-! ## Sequences -/

variable {x : Traced ε α} {f : α → Traced ε β} {es : List ε} {a : α}

theorem eq_of_snd {o : Option α} (h : x.2 = o) : x = (x.1, o) := Prod.ext rfl h

theorem bind_of_left (h : x = (es, none)) : x >>= f = (es, none) := by
  rw [h]
  rfl

theorem bind_of_value (h : x = (es, some a)) : x >>= f = (es ++ (f a).1, (f a).2) := by
  rw [h]
  rfl

theorem bind_pure (x : Traced ε α) (f : α → β) : x >>= (fun a ↦ pure (f a)) = (x.1, x.2.map f) := by
  obtain ⟨actions, _ | a⟩ := x
  · rfl
  · exact Prod.ext (List.append_nil actions) rfl

/-! ## Brackets -/

/-- The ways through a bracket. -/
inductive Exit (begin commit : Traced ε Unit) (work : Traced ε α) : Traced ε α → Prop
  | notBegun (hbegin : begin.2 = none) : Exit begin commit work (begin.1, none)
  | left (hbegin : begin.2 = some ()) (hwork : work.2 = none) :
    Exit begin commit work (begin.1 ++ work.1, none)
  | notCommitted (a : α) (hbegin : begin.2 = some ()) (hwork : work.2 = some a)
    (hcommit : commit.2 = none) : Exit begin commit work (begin.1 ++ (work.1 ++ commit.1), none)
  | done (a : α) (hbegin : begin.2 = some ()) (hwork : work.2 = some a)
    (hcommit : commit.2 = some ()) :
    Exit begin commit work (begin.1 ++ (work.1 ++ commit.1), some a)

theorem exit_of_bracket (begin commit : Traced ε Unit) (work : Traced ε α) :
    Exit begin commit work (bracket true begin commit work) := by
  obtain ⟨started, _ | ⟨⟩⟩ := begin
  · exact .notBegun rfl
  · obtain ⟨worked, _ | a⟩ := work
    · exact .left rfl rfl
    · obtain ⟨finished, _ | ⟨⟩⟩ := commit
      · exact .notCommitted a rfl rfl rfl
      · have heq : bracket true (started, some ()) (finished, some ()) (worked, some a)
            = (started ++ (worked ++ finished), some a) := by
          change (started ++ (worked ++ (finished ++ [])), some a) = _
          rw [List.append_nil]
        rw [heq]
        exact .done a rfl rfl rfl

theorem bracket_false (begin commit : Traced ε Unit) (work : Traced ε α) :
    bracket false begin commit work = work := by
  obtain ⟨worked, _ | a⟩ := work
  · rfl
  · have hnil : worked ++ [] = worked := List.append_nil worked
    exact Prod.ext hnil rfl

/-- The work is done, and so are the beginning and the end where there are any. -/
theorem bracket_eq_some_iff {opens : Bool} {begin commit : Traced ε Unit} {work : Traced ε α} :
    (bracket opens begin commit work).2 = some a
      ↔ work.2 = some a ∧ (opens = true → begin.2 = some () ∧ commit.2 = some ()) := by
  obtain _ | _ := opens
  · rw [bracket_false]
    exact (and_iff_left nofun).symm
  · have hexit := exit_of_bracket begin commit work
    generalize bracket true begin commit work = x at hexit ⊢
    rcases hexit with hbegin | ⟨hbegin, hwork⟩ | ⟨b, hbegin, hwork, hcommit⟩ |
      ⟨b, hbegin, hwork, hcommit⟩
    · simp [hbegin]
    · simp [hwork]
    · simp [hcommit]
    · simp [hbegin, hwork, hcommit]

theorem bracket_of_done {opens : Bool} {begin commit : Traced ε Unit} {work : Traced ε α}
    {started worked finished : List ε} (hwork : work = (worked, some a))
    (h : opens = true → begin = (started, some ()) ∧ commit = (finished, some ())) :
    bracket opens begin commit work
      = ((if opens then started else []) ++ (worked ++ if opens then finished else []),
        some a) := by
  obtain _ | _ := opens
  · rw [bracket_false, hwork]
    exact Prod.ext (List.append_nil worked).symm rfl
  · obtain ⟨rfl, rfl⟩ := h rfl
    subst hwork
    change (started ++ (worked ++ (finished ++ [])), some a) = _
    rw [List.append_nil]
    rfl

/-! ## Loops -/

/-- The item at position `n` is the first that is not taken. -/
structure FirstRefused (taken : ℕ → α → Bool) (v : List α) (n : ℕ) : Prop where
  lt : n < v.length
  before : ∀ i (h : i < n), taken i v[i] = true
  refused : taken n v[n] = false

/-- The item at that position. -/
def FirstRefused.item {taken : ℕ → α → Bool} {v : List α} {n : ℕ}
    (h : FirstRefused taken v n) : α :=
  v.get ⟨n, h.lt⟩

theorem FirstRefused.item_refused {taken : ℕ → α → Bool} {v : List α} {n : ℕ}
    (h : FirstRefused taken v n) : taken n h.item = false := h.refused

theorem FirstRefused.not_forall {taken : ℕ → α → Bool} {v : List α} {n : ℕ}
    (h : FirstRefused taken v n) : ¬ ∀ i (hi : i < v.length), taken i v[i] = true :=
  fun htaken ↦ Bool.false_ne_true (h.refused.symm.trans (htaken n h.lt))

theorem FirstRefused.unique {taken : ℕ → α → Bool} {v : List α} {m n : ℕ}
    (hm : FirstRefused taken v m) (hn : FirstRefused taken v n) : m = n := by
  rcases lt_trichotomy m n with hlt | heq | hlt
  · exact absurd (hn.before m hlt) (by simp [hm.refused])
  · exact heq
  · exact absurd (hm.before n hlt) (by simp [hn.refused])

/-- The position of the first item that is not taken. -/
def firstRefused (taken : ℕ → α → Bool) (v : List α) : Option ℕ :=
  v.zipIdx.findIdx? fun p ↦ !taken p.2 p.1

theorem firstRefused_eq_some {taken : ℕ → α → Bool} {v : List α} {n : ℕ} :
    firstRefused taken v = some n ↔ FirstRefused taken v n := by
  rw [firstRefused, List.findIdx?_eq_some_iff_getElem]
  constructor
  · rintro ⟨hlt, hrefused, hbefore⟩
    rw [List.length_zipIdx] at hlt
    exact ⟨hlt, fun i hi ↦ by simpa using hbefore i hi, by simpa using hrefused⟩
  · intro h
    refine ⟨by simpa using h.lt, by simpa using h.refused, fun i hi ↦ ?_⟩
    simpa using h.before i hi

theorem firstRefused_eq_none {taken : ℕ → α → Bool} {v : List α} :
    firstRefused taken v = none ↔ ∀ i (h : i < v.length), taken i v[i] = true := by
  rw [firstRefused, List.findIdx?_eq_none_iff]
  constructor
  · intro h i hi
    have hmem : (v[i], i) ∈ v.zipIdx := by
      rw [List.mk_mem_zipIdx_iff_getElem?]
      exact List.getElem?_eq_getElem hi
    simpa using h _ hmem
  · rintro h ⟨a, i⟩ hmem
    obtain ⟨hi, rfl⟩ := List.getElem?_eq_some_iff.mp (List.mk_mem_zipIdx_iff_getElem?.mp hmem)
    simpa using h i hi

/-- All items are taken, or there is a first one that is not. -/
theorem taken_or_firstRefused (taken : ℕ → α → Bool) (v : List α) :
    (∀ i (h : i < v.length), taken i v[i] = true) ∨ ∃ n, FirstRefused taken v n := by
  cases h : firstRefused taken v with
  | none => exact Or.inl (firstRefused_eq_none.mp h)
  | some n => exact Or.inr ⟨n, firstRefused_eq_some.mp h⟩

section Loop

variable {body : ℕ → α → β → Traced ε β} {taken : ℕ → α → Bool} {does : α → List ε}

theorem forEach_from_of_taken
    (hbody : ∀ k a b, taken k a = true → ∃ b', body k a b = (does a, some b')) {v : List α} {k : ℕ}
    {b : β} (h : ∀ i (hi : i < v.length), taken (k + i) v[i] = true) :
    ∃ b', forEach body k v b = (v.flatMap does, some b') := by
  induction v generalizing k b with
  | nil => exact ⟨b, rfl⟩
  | cons a as ih =>
    obtain ⟨b', hfirst⟩ := hbody k a b (h 0 (Nat.succ_pos _))
    have hrest : ∀ i (hi : i < as.length), taken (k + 1 + i) as[i] = true := by
      intro i hi
      have := h (i + 1) (Nat.succ_lt_succ hi)
      rwa [show k + (i + 1) = k + 1 + i by omega] at this
    obtain ⟨b'', hloop⟩ := ih hrest (b := b')
    refine ⟨b'', ?_⟩
    rw [forEach, bind_of_value hfirst, hloop, List.flatMap_cons]

theorem forEach_from_of_firstRefused
    (hbody : ∀ k a b, taken k a = true → ∃ b', body k a b = (does a, some b')) {v : List α}
    {k n : ℕ} {b : β} (h : FirstRefused (fun i ↦ taken (k + i)) v n)
    (hleft : ∀ a b, taken (k + n) a = false → (body (k + n) a b).2 = none) :
    ∃ b', forEach body k v b
      = ((v.take n).flatMap does ++ (body (k + n) h.item b').1, none) := by
  induction v generalizing k n b with
  | nil => exact absurd h.lt (Nat.not_lt_zero n)
  | cons a as ih =>
    cases n with
    | zero =>
      have hnone : (body k a b).2 = none := hleft a b h.refused
      exact ⟨b, bind_of_left (Prod.ext rfl hnone)⟩
    | succ n =>
      obtain ⟨b', hfirst⟩ := hbody k a b (h.before 0 (Nat.succ_pos n))
      have hshift : ∀ i, k + (i + 1) = k + 1 + i := fun i ↦ by omega
      have hlt : n < as.length := Nat.lt_of_succ_lt_succ h.lt
      have hrest : FirstRefused (fun i ↦ taken (k + 1 + i)) as n := by
        refine ⟨hlt, fun i hi ↦ ?_, ?_⟩
        · have hbound : i < as.length := hi.trans hlt
          have htaken : taken (k + (i + 1)) as[i] = true := h.before (i + 1) (Nat.succ_lt_succ hi)
          rwa [hshift] at htaken
        · have hrefused : taken (k + (n + 1)) as[n] = false := h.refused
          rwa [hshift] at hrefused
      rw [hshift] at hleft
      obtain ⟨b'', hloop⟩ := ih hrest hleft (b := b')
      refine ⟨b'', ?_⟩
      rw [forEach, bind_of_value hfirst, hloop, hshift n, List.take_succ_cons, List.flatMap_cons,
        List.append_assoc]
      rfl

theorem forEach_of_taken (taken : ℕ → α → Bool)
    (hbody : ∀ k a b, taken k a = true → ∃ b', body k a b = (does a, some b')) {v : List α} {b : β}
    (h : ∀ i (hi : i < v.length), taken i v[i] = true) :
    ∃ b', forEach body 0 v b = (v.flatMap does, some b') := by
  apply forEach_from_of_taken hbody
  intro i hi
  rw [Nat.zero_add]
  exact h i hi

/-- A loop that is left has done what its body does for the items before, and for the first item
that is not taken what its body does before it returns. -/
theorem forEach_of_firstRefused
    (hbody : ∀ k a b, taken k a = true → ∃ b', body k a b = (does a, some b')) {v : List α} {n : ℕ}
    {b : β} (h : FirstRefused taken v n)
    (hleft : ∀ a b, taken n a = false → (body n a b).2 = none) :
    ∃ b', forEach body 0 v b = ((v.take n).flatMap does ++ (body n h.item b').1, none) := by
  have hzero : FirstRefused (fun i ↦ taken (0 + i)) v n := by simpa only [Nat.zero_add] using h
  have hloop := forEach_from_of_firstRefused (k := 0) (b := b) hbody hzero
  simp only [Nat.zero_add] at hloop
  exact hloop hleft

/-- A loop comes to its end where all items are taken. -/
theorem isSome_forEach_iff (taken : ℕ → α → Bool)
    (hbody : ∀ k a b, taken k a = true → ∃ b', body k a b = (does a, some b'))
    (hleft : ∀ k a b, taken k a = false → (body k a b).2 = none) {v : List α} {b : β} :
    (forEach body 0 v b).2.isSome ↔ ∀ i (hi : i < v.length), taken i v[i] = true := by
  rcases taken_or_firstRefused taken v with htaken | ⟨n, hfirst⟩
  · obtain ⟨b', hloop⟩ := forEach_of_taken taken hbody htaken (b := b)
    rw [hloop]
    exact iff_of_true rfl htaken
  · obtain ⟨b', hloop⟩ := forEach_of_firstRefused hbody hfirst (hleft n) (b := b)
    rw [hloop]
    apply iff_of_false
    · exact Bool.false_ne_true
    · exact hfirst.not_forall

end Loop

end Traced

end Ormpp
