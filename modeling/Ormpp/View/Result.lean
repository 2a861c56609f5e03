import Ormpp.Bind.Escape
import Ormpp.Query.Builder
import Ormpp.View.Storage

/-!
# Results with string views

A field of type `std::string_view` does not own its text. The synchronous backends put the text of
every such field of every row into one static string and let the field refer to it, so that all the
fields of a result refer to the same string, which is assigned to again by the next field and by
every other connection of the backend. The asynchronous backend stores the texts of a result one
behind the other, in a container that the next result on the thread clears.
-/

namespace Ormpp

/-- What the server has in a column of a row: a text, or `NULL`. -/
abbrev Cell := Option Bytes

/-- What a field is meant to give. -/
def Cell.text (c : Cell) : Bytes := c.getD []

/-! ## The synchronous backends -/

/-- What is assigned to the static string for a cell: `set_value` of MySQL takes the buffer of the
column as far as its first NUL, and the buffer is empty for a `NULL`; `assign` of SQLite takes the
bytes of the column, and that of PostgreSQL a string that ends with a NUL. -/
def assignedText (db : DBType) (c : Cell) : Option Bytes :=
  match db with
  | .mysql => some (untilNul c.text)
  | .sqlite => c
  | .postgresql => c.map untilNul

/-- A field of a row. -/
def fetchCell (A : Allocation) (db : DBType) (s : StoredString) (c : Cell) :
    StoredString × BlockView :=
  match assignedText db c with
  | none => (s, .empty)
  | some text => (s.assign A text, (s.assign A text).view)

/-- The fields of a result, row by row. -/
def fetch (A : Allocation) (db : DBType) : StoredString → List Cell → StoredString × List BlockView
  | s, [] => (s, [])
  | s, c :: cells =>
    let (s, v) := fetchCell A db s c
    let (s, vs) := fetch A db s cells
    (s, v :: vs)

/-- The results that other connections fetch. -/
def fetchOthers (A : Allocation) (db : DBType) (s : StoredString)
    (others : List (List (List Cell))) : StoredString :=
  others.foldl (fun s rows ↦ (fetch A db s rows.flatten).1) s

/-- The fields of a result give the texts of their columns, after other connections have fetched
some results. -/
def ViewsRight (A : Allocation) (db : DBType) (s : StoredString) (rows : List (List Cell))
    (others : List (List (List Cell))) : Prop :=
  let (s, views) := fetch A db s rows.flatten
  views.map (fetchOthers A db s others).read = rows.flatten.map fun c ↦ some c.text

/-- A field whose text is assigned as it is, is not moved by the texts assigned behind it, and is
what the last of them begins with. -/
def TextKept (A : Allocation) (db : DBType) (s : StoredString) (c : Cell) (later : List Bytes) :
    Prop :=
  c.text ≠ [] → assignedText db c = c ∧
    (∀ text ∈ later, A s.capacity text.length = none) ∧ c.text <+: later.getLastD c.text ++ [0]

/-- Every field of a result is kept by the fields behind it and by the texts assigned later. -/
def TextsKept (A : Allocation) (db : DBType) (later : List Bytes) : StoredString → List Cell → Prop
  | _, [] => True
  | s, c :: cells =>
    TextKept A db (fetchCell A db s c).1 c (cells.filterMap (assignedText db) ++ later) ∧
      TextsKept A db later (fetchCell A db s c).1 cells

section Synchronous

variable {A : Allocation} {db : DBType} {s : StoredString}

theorem fetchCell_fst (c : Cell) :
    (fetchCell A db s c).1 = s.assignAll A ([c].filterMap (assignedText db)) := by
  rw [fetchCell]
  rcases h : assignedText db c with _ | text <;> simp [h, StoredString.assignAll]

theorem fetch_cons (c : Cell) (cells : List Cell) :
    fetch A db s (c :: cells) =
      ((fetch A db (fetchCell A db s c).1 cells).1,
        (fetchCell A db s c).2 :: (fetch A db (fetchCell A db s c).1 cells).2) := rfl

/-- What fetching does to the string. -/
theorem fetch_fst (cells : List Cell) :
    (fetch A db s cells).1 = s.assignAll A (cells.filterMap (assignedText db)) := by
  induction cells generalizing s with
  | nil => rfl
  | cons c cells ih =>
    rw [fetch_cons, ih, fetchCell_fst, ← StoredString.assignAll_append, ← List.filterMap_append]
    rfl

/-- The texts that are assigned for the results of other connections. -/
def otherTexts (db : DBType) (others : List (List (List Cell))) : List Bytes :=
  others.flatMap fun rows ↦ rows.flatten.filterMap (assignedText db)

theorem fetchOthers_eq (others : List (List (List Cell))) :
    fetchOthers A db s others = s.assignAll A (otherTexts db others) := by
  induction others generalizing s with
  | nil => rfl
  | cons rows others ih =>
    have hstep : fetchOthers A db s (rows :: others)
        = fetchOthers A db (fetch A db s rows.flatten).1 others := rfl
    rw [hstep, ih, fetch_fst, ← StoredString.assignAll_append]
    rfl

/-- What is assigned is the beginning of the text of the column. -/
theorem isPrefix_of_assignedText {c : Cell} {text : Bytes} (h : assignedText db c = some text) :
    text <+: c.text := by
  obtain _ | _ | _ := db
  · rw [← Option.some_inj.mp h]
    exact List.takeWhile_prefix _
  · obtain rfl : c = some text := h
    exact List.prefix_rfl
  · obtain ⟨t, rfl, rfl⟩ := Option.map_eq_some_iff.mp h
    exact List.takeWhile_prefix _

/-- A column that is not empty is assigned. -/
theorem exists_assignedText {c : Cell} (hc : c.text ≠ []) :
    c = some c.text ∧ ∃ text, assignedText db c = some text := by
  obtain _ | t := c
  · exact absurd rfl hc
  · cases db <;> exact ⟨rfl, _, rfl⟩

/-- A field of an empty column refers to nothing. -/
theorem read_fetchCell_of_empty {c : Cell} (hc : c.text = []) (s' : StoredString) :
    s'.read (fetchCell A db s c).2 = some [] := by
  apply StoredString.read_of_length_eq_zero
  rw [fetchCell]
  rcases h : assignedText db c with _ | text
  · rfl
  · have hprefix := isPrefix_of_assignedText h
    rw [hc, List.prefix_nil] at hprefix
    subst hprefix
    exact congrArg List.length (StoredString.text_assign [])

/-- A field is right in the end exactly when its text is kept. -/
theorem read_fetchCell_iff (c : Cell) (later : List Bytes) :
    ((fetchCell A db s c).1.assignAll A later).read (fetchCell A db s c).2 = some c.text ↔
      TextKept A db (fetchCell A db s c).1 c later := by
  by_cases hc : c.text = []
  · rw [read_fetchCell_of_empty hc, hc]
    exact iff_of_true rfl fun hne ↦ absurd hc hne
  have hexists : c = some c.text ∧ ∃ text, assignedText db c = some text := exists_assignedText hc
  obtain ⟨hsome, text, hassigned⟩ := hexists
  have hfetch : fetchCell A db s c = (s.assign A text, (s.assign A text).view) := by
    rw [fetchCell, hassigned]
  rw [TextKept, hfetch, hassigned, forall_prop_of_true hc]
  by_cases htext : text = c.text
  · have hne : (s.assign A text).text ≠ [] := by rwa [StoredString.text_assign, htext]
    have hread := StoredString.read_view_assignAll_iff (A := A) hne later
    rw [StoredString.text_assign, htext] at hread
    rw [htext, hread, and_iff_right hsome.symm]
  · have hcut : some text ≠ c := fun heq ↦ htext (Option.some_inj.mp (heq.trans hsome))
    refine iff_of_false (fun hread ↦ htext ?_) fun hkept ↦ hcut hkept.1
    have hlength := StoredString.length_of_read hread
    rw [StoredString.view, StoredString.text_assign] at hlength
    exact (isPrefix_of_assignedText hassigned).eq_of_length hlength.symm

/-- **Views of one string.** -/
theorem viewsRight_sync_iff (rows : List (List Cell)) (others : List (List (List Cell))) :
    ViewsRight A db s rows others ↔ TextsKept A db (otherTexts db others) s rows.flatten := by
  have hcells (cells : List Cell) (s : StoredString) :
      (fetch A db s cells).2.map
          ((fetch A db s cells).1.assignAll A (otherTexts db others)).read
        = cells.map (fun c ↦ some c.text) ↔ TextsKept A db (otherTexts db others) s cells := by
    induction cells generalizing s with
    | nil => exact iff_of_true rfl trivial
    | cons c cells ih =>
      rw [TextsKept, ← ih, ← read_fetchCell_iff, fetch_cons, List.map_cons, List.map_cons,
        List.cons.injEq, StoredString.assignAll_append, ← fetch_fst]
  rw [← hcells, ← fetchOthers_eq]
  rfl

end Synchronous

/-! ## The asynchronous backend -/

/-- `assign_text_value`, for a field of a row. -/
def assignTextValue (s : TextStorage) (c : Cell) : TextStorage × TextView :=
  match c with
  | none => (s, .empty)
  | some text => s.store text

/-- `map_row`, for the fields of a result row by row. -/
def mapRows : TextStorage → List Cell → TextStorage × List TextView
  | s, [] => (s, [])
  | s, c :: cells =>
    let (s, v) := assignTextValue s c
    let (s, vs) := mapRows s cells
    (s, v :: vs)

/-- What `query_s` does when the result has arrived: it clears the container and fills it. -/
def TextStorage.queryS (s : TextStorage) (rows : List (List Cell)) : TextStorage × List TextView :=
  mapRows s.clear rows.flatten

/-- The fields of a result give the texts of their columns, after other connections have got some
results on the same thread. -/
def AsyncViewsRight (s : TextStorage) (rows : List (List Cell))
    (others : List (List (List Cell))) : Prop :=
  let (s, views) := TextStorage.queryS s rows
  views.map (others.foldl (fun s rows ↦ (TextStorage.queryS s rows).1) s).read
    = rows.flatten.map fun c ↦ some c.text

section Asynchronous

variable (s : TextStorage)

theorem mapRows_cons (c : Cell) (cells : List Cell) :
    mapRows s (c :: cells) =
      ((mapRows (assignTextValue s c).1 cells).1,
        (assignTextValue s c).2 :: (mapRows (assignTextValue s c).1 cells).2) := rfl

theorem mapRows_fst (cells : List Cell) :
    (mapRows s cells).1 = ⟨s.generation, s.texts ++ cells.filterMap id⟩ := by
  induction cells generalizing s with
  | nil => rw [List.filterMap_nil, List.append_nil]; rfl
  | cons c cells ih =>
    rw [mapRows_cons, ih]
    obtain _ | text := c
    · rfl
    · exact congrArg (TextStorage.mk s.generation) (List.append_assoc _ _ _)

/-- A result is right when it is returned. -/
theorem read_mapRows (cells : List Cell) :
    (mapRows s cells).2.map (mapRows s cells).1.read = cells.map fun c ↦ some c.text := by
  induction cells generalizing s with
  | nil => rfl
  | cons c cells ih =>
    rw [mapRows_cons, List.map_cons, List.map_cons, ih]
    congr 1
    rw [mapRows_fst]
    obtain _ | text := c
    · rfl
    · exact s.read_store text _

/-- A later result clears the container. -/
theorem generation_lt_foldl_queryS {others : List (List (List Cell))} (h : others ≠ []) :
    s.generation < (others.foldl (fun s rows ↦ (TextStorage.queryS s rows).1) s).generation := by
  have hquery (s : TextStorage) (rows : List (List Cell)) :
      (TextStorage.queryS s rows).1.generation = s.generation + 1 := by
    rw [TextStorage.queryS, mapRows_fst]
    rfl
  induction others generalizing s with
  | nil => exact absurd rfl h
  | cons rows others ih =>
    rw [List.foldl_cons]
    by_cases hothers : others = []
    · rw [hothers, List.foldl_nil, hquery]
      exact Nat.lt_succ_self _
    · calc s.generation < (TextStorage.queryS s rows).1.generation := by
            rw [hquery]
            exact Nat.lt_succ_self _
        _ < _ := ih (TextStorage.queryS s rows).1 hothers

/-- When the container has been cleared, only the fields of empty columns are right. -/
theorem read_mapRows_of_lt {t : TextStorage} (h : s.generation < t.generation)
    (cells : List Cell) :
    (mapRows s cells).2.map t.read = cells.map (fun c ↦ some c.text) ↔
      ∀ c ∈ cells, Cell.text c = [] := by
  induction cells generalizing s with
  | nil => exact iff_of_true rfl nofun
  | cons c cells ih =>
    have hgeneration : (assignTextValue s c).1.generation = s.generation := by
      obtain _ | text := c <;> rfl
    have hread : t.read (assignTextValue s c).2 = some c.text ↔ c.text = [] := by
      obtain _ | text := c
      · exact iff_of_true rfl rfl
      · have hstored : (assignTextValue s (some text)).2
            = ⟨s.generation, s.texts.length, text.length⟩ := rfl
        rw [hstored, TextStorage.read_of_generation_ne t h.ne]
        split_ifs with hzero
        · exact iff_of_true (congrArg some (List.length_eq_zero_iff.mp hzero).symm)
            (List.length_eq_zero_iff.mp hzero)
        · exact iff_of_false nofun fun hnil ↦ hzero (List.length_eq_zero_iff.mpr hnil)
    rw [mapRows_cons, List.map_cons, List.map_cons, List.cons.injEq, hread,
      ih _ (hgeneration.trans_lt h), List.forall_mem_cons]

/-- **Views of a container.** -/
theorem asyncViewsRight_iff (rows : List (List Cell)) (others : List (List (List Cell))) :
    AsyncViewsRight s rows others ↔ others = [] ∨ ∀ c ∈ rows.flatten, Cell.text c = [] := by
  by_cases hothers : others = []
  · subst hothers
    exact iff_of_true (read_mapRows s.clear rows.flatten) (.inl rfl)
  · have hgeneration : (TextStorage.queryS s rows).1.generation = s.clear.generation := by
      rw [TextStorage.queryS, mapRows_fst]
    have hlt := hgeneration ▸ generation_lt_foldl_queryS (TextStorage.queryS s rows).1 hothers
    rw [or_iff_right hothers, ← read_mapRows_of_lt s.clear hlt]
    rfl

end Asynchronous

/-- **Results with string views.** With every synchronous backend the fields of a result give the
texts of their columns exactly when every text is kept; with the asynchronous one, exactly when no
other connection has got a result on the thread since, or all columns are empty. -/
theorem viewsRight_iff (rows : List (List Cell)) (others : List (List (List Cell))) :
    (∀ (A : Allocation) (db : DBType) (s : StoredString),
        ViewsRight A db s rows others ↔ TextsKept A db (otherTexts db others) s rows.flatten) ∧
      ∀ s : TextStorage,
        AsyncViewsRight s rows others ↔ others = [] ∨ ∀ c ∈ rows.flatten, Cell.text c = [] :=
  ⟨fun _ _ _ ↦ viewsRight_sync_iff rows others, fun s ↦ asyncViewsRight_iff s rows others⟩

/-! ## Two rows, and two connections -/

/-- A string with room for fifteen characters, which at least doubles when it moves. -/
def doubling : Allocation := fun capacity length ↦
  if length ≤ capacity then none else some (max length (2 * capacity))

/-- The view of the first of two rows gives the text of the second; the view of the only row of a
result is dangling when another connection has got an empty result. -/
theorem not_viewsRight :
    (∀ db, ¬ViewsRight doubling db ⟨0, 15, []⟩ [[some (ascii "a")], [some (ascii "b")]] []) ∧
      ¬AsyncViewsRight ⟨0, []⟩ [[some (ascii "a")]] [[]] := by
  constructor
  · intro db
    cases db <;> (unfold ViewsRight; decide)
  · unfold AsyncViewsRight
    decide

end Ormpp
