import Ormpp.Schema.CreateTable

/-!
# Lists of columns as the server reads them

Between parentheses the server reads names with commas between them, and takes no notice of the
blanks around a name. What a macro keeps of its arguments is such a list, and so is what the library
joins from the texts that it cut out of it.
-/

namespace Ormpp

open Sql

/-- A text without the blanks around it. -/
def trimBlanks (text : Bytes) : Bytes :=
  (text.dropWhile fun b ↦ b = blank).rdropWhile fun b ↦ b = blank

/-- The names of a list, where `name` is read of the first one. -/
def readNames : Bytes → Bytes → List Bytes
  | [], name => [trimBlanks name]
  | b :: rest, name =>
    if b = commaByte then trimBlanks name :: readNames rest [] else readNames rest (name ++ [b])

/-- The names between two parentheses. -/
def columnList (text : Bytes) : List Bytes := if text = [] then [] else readNames text []

/-! ## Words with blanks around them -/

/-- A text in which no blank and no comma stands. -/
def IsWord (text : Bytes) : Prop := ∀ b ∈ text, b ≠ blank ∧ b ≠ commaByte

theorem isWord_nil : IsWord [] := fun _ h ↦ absurd h List.not_mem_nil

theorem isWord_of_isWordByte {text : Bytes} (h : ∀ b ∈ text, isWordByte b = true) :
    IsWord text := by
  intro b hb
  constructor
  · rintro rfl
    exact absurd (h blank hb) (by decide)
  · rintro rfl
    exact absurd (h commaByte hb) (by decide)

theorem Name.isWord (n : Name) : IsWord n.text :=
  isWord_of_isWordByte fun b hb ↦ isWordByte_of_isNameByte (n.plain b hb)

theorem trimBlanks_word {word : Bytes} (h : IsWord word) (back : Bool) :
    trimBlanks (word ++ optionalBlank back) = word := by
  have hback : (word ++ optionalBlank back).rdropWhile (fun b ↦ b = blank) = word := by
    have hself : word.rdropWhile (fun b ↦ b = blank) = word := by
      rw [List.rdropWhile_eq_self_iff]
      intro hne hblank
      exact (h _ (List.getLast_mem hne)).1 (of_decide_eq_true hblank)
    obtain _ | _ := back
    · rw [optionalBlank, if_neg Bool.false_ne_true, List.append_nil, hself]
    · rw [optionalBlank, if_pos rfl, List.rdropWhile_concat_pos _ _ _ (by simp), hself]
  obtain _ | ⟨b, word⟩ := word
  · obtain _ | _ := back <;> rfl
  · have hb : b ≠ blank := (h b List.mem_cons_self).1
    rw [trimBlanks, List.cons_append, List.dropWhile_cons_of_neg (by simpa using hb),
      ← List.cons_append, hback]

theorem trimBlanks_blank_cons (text : Bytes) : trimBlanks (blank :: text) = trimBlanks text := by
  rw [trimBlanks, List.dropWhile_cons_of_pos (by rfl)]
  rfl

theorem trimBlanks_blanks {word : Bytes} (h : IsWord word) (front back : Bool) :
    trimBlanks (optionalBlank front ++ word ++ optionalBlank back) = word := by
  obtain _ | _ := front
  · exact trimBlanks_word h back
  · exact (trimBlanks_blank_cons _).trans (trimBlanks_word h back)

/-! ## Reading -/

/-- Up to a comma everything belongs to the name. -/
theorem readNames_append {text : Bytes} (h : commaByte ∉ text) (rest name : Bytes) :
    readNames (text ++ rest) name = readNames rest (name ++ text) := by
  induction text generalizing name with
  | nil => rw [List.append_nil]; rfl
  | cons b text ih =>
    obtain ⟨hb, htext⟩ := not_or.mp (mt List.mem_cons.mpr h)
    have hstep : readNames (b :: text ++ rest) name = readNames (text ++ rest) (name ++ [b]) :=
      if_neg (Ne.symm hb)
    rw [hstep, ih htext, List.append_assoc]
    rfl

theorem readNames_comma (rest name : Bytes) :
    readNames (commaByte :: rest) name = trimBlanks name :: readNames rest [] := if_pos rfl

theorem comma_notMem_optionalBlank (present : Bool) : commaByte ∉ optionalBlank present := by
  obtain _ | _ := present <;> decide

theorem IsWord.comma_notMem {word : Bytes} (h : IsWord word) : commaByte ∉ word :=
  fun hmem ↦ (h commaByte hmem).2 rfl

/-- The keys of a macro, with what is read of the blanks in front of the first one. -/
theorem readNames_argumentText (front : Bool) (k : Key) (rest : List (Spacing × Key)) :
    readNames (argumentText k rest) (optionalBlank front)
      = (k :: rest.map Prod.snd).map fun k ↦ k.text := by
  induction rest generalizing front k with
  | nil =>
    have hread := readNames_append k.isWord.comma_notMem [] (optionalBlank front)
    rw [List.append_nil] at hread
    have htrim : trimBlanks (optionalBlank front ++ k.text) = k.text := by
      have hword := trimBlanks_blanks k.isWord front false
      rwa [show optionalBlank false = [] from rfl, List.append_nil] at hword
    rw [argumentText, hread, readNames, htrim]
    rfl
  | cons p rest ih =>
    obtain ⟨s, k'⟩ := p
    have htext : argumentText k ((s, k') :: rest)
        = k.text ++ (optionalBlank s.before ++ (commaByte ::
            (optionalBlank s.after ++ argumentText k' rest))) := by
      simp [argumentText, Spacing.text]
    rw [htext, readNames_append k.isWord.comma_notMem,
      readNames_append (comma_notMem_optionalBlank _), readNames_comma,
      trimBlanks_blanks k.isWord, readNames_append (comma_notMem_optionalBlank _), List.nil_append,
      ih]
    rfl

/-- The server reads the keys as they were registered. -/
theorem columnList_text (reg : Registration) :
    columnList reg.text = reg.keys.map fun k ↦ k.text := by
  have hne : reg.text ≠ [] := by
    obtain ⟨k, rest⟩ := reg
    rcases rest with _ | ⟨p, rest⟩
    · exact k.text_ne_nil
    · exact List.append_ne_nil_of_left_ne_nil
        (List.append_ne_nil_of_left_ne_nil k.text_ne_nil _) _
  rw [columnList, if_neg hne]
  exact readNames_argumentText false reg.first reg.rest

/-- Names that were joined are read one by one. -/
theorem columnList_joinNames {names : List Bytes} (hne : names ≠ [])
    (h : ∀ name ∈ names, commaByte ∉ name ∧ name ≠ []) :
    columnList (joinNames names) = names.map trimBlanks := by
  have hread (names : List Bytes) (hne : names ≠ []) (h : ∀ name ∈ names, commaByte ∉ name) :
      readNames ((ascii ",").intercalate names) [] = names.map trimBlanks := by
    induction names with
    | nil => exact absurd rfl hne
    | cons name names ih =>
      obtain ⟨hname, hnames⟩ := List.forall_mem_cons.mp h
      rcases names with _ | ⟨next, names⟩
      · have hone := readNames_append hname [] []
        rw [List.append_nil] at hone
        rw [List.intercalate_singleton, hone]
        rfl
      · have hcomma : (ascii ",").intercalate (name :: next :: names)
            = name ++ commaByte :: (ascii ",").intercalate (next :: names) := by
          rw [List.intercalate_cons_cons, List.append_assoc]
          rfl
        rw [hcomma, readNames_append hname, readNames_comma, ih (List.cons_ne_nil _ _) hnames]
        rfl
  have htext : joinNames names ≠ [] := by
    obtain ⟨name, names, rfl⟩ := List.exists_cons_of_ne_nil hne
    rw [joinNames, dropLast_flatMap_comma]
    rcases names with _ | ⟨next, names⟩
    · rw [List.intercalate_singleton]
      exact (h name List.mem_cons_self).2
    · rw [List.intercalate_cons_cons]
      exact List.append_ne_nil_of_left_ne_nil
        (List.append_ne_nil_of_left_ne_nil (h name List.mem_cons_self).2 _) _
  rw [columnList, if_neg htext, joinNames, dropLast_flatMap_comma]
  exact hread names hne fun name hname ↦ (h name hname).1

end Ormpp
