import Ormpp.Bind.Escape
import Ormpp.Conninfo.Grammar

/-!
# Connecting to PostgreSQL

`connect` puts its arguments into one string of `keyword=value` pairs, as they are, and libpq takes
the string apart again. It finds the arguments in it exactly when every one of them can be written
without quotes: an argument that is empty, or has a blank, a backslash or a NUL in it, or begins
with a quote, changes what is read, and the keyword behind an empty one is read as its value.
-/

namespace Ormpp

open Conninfo Sql

/-- The tuple that `connect` takes. -/
structure ConnParams where
  host : Bytes
  user : Bytes
  passwd : Bytes
  db : Bytes
  timeout : Option ℤ := none
  port : Option ℤ := none

namespace ConnParams

variable (p : ConnParams)

/-- `generate_conn_sql`. -/
def generateConnSql : Bytes :=
  let params := ascii "host=" ++ p.host ++ ascii " "
  let params := params ++ ascii "user=" ++ p.user ++ ascii " "
  let params := params ++ ascii "password=" ++ p.passwd ++ ascii " "
  let params := params ++ ascii "dbname=" ++ p.db ++ ascii " "
  let params := match p.timeout with
    | some timeout => params ++ ascii "connect_timeout=" ++ intText timeout ++ ascii " "
    | none => params
  let params := match p.port with
    | some port => params ++ ascii "port=" ++ intText port ++ ascii " "
    | none => params
  params.dropLast

/-- The pairs that the string is meant to have. -/
def pairs : List (Bytes × Bytes) :=
  [(ascii "host", p.host), (ascii "user", p.user), (ascii "password", p.passwd),
    (ascii "dbname", p.db)] ++
    (p.timeout.map fun n ↦ (ascii "connect_timeout", intText n)).toList ++
    (p.port.map fun n ↦ (ascii "port", intText n)).toList

/-- What libpq reads in the string, which `PQconnectdb` is given as far as its first NUL. -/
def parsed : List Token := parse (untilNul p.generateConnSql)

/-- libpq reads the arguments of `connect`. -/
def ReadAsMeant : Prop := p.parsed = p.pairs.map fun (k, v) ↦ .pair k v

instance : Decidable p.ReadAsMeant := inferInstanceAs (Decidable (_ = _))

/-- The value can be written without quotes. -/
def Writable (v : Bytes) : Prop := Encodable v ∧ 0 ∉ v

/-! ## The string -/

/-- The keywords that are written. -/
def keywords : List Bytes :=
  [ascii "host", ascii "user", ascii "password", ascii "dbname", ascii "connect_timeout",
    ascii "port"]

theorem fst_mem_keywords : ∀ q ∈ p.pairs, q.1 ∈ keywords := by
  intro q hq
  obtain ⟨host, user, passwd, db, _ | timeout, _ | port⟩ := p <;>
    simp only [pairs, Option.map_some, Option.map_none, Option.toList_some, Option.toList_none,
      List.mem_append, List.mem_cons, List.not_mem_nil, or_false] at hq <;>
    grind [keywords]

theorem generateConnSql_eq : p.generateConnSql = joined p.pairs := by
  have hblanks : p.generateConnSql = (p.pairs.flatMap fun q ↦ written q ++ [blank]).dropLast := by
    obtain ⟨host, user, passwd, db, _ | timeout, _ | port⟩ := p <;>
      simp [generateConnSql, pairs, written, ascii, blank]
  rw [hblanks, dropLast_flatMap_written]

/-- A byte that a digit or a dash is not. -/
theorem notMem_intText {c : Byte} (hdigit : isDigit c = false) (hdash : c ≠ 0x2d) (n : ℤ) :
    c ∉ intText n := by
  intro hc
  rcases n with n | n
  · simp [isDigit_of_mem_natText hc] at hdigit
  · obtain rfl | hc := List.mem_cons.mp hc
    · exact hdash rfl
    · simp [isDigit_of_mem_natText hc] at hdigit

theorem not_isDigit_of_isSpace {b : Byte} (h : isSpace b = true) :
    isDigit b = false ∧ b ≠ 0x2d := by
  simp only [isSpace, Bool.or_eq_true, Bool.and_eq_true, decide_eq_true_eq, beq_iff_eq,
    UInt8.le_iff_toNat_le] at h
  obtain rfl | ⟨-, hle⟩ := h
  · exact ⟨rfl, by decide⟩
  · have hlt : b.toNat < 0x2d := hle.trans_lt (by decide)
    constructor
    · rw [isDigit, Bool.and_eq_false_iff, decide_eq_false_iff_not, UInt8.le_iff_toNat_le]
      exact .inl (hlt.trans (by decide)).not_ge
    · rintro rfl
      exact lt_irrefl _ hlt

/-- A number can be written without quotes. -/
theorem writable_intText (n : ℤ) : Writable (intText n) := by
  have hne : intText n ≠ [] := by
    rcases n with n | n
    · exact natText_ne_nil n
    · exact List.cons_ne_nil _ _
  have hplain : ∀ b ∈ intText n, isPlain b = true := by
    intro b hb
    rw [isPlain, Bool.and_eq_true, Bool.not_eq_true', bne_iff_ne]
    constructor
    · by_contra hspace
      obtain ⟨hdigit, hdash⟩ := not_isDigit_of_isSpace (by simpa using hspace)
      exact notMem_intText hdigit hdash n hb
    · rintro rfl
      exact notMem_intText rfl (by decide) n hb
  refine ⟨⟨hne, fun hhead ↦ ?_, hplain⟩, notMem_intText rfl (by decide) n⟩
  exact notMem_intText rfl (by decide) n (List.mem_of_head? hhead)

/-! ## What is read -/

/-- Without a NUL in an argument, libpq is given the whole string. -/
theorem parsed_eq (h : ∀ q ∈ p.pairs, 0 ∉ q.2) : p.parsed = parse (joined p.pairs) := by
  have hkeywords : ∀ k ∈ keywords, 0 ∉ k := by decide
  have hzero : 0 ∉ joined p.pairs :=
    (notMem_joined_iff (by decide) (by decide) fun q hq ↦ hkeywords _ (p.fst_mem_keywords q hq)).mpr
      h
  have htake : untilNul (joined p.pairs ++ []) = joined p.pairs ++ untilNul [] :=
    List.takeWhile_append_of_pos fun b hb ↦ bne_iff_ne.mpr fun hb0 ↦ hzero (hb0 ▸ hb)
  rw [List.append_nil] at htake
  rw [parsed, generateConnSql_eq, htake]
  exact congrArg parse (List.append_nil _)

/-- What is read has no NUL in it. -/
theorem zero_notMem_of_readAsMeant (h : p.ReadAsMeant) : ∀ q ∈ p.pairs, 0 ∉ q.2 := by
  intro q hq hzero
  have htext : ∀ b ∈ untilNul p.generateConnSql, b ≠ 0 := fun b hb ↦
    bne_iff_ne.mp (List.all_eq_true.mp List.all_takeWhile b hb)
  have hmem : .pair q.1 q.2 ∈ p.parsed := by
    rw [h]
    exact List.mem_map_of_mem hq
  exact valuesFrom_output htext (by simp [Mode.acc]) q.1 q.2 hmem 0 hzero rfl

/-- **Reading the arguments back.** libpq reads in the string exactly the arguments of `connect`, if
and only if each of them can be written without quotes; the name of the database may be empty where
nothing follows it. -/
theorem readAsMeant_iff :
    p.ReadAsMeant ↔ Writable p.host ∧ Writable p.user ∧ Writable p.passwd ∧
      (Writable p.db ∨ p.db = [] ∧ p.timeout = none ∧ p.port = none) := by
  have hkeywords : ∀ k ∈ keywords, IsKeyword k := by decide
  have hparse := parse_joined_iff fun q hq ↦ hkeywords _ (p.fst_mem_keywords q hq)
  by_cases hzero : ∀ q ∈ p.pairs, 0 ∉ q.2
  · rw [ReadAsMeant, p.parsed_eq hzero, hparse]
    obtain ⟨host, user, passwd, db, _ | timeout, _ | port⟩ := p <;>
      simp_all [pairs, AllReadBack, Writable, (writable_intText _).1]
  · refine iff_of_false (fun h ↦ hzero (p.zero_notMem_of_readAsMeant h)) fun h ↦ hzero ?_
    obtain ⟨hhost, huser, hpasswd, hdb⟩ := h
    have hdb : 0 ∉ p.db := hdb.elim (fun h ↦ h.2) fun h ↦ by simp [h.1]
    simp [pairs, or_imp, forall_and, hhost.2, huser.2, hpasswd.2, hdb, (writable_intText _).2]

/-- A user without a password. -/
def withoutPassword : ConnParams where
  host := ascii "127.0.0.1"
  user := ascii "root"
  passwd := []
  db := ascii "test"

/-- The name of the database is read as the password, and no database is named. -/
theorem not_readAsMeant_withoutPassword :
    withoutPassword.parsed =
        [.pair (ascii "host") (ascii "127.0.0.1"), .pair (ascii "user") (ascii "root"),
          .pair (ascii "password") (ascii "dbname=test")] ∧
      ¬withoutPassword.ReadAsMeant := by
  decide

end ConnParams

end Ormpp
