import Mathlib.Tactic

/-!
# Cursor decoders

A decoder reads tokens from the front of a sequence and either returns a value together with what
it left unread, or fails. The cursor is the unread suffix, so a decoder can neither step past the
end nor move back.

`Decodes d ts a` says that `ts` is an encoding of `a` for `d`: whatever follows it, `d` returns `a`
and leaves exactly what follows. Encodings compose as the decoders do, which is what a round-trip
proof for a record or a list of fields needs.
-/

namespace Ormpp

universe u v

/-- A decoder of values of type `α` from tokens of type `τ` that fails with an `ε`. -/
abbrev Decoder (ε τ α : Type) := StateT (List τ) (Except ε) α

namespace Decoder

variable {ε τ α β : Type}

theorem run_bind_ok {d : Decoder ε τ α} {f : α → Decoder ε τ β} {ts ts' : List τ} {a : α}
    (h : d.run ts = .ok (a, ts')) : (d >>= f).run ts = (f a).run ts' := by
  rw [StateT.run_bind, h]
  rfl

theorem run_bind_error {d : Decoder ε τ α} {f : α → Decoder ε τ β} {ts : List τ} {e : ε}
    (h : d.run ts = .error e) : (d >>= f).run ts = .error e := by
  rw [StateT.run_bind, h]
  rfl

theorem run_bind_eq_ok {d : Decoder ε τ α} {f : α → Decoder ε τ β} {ts ts'' : List τ} {b : β}
    (h : (d >>= f).run ts = .ok (b, ts'')) :
    ∃ a ts', d.run ts = .ok (a, ts') ∧ (f a).run ts' = .ok (b, ts'') := by
  generalize hd : d.run ts = r at h
  obtain e | ⟨a, ts'⟩ := r
  · rw [run_bind_error hd] at h
    exact absurd h nofun
  · rw [run_bind_ok hd] at h
    exact ⟨a, ts', rfl, h⟩

/-- Looking at what is left does not move the cursor. -/
theorem run_get_bind {f : List τ → Decoder ε τ β} {ts : List τ} :
    ((get : Decoder ε τ (List τ)) >>= f).run ts = (f ts).run ts := rfl

/-- `ts` is an encoding of `a`: in front of anything, it is read as `a` and nothing more is. -/
def Decodes (d : Decoder ε τ α) (ts : List τ) (a : α) : Prop :=
  ∀ rest, d.run (ts ++ rest) = .ok (a, rest)

/-- An encoding that ends the input is read completely. -/
theorem Decodes.run_self {d : Decoder ε τ α} {ts : List τ} {a : α} (h : Decodes d ts a) :
    d.run ts = .ok (a, []) := by
  simpa using h []

theorem Decodes.pure (a : α) : Decodes (Pure.pure a : Decoder ε τ α) [] a := fun _ ↦ rfl

theorem Decodes.bind {d : Decoder ε τ α} {f : α → Decoder ε τ β} {ts us : List τ} {a : α} {b : β}
    (hd : Decodes d ts a) (hf : Decodes (f a) us b) : Decodes (d >>= f) (ts ++ us) b := by
  intro rest
  rw [List.append_assoc, run_bind_ok (hd _), hf rest]

theorem Decodes.map {d : Decoder ε τ α} {ts : List τ} {a : α} (g : α → β) (hd : Decodes d ts a) :
    Decodes (g <$> d) ts (g a) := by
  intro rest
  rw [StateT.run_map, hd rest]
  rfl

/-! ## Counted repetition -/

/-- Run a decoder a given number of times, collecting the values in order. -/
def repeatN (d : Decoder ε τ α) : ℕ → Decoder ε τ (List α)
  | 0 => Pure.pure []
  | n + 1 => do
    let a ← d
    let as ← repeatN d n
    Pure.pure (a :: as)

/-- A list whose elements are encoded one after the other is read back by counting them. -/
theorem decodes_repeatN {d : Decoder ε τ α} {encode : α → List τ} {as : List α}
    (h : ∀ a ∈ as, Decodes d (encode a) a) :
    Decodes (repeatN d as.length) (as.flatMap encode) as := by
  induction as with
  | nil => exact Decodes.pure []
  | cons a as ih =>
    obtain ⟨ha, has⟩ := List.forall_mem_cons.mp h
    have hrest : Decodes (do let as ← repeatN d as.length; Pure.pure (a :: as))
        (as.flatMap encode ++ []) (a :: as) :=
      (ih has).bind (Decodes.pure _)
    rw [List.append_nil] at hrest
    exact ha.bind hrest

end Decoder

end Ormpp
