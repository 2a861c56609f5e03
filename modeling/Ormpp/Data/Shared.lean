import Ormpp.Data.Run

/-!
# Two parties that share a state

Two parties call the operations of one object in any order. A party observes what its own calls
return, and it observes the same as if it were alone as long as the calls of the other leave the
state as they find it.
-/

namespace Ormpp

namespace Shared

inductive Party
  | a
  | b
  deriving DecidableEq

variable {σ κ ο : Type} (step : σ → κ → σ × ο)

/-- What the calls of a party return in an interleaving. -/
def observed (who : Party) : σ → List (Party × κ) → List ο
  | _, [] => []
  | s, (party, call) :: rest =>
    if party = who then (step s call).2 :: observed who (step s call).1 rest
    else observed who (step s call).1 rest

/-- What the calls return if no others are made. -/
def alone : σ → List κ → List ο
  | _, [] => []
  | s, call :: rest => (step s call).2 :: alone (step s call).1 rest

/-- The calls of a party. -/
def calls (who : Party) (events : List (Party × κ)) : List κ :=
  (events.filter fun event ↦ event.1 = who).map Prod.snd

/-- Where the state meets a call, the property holds of the calls that another party makes. -/
def Along (P : σ → κ → Prop) (who : Party) (s : σ) (events : List (Party × κ)) : Prop :=
  Run.Along (fun s event ↦ (step s event.2).1) (fun s event ↦ event.1 ≠ who → P s event.2) s events

theorem observed_eq_alone {who : Party} {s : σ} {events : List (Party × κ)}
    (h : Along step (fun s call ↦ (step s call).1 = s) who s events) :
    observed step who s events = alone step s (calls who events) := by
  induction events generalizing s with
  | nil => rfl
  | cons event rest ih =>
    obtain ⟨party, call⟩ := event
    obtain ⟨hstep, hrest⟩ := h
    have hobserved : observed step who (step s call).1 rest
        = alone step (step s call).1 (calls who rest) := ih hrest
    by_cases hparty : party = who
    · subst hparty
      have hcalls : calls party ((party, call) :: rest) = call :: calls party rest := by
        simp [calls]
      rw [hcalls, observed, alone, if_pos rfl, hobserved]
    · have hcalls : calls who ((party, call) :: rest) = calls who rest := by
        simp [calls, hparty]
      rw [hcalls, observed, if_neg hparty, hobserved]
      exact congrArg (fun s' ↦ alone step s' (calls who rest)) (hstep hparty)

end Shared

end Ormpp
