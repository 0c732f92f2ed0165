import SentinelAI.Lib.Run

/-
  A run and its history. An invariant may speak of what has happened so far as well as of the
  state reached: a step extends both (`Steps.along`). What a step in the middle of a run did is
  read off the invariant there (`Steps.at_step`).
-/

namespace SentinelAI.Lib

universe u v

variable {σ : Type u} {α : Type v} {R : σ → α → σ → Prop} {I : List α → σ → Prop}

namespace Steps

/-- What one step carries from a history and state to the next, a run carries. -/
theorem along (hstep : ∀ past s a t, R s a t → I past s → I (past ++ [a]) t) {s t : σ}
    {past as : List α} (h : Steps R s as t) (hs : I past s) : I (past ++ as) t := by
  induction h generalizing past with
  | nil s =>
    rw [List.append_nil]
    exact hs
  | cons h₁ _ ih =>
    have hnext := ih (hstep past _ _ _ h₁ hs)
    rwa [List.append_assoc] at hnext

/-- A run stops anywhere on its way. -/
theorem split {s u : σ} {as bs : List α} (h : Steps R s (as ++ bs) u) :
    ∃ t, Steps R s as t ∧ Steps R t bs u := by
  induction as generalizing s with
  | nil => exact ⟨s, nil s, h⟩
  | cons a as ih =>
    cases h with
    | cons h₁ hrest =>
      obtain ⟨t, has, hbs⟩ := ih hrest
      exact ⟨t, cons h₁ has, hbs⟩

/-- Where a run takes a step, the invariant holds of the history before it. -/
theorem at_step (hstep : ∀ past s a t, R s a t → I past s → I (past ++ [a]) t) {s u : σ}
    {before after : List α} {a : α} (h : Steps R s (before ++ a :: after) u) (hs : I [] s) :
    ∃ t t', I before t ∧ R t a t' := by
  obtain ⟨t, hbefore, hrest⟩ := split h
  cases hrest with
  | cons h₁ _ => exact ⟨t, _, along hstep hbefore hs, h₁⟩

end Steps

end SentinelAI.Lib
