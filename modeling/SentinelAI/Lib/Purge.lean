import Mathlib.Data.List.Basic

/-
  Noninterference by unwinding. A deterministic system, some of whose actions are the
  observer's. If what the others do does not move the observer's view, and what the
  observer does is answered from the view and moves it alike, then the observer gets the
  answers of a run from which the others' actions have been taken out.

  The two conditions may rest on a precondition of each step (`C`) and on one of each of
  the observer's actions that holds wherever it is taken (`D`).
-/

namespace SentinelAI.Lib

universe u v w

variable {σ : Type u} {α : Type v} {β : Type w}

/-- What the observer's actions are answered, over a run. -/
def outputs (step : σ → α → σ) (out : σ → α → β) (mine : α → Bool) : σ → List α → List β
  | _, [] => []
  | s, a :: as =>
    if mine a then out s a :: outputs step out mine (step s a) as
    else outputs step out mine (step s a) as

/-- Taking out the others' actions changes neither the answers nor the view. -/
theorem outputs_purge (step : σ → α → σ) (out : σ → α → β) (mine : α → Bool)
    {V : σ → σ → Prop} {C : σ → α → Prop} {D : α → Prop}
    (hother : ∀ s t a, mine a = false → C s a → V s t → V (step s a) t)
    (hmine : ∀ s t a, mine a = true → C s a → D a → V s t →
      out s a = out t a ∧ V (step s a) (step t a)) :
    ∀ (as : List α) (s t : σ), V s t →
      (∀ before a after, as = before ++ a :: after → C (before.foldl step s) a) →
      (∀ a ∈ as, mine a = true → D a) →
      outputs step out mine s as = outputs step out mine t (as.filter mine) ∧
        V (as.foldl step s) ((as.filter mine).foldl step t)
  | [], _, _, hV, _, _ => ⟨rfl, hV⟩
  | a :: as, s, t, hV, hC, hD => by
      have hCa : C s a := hC [] a as rfl
      have hCas : ∀ before b after, as = before ++ b :: after →
          C (before.foldl step (step s a)) b :=
        fun before b after he => hC (a :: before) b after (by rw [he]; rfl)
      have hDas : ∀ b ∈ as, mine b = true → D b := fun b hb => hD b (List.mem_cons_of_mem a hb)
      cases ha : mine a with
      | true =>
        obtain ⟨hout, hV'⟩ := hmine s t a ha hCa (hD a (List.mem_cons_self ..) ha) hV
        obtain ⟨ho, hv⟩ := outputs_purge step out mine hother hmine as _ _ hV' hCas hDas
        rw [List.filter_cons_of_pos ha]
        refine ⟨?_, hv⟩
        simp only [outputs, ha, if_true, hout, ho]
      | false =>
        obtain ⟨ho, hv⟩ := outputs_purge step out mine hother hmine as _ _ (hother s t a ha hCa hV) hCas hDas
        rw [List.filter_cons_of_neg (by simp [ha])]
        refine ⟨?_, hv⟩
        simp only [outputs, ha, Bool.false_eq_true, if_false, ho]

end SentinelAI.Lib
