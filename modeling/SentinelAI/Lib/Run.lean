import Mathlib.Logic.Basic

/-
  Runs of a labelled step relation. What one step preserves, a run preserves
  (`Steps.inv`); a run whose steps all meet a condition is a run of the guarded relation
  (`Guarded`), and a condition read off the end of a run is carried back to its start
  (`Steps.guarded_of_end`); a property that only bad steps take away holds throughout the runs
  without one (`throughout_iff`). `Occurs` says what happened in the run of a step function,
  `firstOf` what its steps reported first, and `tally` how much of something they took
  together.
-/

namespace SentinelAI.Lib

universe u v

variable {σ : Type u} {α : Type v}

/-- `Steps R s as t`: from `s` the steps `as`, in order, lead to `t`. -/
inductive Steps (R : σ → α → σ → Prop) : σ → List α → σ → Prop
  | nil (s : σ) : Steps R s [] s
  | cons {s t u : σ} {a : α} {as : List α} : R s a t → Steps R t as u → Steps R s (a :: as) u

/-- The steps of `R` taken where the condition `C` holds. -/
def Guarded (R : σ → α → σ → Prop) (C : σ → α → Prop) (s : σ) (a : α) (t : σ) : Prop :=
  R s a t ∧ C s a

namespace Steps

variable {R : σ → α → σ → Prop} {C : σ → α → Prop} {I J : σ → Prop}

/-- A run preserves what every step does. -/
theorem inv (hstep : ∀ s a t, R s a t → I s → I t) {s t : σ} {as : List α} (h : Steps R s as t)
    (hs : I s) : I t := by
  induction h with
  | nil s => exact hs
  | cons h₁ _ ih => exact ih (hstep _ _ _ h₁ hs)

/-- A guarded run is a run. -/
theorem unguarded {s t : σ} {as : List α} (h : Steps (Guarded R C) s as t) : Steps R s as t := by
  induction h with
  | nil s => exact nil s
  | cons h₁ _ ih => exact cons h₁.1 ih

/-- Two conditions that agree where an invariant holds guard the same runs, if the steps
    they allow preserve it. -/
theorem guarded_iff {C' : σ → α → Prop} (hiff : ∀ s a t, R s a t → I s → (C s a ↔ C' s a))
    (hinv : ∀ s a t, R s a t → I s → C s a → I t) {s t : σ} {as : List α} (hs : I s) :
    Steps (Guarded R C) s as t ↔ Steps (Guarded R C') s as t := by
  constructor
  · intro h
    induction h with
    | nil s => exact nil s
    | cons h₁ _ ih =>
      exact cons ⟨h₁.1, (hiff _ _ _ h₁.1 hs).mp h₁.2⟩ (ih (hinv _ _ _ h₁.1 hs h₁.2))
  · intro h
    induction h with
    | nil s => exact nil s
    | cons h₁ _ ih =>
      have hC := (hiff _ _ _ h₁.1 hs).mpr h₁.2
      exact cons ⟨h₁.1, hC⟩ (ih (hinv _ _ _ h₁.1 hs hC))

/-- A property that a step hands back to the state before it, together with the step's
    condition, is handed back along the whole run. -/
theorem guarded_of_end (hinv : ∀ s a t, R s a t → I s → I t)
    (hback : ∀ s a t, R s a t → I s → J t → J s ∧ C s a) {s t : σ} {as : List α}
    (h : Steps R s as t) (hs : I s) (ht : J t) : J s ∧ Steps (Guarded R C) s as t := by
  induction h with
  | nil s => exact ⟨ht, nil s⟩
  | cons h₁ _ ih =>
    obtain ⟨hJ, hg⟩ := ih (hinv _ _ _ h₁ hs) ht
    obtain ⟨hJs, hC⟩ := hback _ _ _ h₁ hs hJ
    exact ⟨hJs, cons ⟨h₁, hC⟩ hg⟩

end Steps

/-! ## What happened in a run -/

section

variable (step : σ → α → σ) (P : σ → α → Prop)

/-- Some step of the run was taken where `P` holds. -/
def Occurs : σ → List α → Prop
  | _, [] => False
  | s, a :: as => P s a ∨ Occurs (step s a) as

end

/-- The steps of a run all meet a condition if it holds wherever the run takes one. -/
theorem guarded_run_iff {step : σ → α → σ} {C : σ → α → Prop} {s : σ} {as : List α} :
    Steps (Guarded (fun s a t => t = step s a) C) s as (as.foldl step s) ↔
      ∀ before a after, as = before ++ a :: after → C (before.foldl step s) a := by
  induction as generalizing s with
  | nil =>
    refine ⟨fun _ before a after he => ?_, fun _ => Steps.nil s⟩
    have hlen := congrArg List.length he
    simp at hlen
  | cons b as ih =>
    constructor
    · intro h before a after he
      obtain _ | ⟨⟨rfl, hC⟩, hrest⟩ := h
      cases before with
      | nil =>
        cases he
        exact hC
      | cons b' before =>
        cases he
        exact ih.mp hrest before a after rfl
    · intro h
      refine Steps.cons ⟨rfl, h [] b as rfl⟩ (ih.mpr fun before a after he => ?_)
      exact h (b :: before) a after (by rw [he]; rfl)

/-- A property every step keeps, up to the steps that are bad, holds throughout a run exactly
    if the run has no bad step. -/
theorem throughout_iff {step : σ → α → σ} {I Good : σ → Prop} {P : α → Prop} {Bad : σ → α → Prop}
    (hinv : ∀ s a, I s → P a → I (step s a))
    (hstep : ∀ s a, I s → P a → Good s → (Good (step s a) ↔ ¬ Bad s a))
    {s : σ} {as : List α} (hs : I s) (hgood : Good s) (has : ∀ a ∈ as, P a) :
    (∀ before after, as = before ++ after → Good (before.foldl step s)) ↔
      ∀ before a after, as = before ++ a :: after → ¬ Bad (before.foldl step s) a := by
  induction as generalizing s with
  | nil =>
    constructor
    · intro _ before a after he
      have hlen := congrArg List.length he
      simp at hlen
    · intro _ before after he
      rw [(List.append_eq_nil_iff.mp he.symm).1]
      exact hgood
  | cons b as ih =>
    obtain ⟨hb, has⟩ := List.forall_mem_cons.mp has
    have hfirst := hstep s b hs hb hgood
    constructor
    · intro h before a after he
      have hnext : Good (step s b) := h [b] as rfl
      cases before with
      | nil =>
        cases he
        exact hfirst.mp hnext
      | cons b' before =>
        cases he
        refine (ih (hinv s _ hs hb) hnext has).mp (fun before' after' he' => ?_) before a after rfl
        exact h (_ :: before') after' (by rw [he']; rfl)
    · intro h before after he
      have hnext : Good (step s b) := hfirst.mpr (h [] b as rfl)
      cases before with
      | nil => exact hgood
      | cons b' before =>
        cases he
        refine (ih (hinv s _ hs hb) hnext has).mpr (fun before' a' after' he' => ?_) before after rfl
        exact h (_ :: before') a' after' (by rw [he']; rfl)

/-! ## What the steps of a run reported first -/

section

variable {τ : Type v} (step : σ → α → σ) (report : σ → α → Option τ)

/-- The first report of a run. -/
def firstOf : σ → List α → Option τ
  | _, [] => none
  | s, a :: as => (report s a).or (firstOf (step s a) as)

theorem firstOf_append (s : σ) (as bs : List α) :
    firstOf step report s (as ++ bs) =
      (firstOf step report s as).or (firstOf step report (as.foldl step s) bs) := by
  induction as generalizing s with
  | nil => rfl
  | cons a as ih =>
    show (report s a).or (firstOf step report (step s a) (as ++ bs)) = _
    rw [ih, firstOf, List.foldl_cons, Option.or_assoc]

variable {step report}

/-- A record every step writes its report to, unless it is written, holds at the end of a run
    the first report. -/
theorem Steps.first_eq {R : σ → α → σ → Prop} {m : σ → Option τ}
    (hstep : ∀ s a t, R s a t → t = step s a ∧ m t = (m s).or (report s a))
    {s t : σ} {as : List α} (h : Steps R s as t) : m t = (m s).or (firstOf step report s as) := by
  induction h with
  | nil s => rw [firstOf, Option.or_none]
  | cons h₁ _ ih =>
    obtain ⟨rfl, hm⟩ := hstep _ _ _ h₁
    rw [ih, hm, firstOf, Option.or_assoc]

end

/-! ## What the steps of a run took together -/

/-- The sum of what each step of the run took. -/
def tally (step : σ → α → σ) (cost : σ → α → Nat) : σ → List α → Nat
  | _, [] => 0
  | s, a :: as => cost s a + tally step cost (step s a) as

namespace Steps

variable {R : σ → α → σ → Prop} {step : σ → α → σ} {cost cost' : σ → α → Nat}

/-- A quantity that every step raises by what the step took has at the end of a run grown by
    what the run took. -/
theorem tally_eq {m : σ → Int}
    (hstep : ∀ s a t, R s a t → t = step s a ∧ m t = m s + cost s a)
    {s t : σ} {as : List α} (h : Steps R s as t) : m t = m s + tally step cost s as := by
  induction h with
  | nil s => simp [tally]
  | cons h₁ _ ih =>
    obtain ⟨rfl, hm⟩ := hstep _ _ _ h₁
    rw [ih, hm, tally]
    omega

theorem tally_le (hstep : ∀ s a t, R s a t → t = step s a ∧ cost s a ≤ cost' s a)
    {s t : σ} {as : List α} (h : Steps R s as t) :
    tally step cost s as ≤ tally step cost' s as := by
  induction h with
  | nil s => exact Nat.le_refl _
  | cons h₁ _ ih =>
    obtain ⟨rfl, hcost⟩ := hstep _ _ _ h₁
    rw [tally, tally]
    exact Nat.add_le_add hcost ih

end Steps

theorem tally_append (step : σ → α → σ) (cost : σ → α → Nat) (s : σ) (as bs : List α) :
    tally step cost s (as ++ bs) =
      tally step cost s as + tally step cost (as.foldl step s) bs := by
  induction as generalizing s with
  | nil =>
    show tally step cost s bs = 0 + tally step cost s bs
    omega
  | cons a as ih =>
    show cost s a + tally step cost (step s a) (as ++ bs) = _
    rw [ih, tally, List.foldl_cons]
    omega

/-- What a run took, one of its steps took. -/
theorem exists_of_tally_pos {step : σ → α → σ} {cost : σ → α → Nat} {s : σ} {as : List α}
    (h : 0 < tally step cost s as) :
    ∃ before a after, as = before ++ a :: after ∧ 0 < cost (before.foldl step s) a := by
  induction as generalizing s with
  | nil => exact absurd h (Nat.lt_irrefl 0)
  | cons a as ih =>
    by_cases ha : 0 < cost s a
    · exact ⟨[], a, as, rfl, ha⟩
    · have hrest : 0 < tally step cost (step s a) as := by
        rw [tally] at h
        omega
      obtain ⟨before, b, after, rfl, hb⟩ := ih hrest
      exact ⟨a :: before, b, after, rfl, hb⟩

theorem tally_add (step : σ → α → σ) (cost cost' : σ → α → Nat) (s : σ) (as : List α) :
    tally step (fun s a => cost s a + cost' s a) s as =
      tally step cost s as + tally step cost' s as := by
  induction as generalizing s with
  | nil => rfl
  | cons a as ih =>
    rw [tally, tally, tally, ih]
    omega

theorem tally_mul (step : σ → α → σ) (n : Nat) (cost : σ → α → Nat) (s : σ) (as : List α) :
    tally step (fun s a => n * cost s a) s as = n * tally step cost s as := by
  induction as generalizing s with
  | nil => rfl
  | cons a as ih => rw [tally, tally, ih, Nat.mul_add]

end SentinelAI.Lib
