import Mathlib.Data.List.Forall2
import Mathlib.Order.Defs.Unbundled

/-
  Reasoning about computations that may raise and keep their state when they do
  (`EStateM` with its default, non-backtracking `Backtrackable` instance).

  Three views of one computation:
  * inversion: what a run that returned, or raised, went through (`run_bind_eq_ok`);
  * `Moves R`: every run, however it ends, takes its state along the preorder `R`;
  * `Agree R Q`: two computations started in related states end alike, with related
    results and in related states. Noninterference is `Agree` of an operation with itself.
-/

namespace SentinelAI.Lib

universe u

variable {ε σ α β γ : Type u}

/-- The state a run ends in. -/
def stateOf : EStateM.Result ε σ α → σ
  | .ok _ s => s
  | .error _ s => s

/-! ## Inversion -/

@[simp] theorem run_throw (e : ε) (s : σ) :
    (throw e : EStateM ε σ α).run s = .error e s := rfl

theorem run_bind_ok {x : EStateM ε σ α} {f : α → EStateM ε σ β} {s t : σ} {a : α}
    (h : x.run s = .ok a t) : (x >>= f).run s = (f a).run t := by
  rw [EStateM.run_bind, h]

theorem run_bind_error {x : EStateM ε σ α} {f : α → EStateM ε σ β} {s t : σ} {e : ε}
    (h : x.run s = .error e t) : (x >>= f).run s = .error e t := by
  rw [EStateM.run_bind, h]

theorem run_bind_eq_ok {x : EStateM ε σ α} {f : α → EStateM ε σ β} {s t : σ} {b : β} :
    (x >>= f).run s = .ok b t ↔ ∃ a u, x.run s = .ok a u ∧ (f a).run u = .ok b t := by
  rw [EStateM.run_bind]
  cases h : x.run s with
  | ok a u =>
    constructor
    · intro hf
      exact ⟨a, u, rfl, hf⟩
    · rintro ⟨a', u', he, hf⟩
      cases he
      exact hf
  | error e u =>
    constructor
    · intro hf
      cases hf
    · rintro ⟨a', u', he, _⟩
      cases he

/-- Rests that run alike after what the first step returns. -/
theorem run_bind_congr {x : EStateM ε σ α} {f f' : α → EStateM ε σ β} {s : σ}
    (h : ∀ a t, x.run s = .ok a t → (f a).run t = (f' a).run t) :
    (x >>= f).run s = (x >>= f').run s := by
  rw [EStateM.run_bind, EStateM.run_bind]
  cases hx : x.run s with
  | ok a t => exact h a t hx
  | error e t => rfl

theorem run_map (f : α → β) (x : EStateM ε σ α) (s : σ) :
    (f <$> x).run s = match x.run s with
      | .ok a t => .ok (f a) t
      | .error e t => .error e t := by
  show (x >>= fun a => pure (f a)).run s = _
  rw [EStateM.run_bind]
  cases x.run s <;> rfl

theorem run_map_eq_ok {f : α → β} {x : EStateM ε σ α} {s t : σ} {b : β} :
    (f <$> x).run s = .ok b t ↔ ∃ a, x.run s = .ok a t ∧ f a = b := by
  rw [run_map]
  cases x.run s <;> simp [and_comm]

theorem run_tryCatch (x : EStateM ε σ α) (f : ε → EStateM ε σ α) (s : σ) :
    (tryCatch x f).run s = match x.run s with
      | .ok a t => .ok a t
      | .error e t => (f e).run t := by
  show EStateM.tryCatch x f s = _
  delta EStateM.tryCatch EStateM.run
  dsimp only
  cases x s <;> rfl

theorem mapM_cons_eq_ok {f : γ → EStateM ε σ β} {c : γ} {cs : List γ} {s t : σ} {bs : List β} :
    ((c :: cs).mapM f).run s = .ok bs t ↔
      ∃ b u bs', (f c).run s = .ok b u ∧ (cs.mapM f).run u = .ok bs' t ∧ bs = b :: bs' := by
  rw [List.mapM_cons, run_bind_eq_ok]
  constructor
  · rintro ⟨b, u, hb, h⟩
    obtain ⟨bs', v, hbs, hret⟩ := run_bind_eq_ok.mp h
    cases hret
    exact ⟨b, u, bs', hb, hbs, rfl⟩
  · rintro ⟨b, u, bs', hb, hbs, rfl⟩
    exact ⟨b, u, hb, run_bind_ok hbs⟩

/-- A traversal whose steps all return, each with a value related to its item. -/
theorem mapM_run_ok {Q : γ → β → Prop} {f : γ → EStateM ε σ β} :
    ∀ cs : List γ, (∀ c ∈ cs, ∀ s, ∃ b t, (f c).run s = .ok b t ∧ Q c b) →
      ∀ s, ∃ bs t, (cs.mapM f).run s = .ok bs t ∧ List.Forall₂ Q cs bs
  | [], _, s => ⟨[], s, rfl, List.Forall₂.nil⟩
  | c :: cs, hf, s => by
      obtain ⟨hc, hcs⟩ := List.forall_mem_cons.mp hf
      obtain ⟨b, t, hb, hQ⟩ := hc s
      obtain ⟨bs, u, hbs, hQs⟩ := mapM_run_ok cs hcs t
      refine ⟨b :: bs, u, ?_, List.Forall₂.cons hQ hQs⟩
      rw [List.mapM_cons, run_bind_ok hb, run_bind_ok hbs]
      rfl

/-- A traversal whose steps only read. -/
theorem mapM_run_read {f : γ → EStateM ε σ β} {g : γ → β} {s : σ}
    (hf : ∀ c, (f c).run s = .ok (g c) s) : ∀ cs : List γ, (cs.mapM f).run s = .ok (cs.map g) s
  | [] => rfl
  | c :: cs => by
      rw [List.mapM_cons, run_bind_ok (hf c), run_bind_ok (mapM_run_read hf cs)]
      rfl

/-! ## Moves -/

/-- However it ends, `m` takes its state along `R`. -/
def Moves (R : σ → σ → Prop) (m : EStateM ε σ α) : Prop := ∀ s, R s (stateOf (m.run s))

namespace Moves

variable {R : σ → σ → Prop}

theorem of_ok {m : EStateM ε σ α} {s t : σ} {a : α} (hm : Moves R m) (h : m.run s = .ok a t) :
    R s t := by
  have := hm s
  rwa [h] at this

theorem of_error {m : EStateM ε σ α} {s t : σ} {e : ε} (hm : Moves R m)
    (h : m.run s = .error e t) : R s t := by
  have := hm s
  rwa [h] at this

variable [IsPreorder σ R]

theorem pure (a : α) : Moves R (Pure.pure a : EStateM ε σ α) := fun s => refl_of R s

theorem throw (e : ε) : Moves R (MonadExcept.throw e : EStateM ε σ α) := fun s => refl_of R s

theorem bind {x : EStateM ε σ α} {f : α → EStateM ε σ β} (hx : Moves R x)
    (hf : ∀ a, Moves R (f a)) : Moves R (x >>= f) := by
  intro s
  rw [EStateM.run_bind]
  cases h : x.run s with
  | ok a t => exact trans_of R (hx.of_ok h) (hf a t)
  | error e t => exact hx.of_error h

theorem map {x : EStateM ε σ α} (f : α → β) (hx : Moves R x) : Moves R (f <$> x) :=
  bind hx fun a => pure (f a)

omit [IsPreorder σ R] in
theorem ite {c : Prop} [Decidable c] {x y : EStateM ε σ α} (hx : Moves R x) (hy : Moves R y) :
    Moves R (if c then x else y) := by
  split
  · exact hx
  · exact hy

/-- A handler that catches what `x` raises: `x`'s effects on the state stay. -/
theorem tryCatch {x : EStateM ε σ α} {f : ε → EStateM ε σ α} (hx : Moves R x)
    (hf : ∀ e, Moves R (f e)) : Moves R (MonadExcept.tryCatch x f) := by
  intro s
  rw [run_tryCatch]
  cases h : x.run s with
  | ok a t => exact hx.of_ok h
  | error e t => exact trans_of R (hx.of_error h) (hf e t)

theorem mapM_mem {f : γ → EStateM ε σ β} :
    ∀ cs : List γ, (∀ c ∈ cs, Moves R (f c)) → Moves R (cs.mapM f)
  | [], _ => by
      rw [List.mapM_nil]
      exact pure []
  | c :: cs, hf => by
      rw [List.mapM_cons]
      obtain ⟨hc, hcs⟩ := List.forall_mem_cons.mp hf
      exact bind hc fun b => bind (mapM_mem cs hcs) fun bs => pure (b :: bs)

theorem mapM {f : γ → EStateM ε σ β} (hf : ∀ c, Moves R (f c)) (cs : List γ) :
    Moves R (cs.mapM f) := mapM_mem cs fun c _ => hf c

theorem forM_mem {f : γ → EStateM ε σ PUnit} :
    ∀ cs : List γ, (∀ c ∈ cs, Moves R (f c)) → Moves R (cs.forM f)
  | [], _ => pure _
  | c :: cs, hf => by
      show Moves R (f c >>= fun _ => cs.forM f)
      obtain ⟨hc, hcs⟩ := List.forall_mem_cons.mp hf
      exact bind hc fun _ => forM_mem cs hcs

theorem forM {f : γ → EStateM ε σ PUnit} (hf : ∀ c, Moves R (f c)) (cs : List γ) :
    Moves R (cs.forM f) := forM_mem cs fun c _ => hf c

end Moves

/-! ## What a computation returns -/

/-- Every value `m` returns satisfies `Q`. -/
def Yields (Q : α → Prop) (m : EStateM ε σ α) : Prop := ∀ s a t, m.run s = .ok a t → Q a

namespace Yields

variable {Q : α → Prop}

theorem pure {a : α} (h : Q a) : Yields Q (Pure.pure a : EStateM ε σ α) := by
  intro s b t hb
  cases hb
  exact h

theorem bind {Q' : β → Prop} {x : EStateM ε σ α} {f : α → EStateM ε σ β} (hx : Yields Q x)
    (hf : ∀ a, Q a → Yields Q' (f a)) : Yields Q' (x >>= f) := by
  intro s b t hb
  obtain ⟨a, u, ha, hfa⟩ := run_bind_eq_ok.mp hb
  exact hf a (hx s a u ha) u b t hfa

/-- Whatever `x` returns. -/
theorem bind_any {Q' : β → Prop} {x : EStateM ε σ α} {f : α → EStateM ε σ β}
    (hf : ∀ a, Yields Q' (f a)) : Yields Q' (x >>= f) :=
  bind (Q := fun _ => True) (fun _ _ _ _ => trivial) fun a _ => hf a

theorem mapM {Q : β → Prop} {f : γ → EStateM ε σ β} (hf : ∀ c, Yields Q (f c)) :
    ∀ cs : List γ, Yields (fun bs => ∀ b ∈ bs, Q b) (cs.mapM f)
  | [] => by
      rw [List.mapM_nil]
      exact pure (by simp)
  | c :: cs => by
      rw [List.mapM_cons]
      refine bind (hf c) fun b hb => bind (mapM hf cs) fun bs hbs => pure ?_
      exact List.forall_mem_cons.mpr ⟨hb, hbs⟩

end Yields

/-- A step whose value is known to satisfy `Q`. -/
theorem Moves.bind_yields {R : σ → σ → Prop} [IsPreorder σ R] {Q : α → Prop}
    {x : EStateM ε σ α} {f : α → EStateM ε σ β} (hx : Moves R x) (hq : Yields Q x)
    (hf : ∀ a, Q a → Moves R (f a)) : Moves R (x >>= f) := by
  intro s
  rw [EStateM.run_bind]
  cases h : x.run s with
  | ok a t => exact trans_of R (hx.of_ok h) (hf a (hq s a t h) t)
  | error e t => exact hx.of_error h

/-! ## Agree -/

/-- Results that agree: both returned, related by `Q`, or both raised the same; the states
    related by `R` either way. -/
def Matches (R : σ → σ → Prop) (Q : α → β → Prop) :
    EStateM.Result ε σ α → EStateM.Result ε σ β → Prop
  | .ok a s, .ok b t => Q a b ∧ R s t
  | .error e s, .error e' t => e = e' ∧ R s t
  | _, _ => False

theorem Matches.imp {R R' : σ → σ → Prop} {Q : α → β → Prop} {x : EStateM.Result ε σ α}
    {y : EStateM.Result ε σ β} (h : Matches R Q x y) (hR : ∀ s t, R s t → R' s t) :
    Matches R' Q x y := by
  cases x with
  | ok a s =>
    cases y with
    | ok b t => exact ⟨h.1, hR s t h.2⟩
    | error e t => exact h.elim
  | error e s =>
    cases y with
    | ok b t => exact h.elim
    | error e' t => exact ⟨h.1, hR s t h.2⟩

/-- From related states, `m` and `n` end alike. -/
def Agree (R : σ → σ → Prop) (Q : α → β → Prop) (m : EStateM ε σ α) (n : EStateM ε σ β) : Prop :=
  ∀ s t, R s t → Matches R Q (m.run s) (n.run t)

namespace Agree

variable {R : σ → σ → Prop}

theorem pure {Q : α → β → Prop} {a : α} {b : β} (h : Q a b) :
    Agree (ε := ε) R Q (Pure.pure a) (Pure.pure b) := fun _ _ hst => ⟨h, hst⟩

theorem throw (Q : α → β → Prop) (e : ε) :
    Agree R Q (MonadExcept.throw e) (MonadExcept.throw e) := fun _ _ hst => ⟨rfl, hst⟩

theorem bind {α' β' : Type u} {Q : α → β → Prop} {Q' : α' → β' → Prop} {x : EStateM ε σ α}
    {y : EStateM ε σ β} {f : α → EStateM ε σ α'} {g : β → EStateM ε σ β'} (hx : Agree R Q x y)
    (hf : ∀ a b, Q a b → Agree R Q' (f a) (g b)) : Agree R Q' (x >>= f) (y >>= g) := by
  intro s t hst
  have h := hx s t hst
  rw [EStateM.run_bind, EStateM.run_bind]
  cases hxs : x.run s with
  | ok a s' =>
    cases hyt : y.run t with
    | ok b t' =>
      rw [hxs, hyt] at h
      exact hf a b h.1 s' t' h.2
    | error e t' =>
      rw [hxs, hyt] at h
      exact h.elim
  | error e s' =>
    cases hyt : y.run t with
    | ok b t' =>
      rw [hxs, hyt] at h
      exact h.elim
    | error e' t' =>
      rw [hxs, hyt] at h
      exact h

/-- A first step with the same result on both sides. -/
theorem bind_eq {α' β' : Type u} {Q' : α' → β' → Prop} {x : EStateM ε σ α}
    {f : α → EStateM ε σ α'} {g : α → EStateM ε σ β'} (hx : Agree R Eq x x)
    (hf : ∀ a, Agree R Q' (f a) (g a)) : Agree R Q' (x >>= f) (x >>= g) :=
  bind hx fun a _ h => h ▸ hf a

theorem map {α' β' : Type u} {Q : α → β → Prop} {Q' : α' → β' → Prop} {x : EStateM ε σ α}
    {y : EStateM ε σ β} (f : α → α') (g : β → β') (hx : Agree R Q x y)
    (hq : ∀ a b, Q a b → Q' (f a) (g b)) : Agree R Q' (f <$> x) (g <$> y) :=
  bind hx fun a b h => pure (hq a b h)

theorem forM_mem {f : γ → EStateM ε σ PUnit} :
    ∀ cs : List γ, (∀ c ∈ cs, Agree R Eq (f c) (f c)) → Agree R Eq (cs.forM f) (cs.forM f)
  | [], _ => pure rfl
  | c :: cs, hf => by
      show Agree R Eq (f c >>= fun _ => cs.forM f) (f c >>= fun _ => cs.forM f)
      obtain ⟨hc, hcs⟩ := List.forall_mem_cons.mp hf
      exact bind_eq hc fun _ => forM_mem cs hcs

theorem ite {Q : α → β → Prop} {c : Prop} [Decidable c] {x y : EStateM ε σ α}
    {x' y' : EStateM ε σ β} (hx : Agree R Q x x') (hy : Agree R Q y y') :
    Agree R Q (if c then x else y) (if c then x' else y') := by
  split
  · exact hx
  · exact hy

theorem mono {Q Q' : α → β → Prop} {m : EStateM ε σ α} {n : EStateM ε σ β} (h : Agree R Q m n)
    (hq : ∀ a b, Q a b → Q' a b) : Agree R Q' m n := by
  intro s t hst
  have := h s t hst
  cases hm : m.run s with
  | ok a s' =>
    cases hn : n.run t with
    | ok b t' =>
      rw [hm, hn] at this
      exact ⟨hq a b this.1, this.2⟩
    | error e t' => rw [hm, hn] at this; exact this.elim
  | error e s' =>
    cases hn : n.run t with
    | ok b t' => rw [hm, hn] at this; exact this.elim
    | error e' t' => rw [hm, hn] at this; exact this

end Agree

end SentinelAI.Lib
