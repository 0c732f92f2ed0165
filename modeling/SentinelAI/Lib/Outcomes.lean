import SentinelAI.Lib.Stateful

/-
  What a computation has done when it returns, and when it raises.

  `Returning R m` is about the runs of `m` that return: each takes its state along `R`.
  `Raising E R m` is about those that raise an exception of the kind `E`, and `Avoids E m`
  says there are none. After its last check a computation may change its state in any way
  (`Raising.bind`).
-/

namespace SentinelAI.Lib

universe u

variable {ε σ α β γ : Type u}

/-! ## Runs that return -/

/-- A run of `m` that returns takes its state along `R`. -/
def Returning (R : σ → σ → Prop) (m : EStateM ε σ α) : Prop :=
  ∀ s a t, m.run s = .ok a t → R s t

theorem Moves.returning {R : σ → σ → Prop} {m : EStateM ε σ α} (h : Moves R m) : Returning R m :=
  fun _ _ _ hrun => h.of_ok hrun

namespace Returning

variable {R R' R'' : σ → σ → Prop}

/-- Two steps, and what they do together. -/
theorem comp {x : EStateM ε σ α} {f : α → EStateM ε σ β} (hx : Returning R x)
    (hf : ∀ a, Returning R' (f a)) (hR : ∀ s t w, R s t → R' t w → R'' s w) :
    Returning R'' (x >>= f) := by
  intro s b w hrun
  obtain ⟨a, t, ha, hb⟩ := run_bind_eq_ok.mp hrun
  exact hR s t w (hx s a t ha) (hf a t b w hb)

end Returning

/-- A run of `m` that returns a value with `Q` has kept its state. -/
def KeepsIf (Q : α → Prop) (m : EStateM ε σ α) : Prop :=
  ∀ s a t, m.run s = .ok a t → Q a → t = s

namespace KeepsIf

variable {Q : α → Prop}

theorem pure (a : α) : KeepsIf Q (Pure.pure a : EStateM ε σ α) := by
  intro s b t hrun _
  cases hrun
  rfl

/-- A computation that returns no value with `Q`. -/
theorem of_yields {m : EStateM ε σ α} (h : Yields (fun a => ¬ Q a) m) : KeepsIf Q m :=
  fun s a t hrun hQ => absurd hQ (h s a t hrun)

/-- A first step that keeps its state. -/
theorem bind {x : EStateM ε σ γ} {f : γ → EStateM ε σ α}
    (hx : ∀ s c t, x.run s = .ok c t → t = s) (hf : ∀ c, KeepsIf Q (f c)) :
    KeepsIf Q (x >>= f) := by
  intro s a t hrun hQ
  obtain ⟨c, u, hc, ha⟩ := run_bind_eq_ok.mp hrun
  rw [hf c u a t ha hQ, hx s c u hc]

end KeepsIf

/-! ## Runs that raise -/

/-- `m` raises no exception of the kind. -/
def Avoids (E : ε → Prop) (m : EStateM ε σ α) : Prop := ∀ s e t, m.run s = .error e t → ¬ E e

/-- A run of `m` that raises an exception of the kind takes its state along `R`. -/
def Raising (E : ε → Prop) (R : σ → σ → Prop) (m : EStateM ε σ α) : Prop :=
  ∀ s e t, m.run s = .error e t → E e → R s t

theorem Avoids.raising {E : ε → Prop} {m : EStateM ε σ α} (h : Avoids E m)
    (R : σ → σ → Prop) : Raising E R m := fun s e t hrun he => absurd he (h s e t hrun)

theorem Moves.raising {R : σ → σ → Prop} {m : EStateM ε σ α} (h : Moves R m) (E : ε → Prop) :
    Raising E R m := fun _ _ _ hrun _ => h.of_error hrun

/-- What a sequence raises, its first step raised, or its second after the first returned. -/
theorem run_bind_eq_error {x : EStateM ε σ α} {f : α → EStateM ε σ β} {s t : σ} {e : ε} :
    (x >>= f).run s = .error e t ↔
      x.run s = .error e t ∨ ∃ a u, x.run s = .ok a u ∧ (f a).run u = .error e t := by
  rw [EStateM.run_bind]
  cases h : x.run s <;> simp

theorem run_map_eq_error {f : α → β} {x : EStateM ε σ α} {s t : σ} {e : ε} :
    (f <$> x).run s = .error e t ↔ x.run s = .error e t := by
  rw [run_map]
  cases x.run s <;> simp

namespace Avoids

variable {E : ε → Prop}

@[grind ←] theorem pure (a : α) : Avoids E (Pure.pure a : EStateM ε σ α) := by
  intro s e t h
  cases h

theorem throw {e : ε} (h : ¬ E e) : Avoids E (MonadExcept.throw e : EStateM ε σ α) := by
  intro s e' t hrun
  cases hrun
  exact h

@[grind ←] theorem bind {x : EStateM ε σ α} {f : α → EStateM ε σ β} (hx : Avoids E x)
    (hf : ∀ a, Avoids E (f a)) : Avoids E (x >>= f) := by
  intro s e t hrun
  obtain h | ⟨a, u, _, h⟩ := run_bind_eq_error.mp hrun
  · exact hx s e t h
  · exact hf a u e t h

@[grind ←] theorem map {x : EStateM ε σ α} (f : α → β) (hx : Avoids E x) : Avoids E (f <$> x) :=
  bind hx fun a => pure (f a)

theorem ite {c : Prop} [Decidable c] {x y : EStateM ε σ α} (hx : Avoids E x) (hy : Avoids E y) :
    Avoids E (if c then x else y) := by
  split
  · exact hx
  · exact hy

@[grind ←] theorem mapM {f : γ → EStateM ε σ β} (hf : ∀ c, Avoids E (f c)) :
    ∀ cs : List γ, Avoids E (cs.mapM f)
  | [] => by
      rw [List.mapM_nil]
      exact pure []
  | c :: cs => by
      rw [List.mapM_cons]
      exact bind (hf c) fun b => bind (mapM hf cs) fun bs => pure (b :: bs)

@[grind ←] theorem forM {f : γ → EStateM ε σ PUnit} (hf : ∀ c, Avoids E (f c)) :
    ∀ cs : List γ, Avoids E (cs.forM f)
  | [] => pure _
  | c :: cs => by
      show Avoids E (f c >>= fun _ => cs.forM f)
      exact bind (hf c) fun _ => forM hf cs

end Avoids

/-- Where `m` raises an exception of the kind, `m'` raises the same from the same state. -/
def RaisesAs (E : ε → Prop) (m m' : EStateM ε σ α) : Prop :=
  ∀ s e t, m.run s = .error e t → E e → m'.run s = .error e t

namespace RaisesAs

variable {E : ε → Prop}

theorem refl (m : EStateM ε σ α) : RaisesAs E m m := fun _ _ _ hrun _ => hrun

theorem of_avoids {m m' : EStateM ε σ α} (h : Avoids E m) : RaisesAs E m m' :=
  fun s e t hrun he => absurd he (h s e t hrun)

/-- The same first step, and rests that raise alike. -/
theorem bind {x : EStateM ε σ α} {f f' : α → EStateM ε σ β} (hf : ∀ a, RaisesAs E (f a) (f' a)) :
    RaisesAs E (x >>= f) (x >>= f') := by
  intro s e t hrun he
  obtain h | ⟨a, u, ha, h⟩ := run_bind_eq_error.mp hrun
  · exact run_bind_error h
  · rw [run_bind_ok ha]
    exact hf a u e t h he

theorem map {m m' : EStateM ε σ α} (f : α → β) (h : RaisesAs E m m') :
    RaisesAs E (f <$> m) (f <$> m') := by
  intro s e t hrun he
  exact run_map_eq_error.mpr (h s e t (run_map_eq_error.mp hrun) he)

end RaisesAs

namespace Raising

variable {E : ε → Prop} {R : σ → σ → Prop}

theorem map {x : EStateM ε σ α} (f : α → β) (hx : Raising E R x) : Raising E R (f <$> x) :=
  fun s e t hrun => hx s e t (run_map_eq_error.mp hrun)

/-- Each way the first step returns, either it has gone along `R` or nothing is raised after
    it. -/
theorem bind [IsPreorder σ R] {x : EStateM ε σ α} {f : α → EStateM ε σ β} (hx : Raising E R x)
    (hf : ∀ s a t, x.run s = .ok a t → R s t ∧ Raising E R (f a) ∨ Avoids E (f a)) :
    Raising E R (x >>= f) := by
  intro s e t hrun he
  obtain h | ⟨a, u, ha, h⟩ := run_bind_eq_error.mp hrun
  · exact hx s e t h he
  · obtain ⟨hR, hfa⟩ | hfa := hf s a u ha
    · exact trans_of R hR (hfa u e t h he)
    · exact absurd he (hfa u e t h)

/-- A first step that goes along `R` however it ends. -/
theorem bind_kept [IsPreorder σ R] {x : EStateM ε σ α} {f : α → EStateM ε σ β} (hx : Moves R x)
    (hf : ∀ a, Raising E R (f a)) : Raising E R (x >>= f) :=
  bind (hx.raising E) fun _ a _ h => Or.inl ⟨hx.of_ok h, hf a⟩

end Raising

end SentinelAI.Lib
