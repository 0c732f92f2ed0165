import SentinelAI.Lib.Stateful

/-
  Pre- and postconditions of computations that may raise. A contract has two
  postconditions: what holds when a run returns, of the value and the state it ends in, and
  what holds when it raises, of the exception and the state it was raised in.

  The rules follow the ways computations are composed: sequences (`bind`), choices (`ite`),
  and loops, with an invariant (`forM`) or with a loop condition that follows the items
  still to come (`forM_along`). `Raises E` is the contract that says nothing but what is raised.
-/

namespace SentinelAI.Lib

universe u

variable {ε σ α β γ : Type u}

/-- From a state with `P`, `m` returns with `Q` or raises with `E`. -/
structure Contract (P : σ → Prop) (m : EStateM ε σ α) (Q : α → σ → Prop) (E : ε → σ → Prop) :
    Prop where
  returns : ∀ {s a t}, P s → m.run s = .ok a t → Q a t
  raises : ∀ {s e t}, P s → m.run s = .error e t → E e t

namespace Contract

variable {P P' : σ → Prop} {Q Q' : α → σ → Prop} {R : β → σ → Prop} {E E' : ε → σ → Prop}

theorem pure {a : α} (h : ∀ s, P s → Q a s) : Contract P (Pure.pure a) Q E where
  returns hs hrun := by
    cases hrun
    exact h _ hs
  raises _ hrun := by cases hrun

theorem throw {e : ε} (h : ∀ s, P s → E e s) : Contract P (MonadExcept.throw e) Q E where
  returns _ hrun := by cases hrun
  raises hs hrun := by
    cases hrun
    exact h _ hs

/-- A computation that returns. -/
theorem of_ok {m : EStateM ε σ α} (h : ∀ s, P s → ∃ a t, m.run s = .ok a t ∧ Q a t) :
    Contract P m Q E where
  returns hs hrun := by
    obtain ⟨a, t, hok, hQ⟩ := h _ hs
    cases hok.symm.trans hrun
    exact hQ
  raises hs hrun := by
    obtain ⟨a, t, hok, _⟩ := h _ hs
    cases hok.symm.trans hrun

theorem mono {m : EStateM ε σ α} (h : Contract P m Q E) (hP : ∀ s, P' s → P s)
    (hQ : ∀ a s, Q a s → Q' a s) (hE : ∀ e s, E e s → E' e s) : Contract P' m Q' E' where
  returns hs hrun := hQ _ _ (h.returns (hP _ hs) hrun)
  raises hs hrun := hE _ _ (h.raises (hP _ hs) hrun)

/-- From fewer states. -/
theorem of_pre {m : EStateM ε σ α} (h : Contract P m Q E) (hP : ∀ s, P' s → P s) :
    Contract P' m Q E := h.mono hP (fun _ _ h => h) fun _ _ h => h

/-- What is returned left out. -/
theorem unreturned {m : EStateM ε σ α} (h : Contract P m Q E) :
    Contract P m (fun _ _ => True) E := h.mono (fun _ h => h) (fun _ _ _ => trivial) fun _ _ h => h

/-- Something more that is known of the runs that return. -/
theorem and_returns {P' : σ → Prop} {Q' : α → σ → Prop} {m : EStateM ε σ α} (h : Contract P m Q E)
    (h' : ∀ s a t, P' s → m.run s = .ok a t → Q' a t) :
    Contract (fun s => P s ∧ P' s) m (fun a t => Q a t ∧ Q' a t) E where
  returns hs hrun := ⟨h.returns hs.1 hrun, h' _ _ _ hs.2 hrun⟩
  raises hs hrun := h.raises hs.1 hrun

theorem bind {x : EStateM ε σ α} {f : α → EStateM ε σ β} (hx : Contract P x Q E)
    (hf : ∀ a, Contract (Q a) (f a) R E) : Contract P (x >>= f) R E where
  returns hs hrun := by
    obtain ⟨a, u, ha, hfa⟩ := run_bind_eq_ok.mp hrun
    exact (hf a).returns (hx.returns hs ha) hfa
  raises {s e t} hs hrun := by
    cases hxs : x.run s with
    | ok a u =>
      rw [run_bind_ok hxs] at hrun
      exact (hf a).raises (hx.returns hs hxs) hrun
    | error e' u =>
      rw [run_bind_error hxs] at hrun
      cases hrun
      exact hx.raises hs hxs

theorem map {x : EStateM ε σ α} (f : α → β) (hx : Contract P x (fun a => R (f a)) E) :
    Contract P (f <$> x) R E := hx.bind fun _ => pure fun _ h => h

theorem ite {c : Prop} [Decidable c] {x y : EStateM ε σ α} (hx : c → Contract P x Q E)
    (hy : ¬ c → Contract P y Q E) : Contract P (if c then x else y) Q E := by
  by_cases h : c
  · rw [if_pos h]
    exact hx h
  · rw [if_neg h]
    exact hy h

/-- A loop whose condition follows the items still to come. -/
theorem forM_along {I : List γ → σ → Prop} {f : γ → EStateM ε σ PUnit}
    (hf : ∀ c cs, Contract (I (c :: cs)) (f c) (fun _ => I cs) E) :
    ∀ cs, Contract (I cs) (cs.forM f) (fun _ => I []) E
  | [] => pure fun _ h => h
  | c :: cs => by
      show Contract (I (c :: cs)) (f c >>= fun _ => cs.forM f) (fun _ => I []) E
      exact (hf c cs).bind fun _ => forM_along hf cs

/-- A loop with an invariant. -/
theorem forM {f : γ → EStateM ε σ PUnit} {cs : List γ}
    (hf : ∀ c ∈ cs, Contract P (f c) (fun _ => P) E) : Contract P (cs.forM f) (fun _ => P) E := by
  induction cs with
  | nil => exact pure fun _ h => h
  | cons c cs ih =>
    obtain ⟨hc, hcs⟩ := List.forall_mem_cons.mp hf
    show Contract P (f c >>= fun _ => cs.forM f) (fun _ => P) E
    exact hc.bind fun _ => ih hcs

/-- A traversal with an invariant. -/
theorem mapM {f : γ → EStateM ε σ β} {cs : List γ}
    (hf : ∀ c ∈ cs, Contract P (f c) (fun _ => P) E) :
    Contract P (cs.mapM f) (fun _ => P) E := by
  induction cs with
  | nil =>
    rw [List.mapM_nil]
    exact pure fun _ h => h
  | cons c cs ih =>
    obtain ⟨hc, hcs⟩ := List.forall_mem_cons.mp hf
    rw [List.mapM_cons]
    exact hc.bind fun _ => (ih hcs).bind fun _ => pure fun _ h => h

end Contract

/-! ## What is raised -/

/-- Whatever `m` raises, from any state, it raises with `E`. -/
def Raises (E : ε → σ → Prop) (m : EStateM ε σ α) : Prop :=
  Contract (fun _ => True) m (fun _ _ => True) E

namespace Raises

variable {E : ε → σ → Prop}

theorem contract {m : EStateM ε σ α} (h : Raises E m) (P : σ → Prop) :
    Contract P m (fun _ _ => True) E := h.of_pre fun _ _ => trivial

@[grind ←] theorem pure (a : α) : Raises E (Pure.pure a : EStateM ε σ α) :=
  Contract.pure fun _ _ => trivial

theorem throw {e : ε} (h : ∀ s, E e s) : Raises E (MonadExcept.throw e : EStateM ε σ α) :=
  Contract.throw fun s _ => h s

theorem of_ok {m : EStateM ε σ α} (h : ∀ s, ∃ a t, m.run s = .ok a t) : Raises E m := by
  refine Contract.of_ok fun s _ => ?_
  obtain ⟨a, t, hrun⟩ := h s
  exact ⟨a, t, hrun, trivial⟩

@[grind ←] theorem bind {x : EStateM ε σ α} {f : α → EStateM ε σ β} (hx : Raises E x)
    (hf : ∀ a, Raises E (f a)) : Raises E (x >>= f) := Contract.bind hx hf

@[grind ←] theorem map {x : EStateM ε σ α} (f : α → β) (hx : Raises E x) : Raises E (f <$> x) :=
  hx.bind fun a => pure (f a)

theorem ite {c : Prop} [Decidable c] {x y : EStateM ε σ α} (hx : Raises E x)
    (hy : Raises E y) : Raises E (if c then x else y) := Contract.ite (fun _ => hx) fun _ => hy

@[grind ←] theorem mapM {f : γ → EStateM ε σ β} (hf : ∀ c, Raises E (f c)) (cs : List γ) :
    Raises E (cs.mapM f) :=
  Contract.mono (Contract.mapM fun c _ => (hf c).contract _) (fun _ h => h) (fun _ _ h => h) fun _ _ h => h

@[grind ←] theorem forM {f : γ → EStateM ε σ PUnit} (hf : ∀ c, Raises E (f c)) (cs : List γ) :
    Raises E (cs.forM f) := Contract.forM fun c _ => (hf c).contract _

end Raises

end SentinelAI.Lib
