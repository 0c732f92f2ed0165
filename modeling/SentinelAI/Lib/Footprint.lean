import SentinelAI.Lib.Stateful

/-
  Footprints: which parts of its state a computation may change. `Touches F m` says every
  run of `m`, however it ends, leaves each part outside `F` as it was.

  The rules are tagged for `grind`, which then reads a footprint off a `do` block; a
  computation with a footprint lemma of its own is not looked into.
-/

namespace SentinelAI.Lib

universe u v

/-- A state in parts, with what it means for a part to be as it was. -/
class Parts (σ : Type u) (π : Type v) where
  Same : π → σ → σ → Prop
  refl : ∀ p s, Same p s s
  trans : ∀ p s t w, Same p s t → Same p t w → Same p s w

variable {ε σ α β γ : Type u} {π : Type v} [Parts σ π]

/-- Every part outside `F` is as it was. -/
def Outside (F : List π) (s t : σ) : Prop := ∀ p, p ∉ F → Parts.Same p s t

instance (F : List π) : IsPreorder σ (Outside F) where
  refl s := fun p _ => Parts.refl p s
  trans s t w h h' := fun p hp => Parts.trans p s t w (h p hp) (h' p hp)

/-- `m` changes no part outside `F`. -/
structure Touches (F : List π) (m : EStateM ε σ α) : Prop where
  moves : Moves (Outside F) m

namespace Touches

variable {F : List π}

theorem same {m : EStateM ε σ α} (h : Touches F m) {p : π} (hp : p ∉ F) (s : σ) :
    Parts.Same p s (stateOf (m.run s)) := h.moves s p hp

@[grind ←] theorem pure (a : α) : Touches F (Pure.pure a : EStateM ε σ α) := ⟨Moves.pure a⟩

@[grind ←] theorem throw (e : ε) : Touches F (MonadExcept.throw e : EStateM ε σ α) :=
  ⟨Moves.throw e⟩

@[grind ←] theorem bind {x : EStateM ε σ α} {f : α → EStateM ε σ β} (hx : Touches F x)
    (hf : ∀ a, Touches F (f a)) : Touches F (x >>= f) :=
  ⟨Moves.bind hx.moves fun a => (hf a).moves⟩

@[grind ←] theorem map {x : EStateM ε σ α} (f : α → β) (hx : Touches F x) :
    Touches F (f <$> x) := ⟨Moves.map f hx.moves⟩

theorem ite {c : Prop} [Decidable c] {x y : EStateM ε σ α} (hx : Touches F x)
    (hy : Touches F y) : Touches F (if c then x else y) := ⟨Moves.ite hx.moves hy.moves⟩

theorem mono {G : List π} {m : EStateM ε σ α} (h : Touches F m) (hF : F ⊆ G) : Touches G m :=
  ⟨fun s _ hp => h.same (fun h' => hp (hF h')) s⟩

@[grind ←] theorem tryCatch {x : EStateM ε σ α} {f : ε → EStateM ε σ α} (hx : Touches F x)
    (hf : ∀ e, Touches F (f e)) : Touches F (MonadExcept.tryCatch x f) :=
  ⟨Moves.tryCatch hx.moves fun e => (hf e).moves⟩

@[grind ←] theorem mapM {f : γ → EStateM ε σ β} (hf : ∀ c, Touches F (f c)) (cs : List γ) :
    Touches F (cs.mapM f) := ⟨Moves.mapM (fun c => (hf c).moves) cs⟩

@[grind ←] theorem forM {f : γ → EStateM ε σ PUnit} (hf : ∀ c, Touches F (f c)) (cs : List γ) :
    Touches F (cs.forM f) := ⟨Moves.forM (fun c => (hf c).moves) cs⟩

/-- A computation that keeps its state touches nothing. -/
theorem of_keeps {m : EStateM ε σ α} (h : ∀ s, stateOf (m.run s) = s) : Touches F m := by
  refine ⟨fun s p _ => ?_⟩
  rw [h s]
  exact Parts.refl p s

end Touches

end SentinelAI.Lib
