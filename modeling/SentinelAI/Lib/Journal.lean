import Mathlib.Data.List.Forall2

/-
  A state and its journal. The state holds facts and has a log of entries, and an entry may
  explain a fact. A state is accounted for if every fact it holds is given or explained by an
  entry of its log. A step that keeps the log's entries and what is given, and explains what is
  new, keeps a state accounted for, however many such steps are taken.

  Where items come one at a time, each can have an entry of its own: `Entered` matches the items
  with entries of the log, in order and no entry twice.
-/

namespace SentinelAI.Lib

universe u v w

structure Journal (σ : Type u) (φ : Type v) (ε : Type w) where
  /-- what a state holds -/
  holds : σ → φ → Prop
  log : σ → List ε
  /-- what needs no entry -/
  given : σ → φ → Prop
  explains : ε → φ → Prop

namespace Journal

variable {σ : Type u} {φ : Type v} {ε : Type w} {J : Journal σ φ ε} {s t : σ}

/-- A fact that is given or that an entry explains. -/
def Explained (J : Journal σ φ ε) (s : σ) (f : φ) : Prop :=
  J.given s f ∨ ∃ e ∈ J.log s, J.explains e f

def Accounted (J : Journal σ φ ε) (s : σ) : Prop := ∀ f, J.holds s f → J.Explained s f

/-- A step that explains what is new. -/
structure Accounts (J : Journal σ φ ε) (s t : σ) : Prop where
  log : J.log s ⊆ J.log t
  given : ∀ f, J.given s f → J.given t f
  facts : ∀ f, J.holds t f → J.holds s f ∨ J.Explained t f

/-- What was explained stays explained. -/
theorem Accounts.explained (h : J.Accounts s t) {f : φ} (hf : J.Explained s f) : J.Explained t f := by
  obtain hgiven | ⟨e, he, hexplains⟩ := hf
  · exact Or.inl (h.given f hgiven)
  · exact Or.inr ⟨e, h.log he, hexplains⟩

theorem Accounts.accounted (h : J.Accounts s t) (hs : J.Accounted s) : J.Accounted t := by
  intro f hf
  obtain hold | hnew := h.facts f hf
  · exact h.explained (hs f hold)
  · exact hnew

end Journal

/-! ## An entry for each item -/

section

variable {α : Type u} {ε : Type v} {R R' : α → ε → Prop} {items items' : List α} {log log' : List ε}

/-- Each item has an entry of its own, in the order of the log. -/
def Entered (R : α → ε → Prop) (items : List α) (log : List ε) : Prop :=
  ∃ es, es.Sublist log ∧ List.Forall₂ R items es

/-- A step adds no item, or one item and an entry for it. -/
inductive Enters (R : α → ε → Prop) (items : List α) (log : List ε) : List α → List ε → Prop
  | kept {log' : List ε} (h : log <+: log') : Enters R items log items log'
  | added {new : List ε} (x : α) (e : ε) (he : e ∈ new) (hx : R x e) :
    Enters R items log (items ++ [x]) (log ++ new)

theorem entered_nil : Entered R [] log := ⟨[], List.nil_sublist log, .nil⟩

theorem Entered.mono (h : Entered R items log) (hR : ∀ x e, R x e → R' x e) : Entered R' items log := by
  obtain ⟨es, hes, hall⟩ := h
  exact ⟨es, hes, hall.imp hR⟩

theorem Enters.entered (h : Enters R items log items' log') (hs : Entered R items log) :
    Entered R items' log' := by
  obtain ⟨es, hes, hall⟩ := hs
  cases h with
  | kept hlog => exact ⟨es, hes.trans hlog.sublist, hall⟩
  | added x e he hx =>
    refine ⟨es ++ [e], hes.append (List.singleton_sublist.mpr he), ?_⟩
    exact List.rel_append hall (.cons hx .nil)

end

end SentinelAI.Lib
