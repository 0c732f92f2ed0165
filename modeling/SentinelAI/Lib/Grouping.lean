import Mathlib.Logic.Relation
import Mathlib.Order.UpperLower.Basic
import Mathlib.Order.WellFounded

/-
  Greedy grouping of a sequence. Positions are scanned in order; a position that has an
  earlier neighbour takes the label of one of them, any other opens a label of its own.
  Labels are never merged afterwards.

  Such a labelling is sound (`Greedy.linked`): equal labels are linked by a chain of
  neighbours. It yields the connected components exactly when no position bridges two
  groups that its predecessors left apart (`Greedy.components_iff`).
-/

namespace SentinelAI.Lib

universe u v

variable {ι : Type u} {κ : Type v}

/-- Linked by a chain of neighbours inside `D`. -/
def LinkedIn (adj : ι → ι → Prop) (D : Set ι) : ι → ι → Prop :=
  Relation.ReflTransGen fun a b => a ∈ D ∧ b ∈ D ∧ adj a b

namespace LinkedIn

variable {adj : ι → ι → Prop} {D D' : Set ι} {a b c : ι}

theorem refl (a : ι) : LinkedIn adj D a a := Relation.ReflTransGen.refl

theorem edge (ha : a ∈ D) (hb : b ∈ D) (h : adj a b) : LinkedIn adj D a b :=
  Relation.ReflTransGen.single ⟨ha, hb, h⟩

theorem trans (h : LinkedIn adj D a b) (h' : LinkedIn adj D b c) : LinkedIn adj D a c :=
  Relation.ReflTransGen.trans h h'

theorem symm (hadj : ∀ a b, adj a b → adj b a) (h : LinkedIn adj D a b) : LinkedIn adj D b a := by
  induction h with
  | refl => exact refl a
  | tail _ hbc ih =>
    obtain ⟨hb, hc, hbc⟩ := hbc
    exact (edge hc hb (hadj _ _ hbc)).trans ih

theorem mono (hD : D ⊆ D') (h : LinkedIn adj D a b) : LinkedIn adj D' a b := by
  induction h with
  | refl => exact refl a
  | tail _ hbc ih =>
    obtain ⟨hb, hc, hbc⟩ := hbc
    exact ih.trans (edge (hD hb) (hD hc) hbc)

/-- What every edge of `D` preserves, a chain in `D` preserves. -/
theorem label_eq {label : ι → κ} (hedge : ∀ a ∈ D, ∀ b ∈ D, adj a b → label a = label b)
    (h : LinkedIn adj D a b) : label a = label b := by
  induction h with
  | refl => rfl
  | tail _ hbc ih =>
    obtain ⟨hb, hc, hbc⟩ := hbc
    exact ih.trans (hedge _ hb _ hc hbc)

/-- Chains are carried along a map that carries the neighbours. -/
theorem lift {ι' : Type u} {adj' : ι' → ι' → Prop} (f : ι → ι')
    (hadj : ∀ a b, adj a b → adj' (f a) (f b)) (h : LinkedIn adj Set.univ a b) :
    LinkedIn adj' Set.univ (f a) (f b) := by
  induction h with
  | refl => exact refl (f a)
  | tail _ hbc ih => exact ih.trans (edge (Set.mem_univ _) (Set.mem_univ _) (hadj _ _ hbc.2.2))

end LinkedIn

section

variable [LinearOrder ι]

/-- Each position joins an earlier neighbour, or has none and a label no earlier one has. -/
def Greedy (adj : ι → ι → Prop) (label : ι → κ) : Prop :=
  ∀ n, (∃ m < n, adj m n ∧ label m = label n) ∨
    ∀ m < n, ¬ adj m n ∧ label m ≠ label n

/-- Earlier neighbours of a position are linked before it comes. -/
def Unbridged (adj : ι → ι → Prop) : Prop :=
  ∀ n a b, a < n → b < n → adj a n → adj b n → LinkedIn adj (Set.Iio n) a b

namespace Greedy

variable [WellFoundedLT ι] {adj : ι → ι → Prop} {label : ι → κ}

/-- Equal labels are linked, by positions up to the later of the two. -/
theorem linked_of_lt (hadj : ∀ a b, adj a b → adj b a) (hg : Greedy adj label) (j : ι) :
    ∀ i < j, label i = label j → LinkedIn adj (Set.Iic j) i j := by
  induction j using WellFoundedLT.induction with
  | ind j ih =>
    intro i hij hlabel
    obtain ⟨m, hmj, hadjm, hm⟩ | hfresh := hg j
    · have him : LinkedIn adj (Set.Iic j) i m := by
        obtain hlt | rfl | hgt := lt_trichotomy i m
        · exact (ih m hmj i hlt (hlabel.trans hm.symm)).mono (Set.Iic_subset_Iic.mpr hmj.le)
        · exact LinkedIn.refl i
        · have hmi := ih i hij m hgt (hm.trans hlabel.symm)
          exact (hmi.mono (Set.Iic_subset_Iic.mpr hij.le)).symm hadj
      exact him.trans (LinkedIn.edge hmj.le le_rfl hadjm)
    · exact absurd hlabel (hfresh i hij).2

/-- Soundness: positions of a lower set with equal labels are linked in it. -/
theorem linked (hadj : ∀ a b, adj a b → adj b a) (hg : Greedy adj label) {D : Set ι}
    (hD : IsLowerSet D) {i j : ι} (hi : i ∈ D) (hj : j ∈ D) (h : label i = label j) :
    LinkedIn adj D i j := by
  have hsub : ∀ {k}, k ∈ D → Set.Iic k ⊆ D := fun hk _ hx => hD hx hk
  obtain hlt | rfl | hgt := lt_trichotomy i j
  · exact (linked_of_lt hadj hg j i hlt h).mono (hsub hj)
  · exact LinkedIn.refl i
  · exact ((linked_of_lt hadj hg i j hgt h.symm).mono (hsub hi)).symm hadj

/-- Without bridges, neighbours get one label. -/
theorem label_eq_of_adj (hadj : ∀ a b, adj a b → adj b a) (hg : Greedy adj label)
    (hu : Unbridged adj) (b : ι) : ∀ a < b, adj a b → label a = label b := by
  induction b using WellFoundedLT.induction with
  | ind b ih =>
    intro a hab hadjab
    obtain ⟨m, hmb, hadjm, hm⟩ | hfresh := hg b
    · have hedge : ∀ x ∈ Set.Iio b, ∀ y ∈ Set.Iio b, adj x y → label x = label y := by
        intro x hx y hy hxy
        obtain hlt | rfl | hgt := lt_trichotomy x y
        · exact ih y hy x hlt hxy
        · rfl
        · exact (ih x hx y hgt (hadj x y hxy)).symm
      exact ((hu b a m hab hmb hadjab hadjm).label_eq hedge).trans hm
    · exact absurd hadjab (hfresh a hab).1

/-- The labels are the connected components exactly when nothing is bridged. -/
theorem components_iff (hadj : ∀ a b, adj a b → adj b a) (hg : Greedy adj label) :
    (∀ i j, label i = label j ↔ LinkedIn adj Set.univ i j) ↔ Unbridged adj := by
  constructor
  · intro hc n a b han hbn ha hb
    have hlink : LinkedIn adj Set.univ a b :=
      (LinkedIn.edge (Set.mem_univ a) (Set.mem_univ n) ha).trans
        (LinkedIn.edge (Set.mem_univ n) (Set.mem_univ b) (hadj b n hb))
    exact hg.linked hadj (isLowerSet_Iio n) han hbn ((hc a b).mpr hlink)
  · intro hu i j
    constructor
    · exact hg.linked hadj isLowerSet_univ trivial trivial
    · refine LinkedIn.label_eq fun a _ b _ hab => ?_
      obtain hlt | rfl | hgt := lt_trichotomy a b
      · exact label_eq_of_adj hadj hg hu b a hlt hab
      · rfl
      · exact (label_eq_of_adj hadj hg hu a b hgt (hadj a b hab)).symm

end Greedy

end

end SentinelAI.Lib
