import Mathlib.Data.List.Sort
import Mathlib.Data.List.Perm.Subperm

/-
  Items under distinct keys. Such a list is determined up to its order by its members, a
  lookup finds the one item under a key, and sorting by key gives every order of it one list.
-/

namespace SentinelAI.Lib

universe u v

variable {κ : Type u} {α : Type v} {l l' : List (κ × α)}

/-- No two items have one key. -/
def KeysDistinct (l : List (κ × α)) : Prop := (l.map Prod.fst).Nodup

namespace KeysDistinct

theorem nodup (h : KeysDistinct l) : l.Nodup := List.Nodup.of_map Prod.fst h

/-- Two items under one key are the same item. -/
theorem item_eq (h : KeysDistinct l) {a b : κ × α} (ha : a ∈ l) (hb : b ∈ l) (hk : a.1 = b.1) :
    a = b :=
  List.inj_on_of_nodup_map h ha hb hk

/-- The values change, the keys do not. -/
theorem map_values {β : Type v} (f : κ × α → κ × β) (hf : ∀ x, (f x).1 = x.1)
    (h : KeysDistinct l) : KeysDistinct (l.map f) := by
  unfold KeysDistinct
  rw [List.map_map, show Prod.fst ∘ f = Prod.fst from funext hf]
  exact h

theorem find?_eq_some [BEq κ] [LawfulBEq κ] (h : KeysDistinct l) {k : κ} {a : α} :
    (l.find? fun x => x.1 == k).map Prod.snd = some a ↔ (k, a) ∈ l := by
  rw [Option.map_eq_some_iff]
  constructor
  · rintro ⟨⟨k', a'⟩, hfind, rfl⟩
    have hk : k' = k := by simpa using List.find?_some hfind
    rw [← hk]
    exact List.mem_of_find?_eq_some hfind
  · intro hmem
    obtain ⟨x, hx⟩ : ∃ x, l.find? (fun x => x.1 == k) = some x := by
      rw [← Option.isSome_iff_exists, List.find?_isSome]
      exact ⟨(k, a), hmem, by simp⟩
    have hk : x.1 = k := by simpa using List.find?_some hx
    refine ⟨x, hx, ?_⟩
    rw [h.item_eq (List.mem_of_find?_eq_some hx) hmem hk]

/-- One order of the items or another: as many of them, and all of the first in the second. -/
theorem perm_iff (h : KeysDistinct l) :
    l.Perm l' ↔ l.length = l'.length ∧ ∀ x ∈ l, x ∈ l' := by
  constructor
  · intro hperm
    exact ⟨hperm.length_eq, fun x hx => hperm.mem_iff.mp hx⟩
  · intro ⟨hlen, hmem⟩
    exact (List.subperm_of_subset h.nodup hmem).perm_of_length_le hlen.ge

/-- Sorting by key forgets the order of the items and nothing else. -/
theorem insertionSort_eq_iff [LinearOrder κ] [DecidableRel fun a b : κ × α => a.1 ≤ b.1]
    (h : KeysDistinct l) :
    l.insertionSort (fun a b => a.1 ≤ b.1) = l'.insertionSort (fun a b => a.1 ≤ b.1) ↔
      l.Perm l' := by
  have : Std.Total fun a b : κ × α => a.1 ≤ b.1 := ⟨fun a b => le_total a.1 b.1⟩
  have : IsTrans (κ × α) fun a b => a.1 ≤ b.1 := ⟨fun a b c => le_trans⟩
  constructor
  · intro heq
    have hl : l.Perm (l.insertionSort fun a b => a.1 ≤ b.1) := (List.perm_insertionSort _ l).symm
    rw [heq] at hl
    exact hl.trans (List.perm_insertionSort _ l')
  · intro hperm
    have hsorted : (l.insertionSort fun a b => a.1 ≤ b.1).Perm
        (l'.insertionSort fun a b => a.1 ≤ b.1) :=
      (List.perm_insertionSort _ l).trans (hperm.trans (List.perm_insertionSort _ l').symm)
    refine hsorted.eq_of_pairwise ?_ (List.pairwise_insertionSort _ l)
      (List.pairwise_insertionSort _ l')
    intro a b ha hb hab hba
    have hal : a ∈ l := (List.mem_insertionSort _).mp ha
    have hbl : b ∈ l := hperm.mem_iff.mpr ((List.mem_insertionSort _).mp hb)
    exact h.item_eq hal hbl (le_antisymm hab hba)

end KeysDistinct

end SentinelAI.Lib
