import Mathlib.Data.List.Induction
import Mathlib.Data.List.Nodup

/-
  Hash chains over any bodies and digests. A link carries a body, the digest before it and
  its own digest; `Chained H p` is the recomputation from the running digest `p`.

  `Committing H E g` is what an idealized hash gives: its output determines its inputs, the
  body up to `E`, and is never the genesis digest `g`. From it: the digests of a chain are
  distinct (`digests_nodup`), the head digest fixes the whole chain (`head_commits`), and a
  single changed or removed link is found, the last one's removal excepted.
-/

namespace SentinelAI.Lib.HashChain

universe u v

variable {β : Type u} {δ : Type v}

structure Link (β : Type u) (δ : Type v) where
  body : β
  prev : δ
  digest : δ

/-- Every link names the digest before it and carries its own, from `p` on. -/
def Chained (H : β → δ → δ) : δ → List (Link β δ) → Prop
  | _, [] => True
  | p, l :: ls => l.prev = p ∧ l.digest = H l.body p ∧ Chained H l.digest ls

/-- The newest digest, `p` if there is no link. -/
def head (p : δ) (ls : List (Link β δ)) : δ := (ls.getLast?.map Link.digest).getD p

/-- The link that extends a chain with head `p`. -/
def extend (H : β → δ → δ) (p : δ) (b : β) : Link β δ := ⟨b, p, H b p⟩

/-- The hash determines its inputs, bodies up to `E`, and avoids the genesis digest. -/
structure Committing (H : β → δ → δ) (E : β → β → Prop) (g : δ) : Prop where
  inj : ∀ {b b' : β} {p p' : δ}, H b p = H b' p' → E b b' ∧ p = p'
  ne_genesis : ∀ (b : β) (p : δ), H b p ≠ g

/-! ## Heads and appends -/

@[simp] theorem head_nil (p : δ) : head p ([] : List (Link β δ)) = p := rfl

@[simp] theorem head_snoc (p : δ) (ls : List (Link β δ)) (l : Link β δ) :
    head p (ls ++ [l]) = l.digest := by
  simp [head]

theorem head_cons (p : δ) (l : Link β δ) (ls : List (Link β δ)) :
    head p (l :: ls) = head l.digest ls := by
  unfold head
  rw [List.getLast?_cons]
  cases ls.getLast? <;> rfl

theorem head_append_cons (p : δ) (ls : List (Link β δ)) (l : Link β δ) (ms : List (Link β δ)) :
    head p (ls ++ l :: ms) = head l.digest ms := by
  induction ls generalizing p with
  | nil => exact head_cons p l ms
  | cons x xs ih => rw [List.cons_append, head_cons, ih]

variable {H : β → δ → δ}

theorem chained_append (p : δ) (ls ms : List (Link β δ)) :
    Chained H p (ls ++ ms) ↔ Chained H p ls ∧ Chained H (head p ls) ms := by
  induction ls generalizing p with
  | nil => simp [Chained]
  | cons l ls ih =>
    rw [List.cons_append, head_cons]
    simp only [Chained, ih, and_assoc]

theorem chained_snoc (p : δ) (ls : List (Link β δ)) (l : Link β δ) :
    Chained H p (ls ++ [l]) ↔
      Chained H p ls ∧ l.prev = head p ls ∧ l.digest = H l.body (head p ls) := by
  rw [chained_append]
  simp [Chained]

/-- Extending a chain from its head keeps it a chain. -/
theorem Chained.extend {p : δ} {ls : List (Link β δ)} (h : Chained H p ls) (b : β) :
    Chained H p (ls ++ [extend H (head p ls) b]) :=
  (chained_snoc p ls _).mpr ⟨h, rfl, rfl⟩

/-- A digest is the hash of its link's body and previous digest. -/
theorem Chained.digest_eq {p : δ} {ls : List (Link β δ)} (h : Chained H p ls) {l : Link β δ}
    (hl : l ∈ ls) : l.digest = H l.body l.prev := by
  induction ls generalizing p with
  | nil => cases hl
  | cons x xs ih =>
    obtain ⟨hp, hd, hxs⟩ := h
    rcases List.mem_cons.mp hl with rfl | hl
    · rw [hd, hp]
    · exact ih hxs hl

/-- A link names the start digest or the digest of a link. -/
theorem Chained.prev_mem {p : δ} {ls : List (Link β δ)} (h : Chained H p ls) {l : Link β δ}
    (hl : l ∈ ls) : l.prev = p ∨ ∃ m ∈ ls, m.digest = l.prev := by
  induction ls generalizing p with
  | nil => cases hl
  | cons x xs ih =>
    obtain ⟨hp, _, hxs⟩ := h
    rcases List.mem_cons.mp hl with rfl | hl
    · exact Or.inl hp
    · rcases ih hxs hl with h | ⟨m, hm, h⟩
      · exact Or.inr ⟨x, List.mem_cons_self .., h.symm⟩
      · exact Or.inr ⟨m, List.mem_cons_of_mem _ hm, h⟩

/-! ## Digests are distinct -/

variable {E : β → β → Prop} {g : δ}

theorem Chained.digest_ne_genesis (hH : Committing H E g) {ls : List (Link β δ)}
    (h : Chained H g ls) {l : Link β δ} (hl : l ∈ ls) : l.digest ≠ g := by
  rw [h.digest_eq hl]
  exact hH.ne_genesis _ _

/-- No two links of a chain carry one digest: were the newest digest an older one too, the
    links before the two would agree as well, down to the genesis digest. -/
theorem digests_nodup (hH : Committing H E g) :
    ∀ ls : List (Link β δ), Chained H g ls → (ls.map Link.digest).Nodup := by
  intro ls
  induction ls using List.reverseRecOn with
  | nil => intro _; exact List.nodup_nil
  | append_singleton ls l ih =>
    intro h
    obtain ⟨hls, hp, hd⟩ := (chained_snoc g ls l).mp h
    have hnd := ih hls
    rw [List.map_append, List.map_singleton, List.nodup_append]
    refine ⟨hnd, List.nodup_singleton _, ?_⟩
    intro a ha b hb hab
    rw [List.mem_singleton] at hb
    obtain ⟨x, hx, rfl⟩ := List.mem_map.mp ha
    -- the older link's previous digest is the head, so it comes after the head's own link
    obtain ⟨us, vs, rfl⟩ := List.append_of_mem hx
    obtain ⟨_, hx⟩ := (chained_append g us (x :: vs)).mp hls
    have he : H l.body (head g (us ++ x :: vs)) = H x.body (head g us) := by
      rw [← hd, ← hb, ← hab, hx.2.1]
    have hheads := (hH.inj he).2
    rw [head_append_cons] at hheads
    rcases List.eq_nil_or_concat us with rfl | ⟨us', y, rfl⟩
    · -- no link before `x`: the head would be the genesis digest
      have hne : head x.digest vs ≠ g := by
        rcases List.eq_nil_or_concat vs with rfl | ⟨vs', z, rfl⟩
        · exact hls.digest_ne_genesis hH (by simp)
        · rw [List.concat_eq_append, head_snoc]
          exact hls.digest_ne_genesis hH (by simp)
      exact hne hheads
    · rw [List.concat_eq_append, head_snoc] at hheads
      have hmem : head x.digest vs ∈ (x :: vs).map Link.digest := by
        rcases List.eq_nil_or_concat vs with rfl | ⟨vs', z, rfl⟩
        · simp
        · rw [List.concat_eq_append, head_snoc]
          simp
      rw [List.map_append, List.nodup_append] at hnd
      refine hnd.2.2 y.digest ?_ (head x.digest vs) hmem hheads.symm
      simp

/-- The head of a chain with a link in it is not the genesis digest. -/
theorem head_ne_genesis (hH : Committing H E g) {ls : List (Link β δ)} (h : Chained H g ls)
    (hne : ls ≠ []) : head g ls ≠ g := by
  rcases List.eq_nil_or_concat ls with rfl | ⟨us, x, rfl⟩
  · exact absurd rfl hne
  · rw [List.concat_eq_append] at h ⊢
    rw [head_snoc]
    exact h.digest_ne_genesis hH (by simp)

/-! ## The head commits to the chain -/

/-- Links that agree, bodies up to `E`. -/
def Link.Same (E : β → β → Prop) (l m : Link β δ) : Prop :=
  E l.body m.body ∧ l.prev = m.prev ∧ l.digest = m.digest

/-- Two chains with one head digest agree link by link: equal digests give equal inputs,
    and the genesis digest tells where the shorter one would stop. -/
theorem head_commits (hH : Committing H E g) :
    ∀ ls ms : List (Link β δ), Chained H g ls → Chained H g ms → head g ls = head g ms →
      List.Forall₂ (Link.Same E) ls ms := by
  intro ls
  induction ls using List.reverseRecOn with
  | nil =>
    intro ms _ hm heq
    rcases List.eq_nil_or_concat ms with rfl | ⟨ms', m, rfl⟩
    · exact List.Forall₂.nil
    · exact absurd heq.symm (head_ne_genesis hH hm (by simp))
  | append_singleton ls l ih =>
    intro ms hl hm heq
    rcases List.eq_nil_or_concat ms with rfl | ⟨ms', m, rfl⟩
    · exact absurd heq (head_ne_genesis hH hl (by simp))
    · rw [List.concat_eq_append] at hm heq ⊢
      rw [head_snoc, head_snoc] at heq
      obtain ⟨hls, hlp, hld⟩ := (chained_snoc g ls l).mp hl
      obtain ⟨hms, hmp, hmd⟩ := (chained_snoc g ms' m).mp hm
      obtain ⟨hE, hheads⟩ := hH.inj (hld.symm.trans (heq.trans hmd))
      have hrest := ih ms' hls hms hheads
      refine List.rel_append hrest (List.Forall₂.cons ⟨hE, ?_, heq⟩ List.Forall₂.nil)
      rw [hlp, hmp, hheads]

/-! ## One link changed or removed -/

/-- Two chains that differ in one link at most differ in nothing the hash covers. -/
theorem changed_link (hH : Committing H E g) {us vs vs' : List (Link β δ)} {x x' : Link β δ}
    (h : Chained H g (us ++ x :: vs)) (h' : Chained H g (us ++ x' :: vs')) :
    x'.prev = x.prev ∧ (x'.digest = x.digest → E x.body x'.body) ∧
      (x'.body = x.body → x'.digest = x.digest) := by
  obtain ⟨hp, hd, _⟩ := ((chained_append g us _).mp h).2
  obtain ⟨hp', hd', _⟩ := ((chained_append g us _).mp h').2
  refine ⟨hp'.trans hp.symm, ?_, ?_⟩
  · intro he
    exact (hH.inj (hd.symm.trans (he.symm.trans hd'))).1
  · intro hb
    rw [hd', hd, hb]

/-- Removing a link that is not the last breaks the chain. -/
theorem removed_link (hH : Committing H E g) {us vs : List (Link β δ)} {x y : Link β δ}
    (h : Chained H g (us ++ x :: y :: vs)) : ¬ Chained H g (us ++ y :: vs) := by
  intro h'
  obtain ⟨hus, hxy⟩ := (chained_append g us _).mp h
  have hy : y.prev = x.digest := hxy.2.2.1
  have hy' : y.prev = head g us := ((chained_append g us _).mp h').2.1
  have hux : Chained H g (us ++ [x]) := (chained_snoc g us x).mpr ⟨hus, hxy.1, hxy.2.1⟩
  rcases List.eq_nil_or_concat us with rfl | ⟨us', z, rfl⟩
  · exact hux.digest_ne_genesis hH (by simp) (hy.symm.trans hy')
  · rw [List.concat_eq_append] at hux hy'
    rw [head_snoc] at hy'
    have hnd := digests_nodup hH _ hux
    simp only [List.map_append, List.map_cons, List.map_nil, List.append_assoc, List.singleton_append,
      List.nodup_append, List.nodup_cons, List.mem_singleton] at hnd
    exact hnd.2.1.1 (hy.symm.trans hy').symm

/-- Without its last link a chain is still one. -/
theorem Chained.dropped {p : δ} {us vs : List (Link β δ)} (h : Chained H p (us ++ vs)) :
    Chained H p us := ((chained_append p us vs).mp h).1

end SentinelAI.Lib.HashChain
