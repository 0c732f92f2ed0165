import SentinelAI.Core.Json

/-
  The text of `json.dumps` determines the value up to the order of dict keys
  (`dumps_eq_iff`). Escapes are read back one character at a time (`readEscape`), number
  tokens end at the first character no number contains, and everything else is told apart
  by its first character (`tagOf`).
-/

namespace SentinelAI

/-! ## Escapes -/

def hexDigitValue (c : Char) : Nat := if c.isDigit then c.toNat - 48 else c.toNat - 87

def hexValue (a b c d : Char) : Nat :=
  hexDigitValue a * 4096 + hexDigitValue b * 256 + hexDigitValue c * 16 + hexDigitValue d

/-- Reads one escaped character back, with what follows it. -/
def readEscape : List Char → Option (Char × List Char)
  | '\\' :: 'u' :: a :: b :: c :: d :: r =>
    let n := hexValue a b c d
    if 0xd800 ≤ n ∧ n < 0xdc00 then
      match r with
      | _ :: _ :: a' :: b' :: c' :: d' :: r' =>
        some (Char.ofNat (0x10000 + (n - 0xd800) * 1024 + (hexValue a' b' c' d' - 0xdc00)), r')
      | _ => none
    else some (Char.ofNat n, r)
  | '\\' :: x :: r => (shortEscapes.find? (·.2 == x)).map fun p => (p.1, r)
  | c :: r => some (c, r)
  | [] => none

theorem hexDigitValue_digitChar : ∀ k, k < 16 → hexDigitValue (Nat.digitChar k) = k := by decide

theorem hexValue_hex4 (n : Nat) (h : n < 0x10000) :
    hexValue (Nat.digitChar (n / 4096 % 16)) (Nat.digitChar (n / 256 % 16))
      (Nat.digitChar (n / 16 % 16)) (Nat.digitChar (n % 16)) = n := by
  unfold hexValue
  rw [hexDigitValue_digitChar _ (by omega), hexDigitValue_digitChar _ (by omega),
    hexDigitValue_digitChar _ (by omega), hexDigitValue_digitChar _ (by omega)]
  omega

/-- A character is not a surrogate code unit. -/
theorem char_not_surrogate (c : Char) : ¬ (0xd800 ≤ c.toNat ∧ c.toNat < 0xe000) := by
  have h := c.valid
  simp only [UInt32.isValidChar, Nat.isValidChar] at h
  have : c.toNat = c.val.toNat := rfl
  omega

theorem char_lt (c : Char) : c.toNat < 0x110000 := by
  have h := c.valid
  simp only [UInt32.isValidChar, Nat.isValidChar] at h
  have : c.toNat = c.val.toNat := rfl
  omega

theorem readEscape_short (c x : Char) (r : List Char)
    (h : shortEscapes.find? (·.1 == c) = some (c, x)) :
    readEscape ('\\' :: x :: r) = some (c, r) := by
  have hm := List.mem_of_find?_eq_some h
  simp only [shortEscapes, List.mem_cons, Prod.mk.injEq, List.not_mem_nil, or_false] at hm
  rcases hm with ⟨rfl, rfl⟩ | ⟨rfl, rfl⟩ | ⟨rfl, rfl⟩ | ⟨rfl, rfl⟩ | ⟨rfl, rfl⟩ | ⟨rfl, rfl⟩ |
    ⟨rfl, rfl⟩ <;> rfl

theorem readEscape_unicode (c : Char) (r : List Char) (h : c.toNat < 0x10000) :
    readEscape (unicodeEscape c.toNat ++ r) = some (c, r) := by
  have hs := char_not_surrogate c
  simp only [unicodeEscape, hex4, List.cons_append, List.nil_append, readEscape]
  rw [hexValue_hex4 _ h, if_neg (by omega), Char.ofNat_toNat]

theorem readEscape_pair (c : Char) (r : List Char) (h : ¬ c.toNat < 0x10000) :
    readEscape (unicodeEscape (0xd800 + (c.toNat - 0x10000) / 1024) ++
      unicodeEscape (0xdc00 + (c.toNat - 0x10000) % 1024) ++ r) = some (c, r) := by
  have hc := char_lt c
  simp only [unicodeEscape, hex4, List.cons_append, List.nil_append, readEscape]
  rw [hexValue_hex4 _ (by omega), if_pos (by omega), hexValue_hex4 _ (by omega)]
  have e : 0x10000 + (0xd800 + (c.toNat - 0x10000) / 1024 - 0xd800) * 1024 +
      (0xdc00 + (c.toNat - 0x10000) % 1024 - 0xdc00) = c.toNat := by omega
  rw [e, Char.ofNat_toNat]

theorem readEscape_plain (c : Char) (r : List Char)
    (h : shortEscapes.find? (·.1 == c) = none) : readEscape (c :: r) = some (c, r) := by
  have hc : c ≠ '\\' := by
    rintro rfl
    simp [shortEscapes] at h
  unfold readEscape
  split <;> simp_all

theorem readEscape_escapeChar (c : Char) (r : List Char) :
    readEscape (escapeChar c ++ r) = some (c, r) := by
  unfold escapeChar
  split
  · next c' x h =>
      have hc : c' = c := by simpa using List.find?_some h
      subst hc
      exact readEscape_short _ _ _ h
  · next h =>
      split
      · exact readEscape_plain c r h
      · split
        · next hlt => exact readEscape_unicode c r hlt
        · next hge => exact readEscape_pair c r hge

/-- Escapes never begin with the quotation mark that ends a string. -/
theorem escapeChar_head (c : Char) (r t : List Char) : escapeChar c ++ r ≠ '\x22' :: t := by
  intro h
  have hr := readEscape_escapeChar c r
  rw [h] at hr
  have hq : c = '\x22' := by
    have : readEscape ('\x22' :: t) = some ('\x22', t) := rfl
    rw [this] at hr
    exact (Prod.mk.inj (Option.some.inj hr)).1.symm
  subst hq
  have : escapeChar '\x22' = ['\\', '\x22'] := by decide
  rw [this] at h
  exact absurd (List.cons.inj h).1 (by decide)

theorem escape_inj : ∀ (cs ds r r' : List Char),
    cs.flatMap escapeChar ++ '\x22' :: r = ds.flatMap escapeChar ++ '\x22' :: r' →
      cs = ds ∧ r = r'
  | [], [], r, r', h => ⟨rfl, by simpa using h⟩
  | [], d :: ds, r, r', h => by
      simp only [List.flatMap_nil, List.nil_append, List.flatMap_cons, List.append_assoc] at h
      exact absurd h.symm (escapeChar_head _ _ _)
  | c :: cs, [], r, r', h => by
      simp only [List.flatMap_nil, List.nil_append, List.flatMap_cons, List.append_assoc] at h
      exact absurd h (escapeChar_head _ _ _)
  | c :: cs, d :: ds, r, r', h => by
      simp only [List.flatMap_cons, List.append_assoc] at h
      have hr := congrArg readEscape h
      rw [readEscape_escapeChar, readEscape_escapeChar] at hr
      obtain ⟨hc, ht⟩ := Prod.mk.inj (Option.some.inj hr)
      obtain ⟨hcs, hrr⟩ := escape_inj cs ds r r' ht
      exact ⟨by rw [hc, hcs], hrr⟩

theorem quote_inj (s s' : String) (r r' : List Char) (h : quote s ++ r = quote s' ++ r') :
    s = s' ∧ r = r' := by
  simp only [quote, List.cons_append, List.append_assoc, List.nil_append, List.cons.injEq,
    true_and] at h
  obtain ⟨hl, hr⟩ := escape_inj _ _ _ _ h
  exact ⟨String.toList_inj.mp hl, hr⟩

/-! ## Number tokens -/

/-- What may follow a value inside a JSON text: nothing, or a character no number contains. -/
def Stops (r : List Char) : Prop := ∀ c t, r = c :: t → isNumChar c = false

theorem stops_nil : Stops [] := by
  intro c t h
  cases h

theorem stops_cons {c : Char} {t : List Char} (h : isNumChar c = false) : Stops (c :: t) := by
  intro c' t' h'
  cases h'
  exact h

theorem takeWhile_stops (cs r : List Char) (hcs : ∀ c ∈ cs, isNumChar c = true) (hr : Stops r) :
    (cs ++ r).takeWhile isNumChar = cs := by
  rw [List.takeWhile_append_of_pos hcs]
  cases r with
  | nil => simp
  | cons c t => simp [hr c t rfl]

theorem token_inj (a b r r' : List Char) (ha : ∀ c ∈ a, isNumChar c = true)
    (hb : ∀ c ∈ b, isNumChar c = true) (hr : Stops r) (hr' : Stops r') (h : a ++ r = b ++ r') :
    a = b ∧ r = r' := by
  have hab : a = b := by
    rw [← takeWhile_stops a r ha hr, h, takeWhile_stops b r' hb hr']
  subst hab
  exact ⟨rfl, List.append_cancel_left h⟩

theorem digit_isNumChar {c : Char} (h : c.isDigit = true) : isNumChar c = true := by
  simp [isNumChar, h]

theorem digits_isDigit {n : Nat} {c : Char} (h : c ∈ Nat.toDigits 10 n) : c.isDigit = true :=
  Nat.isDigit_of_mem_toDigits (by decide) (by decide) h

theorem intText_mem {n : Int} {c : Char} (h : c ∈ intText n) : c.isDigit = true ∨ c = '-' := by
  cases n with
  | ofNat n => exact Or.inl (digits_isDigit h)
  | negSucc n =>
    simp only [intText, List.mem_cons] at h
    rcases h with h | h
    · exact Or.inr h
    · exact Or.inl (digits_isDigit h)

theorem intText_isNumChar (n : Int) : ∀ c ∈ intText n, isNumChar c = true := by
  intro c hc
  rcases intText_mem hc with h | rfl
  · exact digit_isNumChar h
  · decide

theorem float_isNumChar (x : PyFloat) : ∀ c ∈ x.text, isNumChar c = true := by
  have h := x.valid
  simp only [isFloatRepr, Bool.and_eq_true, List.all_eq_true] at h
  exact h.1.1

/-- A float's text is not an integer's: it has a character integers lack. -/
theorem intText_ne_float (n : Int) (x : PyFloat) : intText n ≠ x.text := by
  intro he
  have h := x.valid
  simp only [isFloatRepr, Bool.and_eq_true, List.any_eq_true] at h
  obtain ⟨c, hc, hm⟩ := h.1.2
  rw [← he] at hc
  simp only [isFloatMark, List.contains_eq_mem, List.mem_cons, List.not_mem_nil, or_false,
    decide_eq_true_eq] at hm
  rcases intText_mem hc with hd | rfl
  · rcases hm with rfl | rfl | rfl | rfl <;> exact absurd hd (by decide)
  · exact absurd hm (by decide)

theorem toDigits_inj {n m : Nat} (h : Nat.toDigits 10 n = Nat.toDigits 10 m) : n = m := by
  rw [← Nat.ofDigitChars_toDigits (b := 10) (n := n) (by decide) (by decide), h,
    Nat.ofDigitChars_toDigits (by decide) (by decide)]

theorem intText_inj {n m : Int} (h : intText n = intText m) : n = m := by
  have hne : ∀ (a b : Nat), Nat.toDigits 10 a ≠ '-' :: Nat.toDigits 10 b := by
    intro a b he
    have : '-' ∈ Nat.toDigits 10 a := by rw [he]; exact List.mem_cons_self
    exact absurd (digits_isDigit this) (by decide)
  cases n with
  | ofNat n =>
    cases m with
    | ofNat m => rw [toDigits_inj h]
    | negSucc m => exact absurd h (hne _ _)
  | negSucc n =>
    cases m with
    | ofNat m => exact absurd h.symm (hne _ _)
    | negSucc m =>
      have := toDigits_inj (List.cons.inj h).2
      rw [Nat.succ.inj this]

/-! ## First characters -/

/-- Which kind of value a text beginning with `c` is of. -/
def tagOf (c : Char) : Nat :=
  if c = 'n' then 0 else if c = 't' then 1 else if c = 'f' then 2 else if c = '\x22' then 3
  else if c = '[' then 4 else if c = '{' then 5 else 6

/-- The same for a value. -/
def JsonValue.tag : JsonValue → Nat
  | .null => 0
  | .bool true => 1
  | .bool false => 2
  | .str _ => 3
  | .arr _ => 4
  | .obj _ => 5
  | .int _ => 6
  | .float _ => 6

theorem tagOf_numHead {c : Char} (h : isNumHead c = true) : tagOf c = 6 := by
  unfold tagOf
  split_ifs with h0 h1 h2 h3 h4 h5 <;> first | rfl | (subst_vars; exact absurd h (by decide))

theorem tagOf_int (n : Int) : ∃ c t, intText n = c :: t ∧ tagOf c = 6 := by
  have hne : intText n ≠ [] := by
    cases n with
    | ofNat n => exact Nat.toDigits_ne_nil
    | negSucc n => simp [intText]
  obtain ⟨c, t, hct⟩ := List.exists_cons_of_ne_nil hne
  refine ⟨c, t, hct, tagOf_numHead ?_⟩
  rcases intText_mem (n := n) (c := c) (by rw [hct]; exact List.mem_cons_self) with h | rfl
  · simp [isNumHead, h]
  · decide

theorem tagOf_float (x : PyFloat) : ∃ c t, x.text = c :: t ∧ tagOf c = 6 := by
  have h := x.valid
  simp only [isFloatRepr, Bool.and_eq_true] at h
  cases ht : x.text with
  | nil => simp [ht] at h
  | cons c t => exact ⟨c, t, rfl, tagOf_numHead (by simpa [ht] using h.2)⟩

/-- The first character of a value's text tells its kind. -/
theorem tagOf_render (v : JsonValue) : ∃ c t, render v = c :: t ∧ tagOf c = v.tag := by
  cases v with
  | null => exact ⟨_, _, rfl, by decide⟩
  | bool b => cases b <;> exact ⟨_, _, rfl, by decide⟩
  | int n => simpa [render, JsonValue.tag] using tagOf_int n
  | float x => simpa [render, JsonValue.tag] using tagOf_float x
  | str s => exact ⟨'\x22', _, by rw [render, quote]; rfl, rfl⟩
  | arr xs => exact ⟨'[', _, by rw [render], rfl⟩
  | obj kvs => exact ⟨'{', _, by rw [render], rfl⟩

theorem tag_eq_of_render {v w : JsonValue} {r r' : List Char} (h : render v ++ r = render w ++ r') :
    v.tag = w.tag := by
  obtain ⟨c, t, hv, hc⟩ := tagOf_render v
  obtain ⟨d, u, hw, hd⟩ := tagOf_render w
  rw [hv, hw] at h
  rw [← hc, ← hd, (List.cons.inj h).1]

/-! ## Texts determine values -/

/-- The closing bracket or brace of an empty container is not the start of an item. -/
theorem render_ne_close (v : JsonValue) (r t : List Char) (c : Char)
    (hc : c = ']' ∨ c = '}') : render v ++ r ≠ c :: t := by
  intro h
  obtain ⟨d, u, hv, hd⟩ := tagOf_render v
  rw [hv] at h
  have hcd : d = c := (List.cons.inj h).1
  have hnum : isNumChar c = false := by rcases hc with rfl | rfl <;> decide
  cases v with
  | int n =>
    have hm : d ∈ intText n := by rw [render] at hv; rw [hv]; exact List.mem_cons_self
    rw [hcd] at hm
    exact absurd (intText_isNumChar n c hm) (by simp [hnum])
  | float x =>
    have hm : d ∈ x.text := by rw [render] at hv; rw [hv]; exact List.mem_cons_self
    rw [hcd] at hm
    exact absurd (float_isNumChar x c hm) (by simp [hnum])
  | bool b =>
    subst hcd
    cases b <;> rcases hc with rfl | rfl <;> exact absurd hd (by decide)
  | null | str _ | arr _ | obj _ =>
    subst hcd
    rcases hc with rfl | rfl <;> exact absurd hd (by simp [JsonValue.tag]; decide)

/-- What a list or a dict puts after an item that others follow, or that is the last. -/
theorem stops_separator {α : Type} (xs : List α) (t : List Char) (r : List Char) (c : Char)
    (hc : isNumChar c = false) (ht : xs = [] → ∃ u, t = c :: u) :
    Stops ((if xs.isEmpty then [] else [',']) ++ t ++ r) := by
  cases xs with
  | nil =>
    obtain ⟨u, hu⟩ := ht rfl
    subst hu
    exact stops_cons hc
  | cons x xs => exact stops_cons (by decide)

/-- Equal separators: both lists go on or both end. -/
theorem separator_inj {α β : Type} (xs : List α) (ys : List β) (t u : List Char) (c : Char)
    (hc : c ≠ ',') (hx : xs = [] → ∃ w, t = c :: w) (hy : ys = [] → ∃ w, u = c :: w)
    (h : (if xs.isEmpty then [] else [',']) ++ t = (if ys.isEmpty then [] else [',']) ++ u) :
    t = u := by
  cases xs with
  | nil =>
    cases ys with
    | nil => simpa using h
    | cons y ys =>
      obtain ⟨w, hw⟩ := hx rfl
      rw [hw] at h
      exact absurd (List.cons.inj h).1 hc
  | cons x xs =>
    cases ys with
    | nil =>
      obtain ⟨w, hw⟩ := hy rfl
      rw [hw] at h
      exact absurd (List.cons.inj h).1.symm hc
    | cons y ys => simpa using h

mutual

/-- A value's text, before anything that may follow it, determines the value. -/
theorem render_inj : ∀ (v w : JsonValue) (r r' : List Char), Stops r → Stops r' →
    render v ++ r = render w ++ r' → v = w ∧ r = r'
  | .null, w, r, r', _, _, h => by
      cases w with
      | null => exact ⟨rfl, List.append_cancel_left h⟩
      | bool b => cases b <;> exact absurd (tag_eq_of_render h) (by decide)
      | _ => exact absurd (tag_eq_of_render h) (by simp [JsonValue.tag])
  | .bool b, w, r, r', _, _, h => by
      cases w with
      | bool b' =>
        cases b <;> cases b' <;>
          first
          | exact ⟨rfl, List.append_cancel_left h⟩
          | exact absurd (tag_eq_of_render h) (by decide)
      | _ => cases b <;> exact absurd (tag_eq_of_render h) (by simp [JsonValue.tag])
  | .int n, w, r, r', hr, hr', h => by
      cases w with
      | int m =>
        obtain ⟨ht, hrr⟩ := token_inj _ _ r r' (intText_isNumChar n) (intText_isNumChar m) hr hr'
          (by simpa [render] using h)
        exact ⟨by rw [intText_inj ht], hrr⟩
      | float x =>
        obtain ⟨ht, _⟩ := token_inj _ _ r r' (intText_isNumChar n) (float_isNumChar x) hr hr'
          (by simpa [render] using h)
        exact absurd ht (intText_ne_float n x)
      | bool b => cases b <;> exact absurd (tag_eq_of_render h) (by simp [JsonValue.tag])
      | _ => exact absurd (tag_eq_of_render h) (by simp [JsonValue.tag])
  | .float x, w, r, r', hr, hr', h => by
      cases w with
      | float y =>
        obtain ⟨ht, hrr⟩ := token_inj _ _ r r' (float_isNumChar x) (float_isNumChar y) hr hr'
          (by simpa [render] using h)
        exact ⟨by rw [PyFloat.ext ht], hrr⟩
      | int n =>
        obtain ⟨ht, _⟩ := token_inj _ _ r r' (float_isNumChar x) (intText_isNumChar n) hr hr'
          (by simpa [render] using h)
        exact absurd ht.symm (intText_ne_float n x)
      | bool b => cases b <;> exact absurd (tag_eq_of_render h) (by simp [JsonValue.tag])
      | _ => exact absurd (tag_eq_of_render h) (by simp [JsonValue.tag])
  | .str s, w, r, r', _, _, h => by
      cases w with
      | str s' =>
        obtain ⟨hs, hrr⟩ := quote_inj s s' r r' (by simpa [render] using h)
        exact ⟨by rw [hs], hrr⟩
      | bool b => cases b <;> exact absurd (tag_eq_of_render h) (by simp [JsonValue.tag])
      | _ => exact absurd (tag_eq_of_render h) (by simp [JsonValue.tag])
  | .arr xs, w, r, r', _, _, h => by
      cases w with
      | arr ys =>
        obtain ⟨hxs, hrr⟩ := renderItems_inj xs ys r r' (by simpa [render] using h)
        exact ⟨by rw [hxs], hrr⟩
      | bool b => cases b <;> exact absurd (tag_eq_of_render h) (by simp [JsonValue.tag])
      | _ => exact absurd (tag_eq_of_render h) (by simp [JsonValue.tag])
  | .obj kvs, w, r, r', _, _, h => by
      cases w with
      | obj kvs' =>
        obtain ⟨hk, hrr⟩ := renderMembers_inj kvs kvs' r r' (by simpa [render] using h)
        exact ⟨by rw [hk], hrr⟩
      | bool b => cases b <;> exact absurd (tag_eq_of_render h) (by simp [JsonValue.tag])
      | _ => exact absurd (tag_eq_of_render h) (by simp [JsonValue.tag])

theorem renderItems_inj : ∀ (xs ys : List JsonValue) (r r' : List Char),
    renderItems xs ++ r = renderItems ys ++ r' → xs = ys ∧ r = r'
  | [], [], r, r', h => ⟨rfl, by simpa [renderItems] using h⟩
  | [], y :: ys, r, r', h => by
      simp only [renderItems, List.append_assoc] at h
      exact absurd h.symm (render_ne_close y _ _ _ (Or.inl rfl))
  | x :: xs, [], r, r', h => by
      simp only [renderItems, List.append_assoc] at h
      exact absurd h (render_ne_close x _ _ _ (Or.inl rfl))
  | x :: xs, y :: ys, r, r', h => by
      have hclose : ∀ zs : List JsonValue, ∀ q, zs = [] → ∃ u, renderItems zs ++ q = ']' :: u := by
        rintro _ q rfl
        exact ⟨q, rfl⟩
      have hstop : ∀ (zs : List JsonValue) (q : List Char),
          Stops ((if zs.isEmpty then [] else [',']) ++ (renderItems zs ++ q)) := by
        intro zs q
        have := stops_separator zs (renderItems zs ++ q) [] ']' (by decide) (hclose zs q)
        simpa using this
      simp only [renderItems, List.append_assoc] at h
      obtain ⟨hxy, ht⟩ := render_inj x y _ _ (hstop xs r) (hstop ys r') h
      have ht' := separator_inj xs ys _ _ ']' (by decide) (hclose xs r) (hclose ys r') ht
      obtain ⟨hxs, hrr⟩ := renderItems_inj xs ys r r' ht'
      exact ⟨by rw [hxy, hxs], hrr⟩

theorem renderMembers_inj : ∀ (xs ys : List (String × JsonValue)) (r r' : List Char),
    renderMembers xs ++ r = renderMembers ys ++ r' → xs = ys ∧ r = r'
  | [], [], r, r', h => ⟨rfl, by simpa [renderMembers] using h⟩
  | [], (k, v) :: ys, r, r', h => by
      simp only [renderMembers, renderMember, quote, List.cons_append, List.nil_append] at h
      exact absurd (List.cons.inj h).1 (by decide)
  | (k, v) :: xs, [], r, r', h => by
      simp only [renderMembers, renderMember, quote, List.cons_append, List.nil_append] at h
      exact absurd (List.cons.inj h).1 (by decide)
  | (k, v) :: xs, (k', v') :: ys, r, r', h => by
      have hclose : ∀ zs : List (String × JsonValue), ∀ q, zs = [] →
          ∃ u, renderMembers zs ++ q = '}' :: u := by
        rintro _ q rfl
        exact ⟨q, rfl⟩
      have hstop : ∀ (zs : List (String × JsonValue)) (q : List Char),
          Stops ((if zs.isEmpty then [] else [',']) ++ (renderMembers zs ++ q)) := by
        intro zs q
        have := stops_separator zs (renderMembers zs ++ q) [] '}' (by decide) (hclose zs q)
        simpa using this
      simp only [renderMembers, renderMember, List.append_assoc, List.cons_append] at h
      obtain ⟨hk, ht⟩ := quote_inj k k' _ _ h
      obtain ⟨hv, ht⟩ := render_inj v v' _ _ (hstop xs r) (hstop ys r') (List.cons.inj ht).2
      have ht' := separator_inj xs ys _ _ '}' (by decide) (hclose xs r) (hclose ys r') ht
      obtain ⟨hxs, hrr⟩ := renderMembers_inj xs ys r r' ht'
      exact ⟨by rw [hk, hv, hxs], hrr⟩

end

/-- `json.dumps(…, sort_keys=True)` gives two values one text exactly when they are the same
    value up to the order of dict keys. -/
theorem dumps_eq_iff (v w : JsonValue) : dumps v = dumps w ↔ SameJson v w := by
  constructor
  · intro h
    have hl : render (sortKeys v) = render (sortKeys w) := by
      simpa [dumps] using congrArg String.toList h
    exact (render_inj _ _ [] [] stops_nil stops_nil (by simpa using hl)).1
  · exact dumps_congr

end SentinelAI
