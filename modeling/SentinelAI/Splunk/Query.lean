import Mathlib.Data.List.DropRight
import SentinelAI.Splunk.Client

/-
  The text of a search: what the live and the MCP client send for it, and what the mock
  client's `_VALID_SPL` accepts.

  The two clients strip, lower and compare a prefix; the mock matches a pattern that ignores
  case and looks for word boundaries. A query is sent as the pattern reads it unless its
  first command is a pipe, `from` or `tstats`, or a `search` spelled with a long s, or it
  starts with a longer word than `search`.
-/

namespace SentinelAI

/-! ## Texts -/

/-- `c.isspace()`; a pattern's `\s` matches the same characters. -/
def isSpaceChar (c : Char) : Bool :=
  (9 ≤ c.toNat && c.toNat ≤ 13) || (28 ≤ c.toNat && c.toNat ≤ 32) ||
    (0x2000 ≤ c.toNat && c.toNat ≤ 0x200a) ||
    [0x85, 0xa0, 0x1680, 0x2028, 0x2029, 0x202f, 0x205f, 0x3000].contains c.toNat

/-- What follows the leading blanks. -/
def lstrip (s : String) : List Char := s.toList.dropWhile isSpaceChar

/-- `s.strip()`. -/
def strip (s : String) : List Char := (lstrip s).rdropWhile isSpaceChar

/-- `not s or not s.strip()`. -/
def isBlank (s : String) : Bool := s.isEmpty || (strip s).isEmpty

/-- `c.lower() == l` for a lower-case letter `l` of `search`. No character outside ASCII
    lowers to one of them. -/
def lowersTo (c l : Char) : Bool := c.toLower == l

/-- `c` matches the lower-case letter `l` of a pattern that ignores case: beyond ASCII the
    long s is an `s`, and the dotted capital and the dotless small i are an `i`. -/
def foldsTo (c l : Char) : Bool :=
  lowersTo c l || (l == 's' && c == '\u017f') || (l == 'i' && (c == '\u0130' || c == '\u0131'))

/-- Matches the letters of a word one by one, and gives what follows them. -/
def matchWord (eq : Char → Char → Bool) : List Char → List Char → Option (List Char)
  | [], cs => some cs
  | _ :: _, [] => none
  | l :: word, c :: cs => if eq c l then matchWord eq word cs else none

/-- A pattern's `\w`: on ASCII the letters, the digits and the underscore. -/
structure WordClass where
  isWord : Char → Bool
  isWord_ascii : ∀ c : Char, c.toNat < 128 → isWord c = (c.isAlphanum || c == '_')

/-- The word characters of ASCII. -/
def WordClass.ascii : WordClass where
  isWord c := c.isAlphanum || c == '_'
  isWord_ascii _ _ := rfl

/-- `\b` after a letter. -/
def WordClass.atBoundary (w : WordClass) : List Char → Bool
  | [] => true
  | c :: _ => !w.isWord c

/-! ## The validator -/

/-- What `_VALID_SPL` finds at the start of a query. -/
inductive SplHead where
  | search
  | index
  | pipe
  | fromCommand
  | tstats
  deriving DecidableEq, Repr

/-- `_VALID_SPL.match(spl)`: the alternative that matches after the leading blanks. -/
def splHead (w : WordClass) (spl : String) : Option SplHead :=
  if (matchWord foldsTo "search".toList (lstrip spl)).any w.atBoundary then some .search
  else if ((matchWord foldsTo "index".toList (lstrip spl)).map (·.dropWhile isSpaceChar)).any
      (·.head? == some '=') then some .index
  else if (lstrip spl).head? == some '|' then some .pipe
  else if (matchWord foldsTo "from".toList (lstrip spl)).any w.atBoundary then some .fromCommand
  else if (matchWord foldsTo "tstats".toList (lstrip spl)).any w.atBoundary then some .tstats
  else none

/-- `_VALID_SPL` accepts the query. -/
def validSpl (w : WordClass) (spl : String) : Bool := (splHead w spl).isSome

/-! ## What the clients send -/

/-- `spl.strip().lower().startswith("search")`. -/
def startsWithSearch (spl : String) : Bool := (matchWord lowersTo "search".toList (strip spl)).isSome

/-- The query both clients send for a search. -/
def dispatchedQuery (spl : String) : String := if startsWithSearch spl then spl else "search " ++ spl

/-- The form the live client posts. -/
structure SearchPayload where
  search : String
  earliestTime : String
  latestTime : String
  outputMode : String
  deriving DecidableEq, Repr

def LiveSplunkClient.payload (spl earliest latest : String) : SearchPayload where
  search := dispatchedQuery spl
  earliestTime := earliest
  latestTime := latest
  outputMode := "json"

/-- The arguments of the MCP search tool. -/
structure SearchArguments where
  query : String
  earliestTime : String
  latestTime : String
  deriving DecidableEq, Repr

def McpSplunkClient.arguments (spl earliest latest : String) : SearchArguments where
  query := dispatchedQuery spl
  earliestTime := earliest
  latestTime := latest

/-! ## Matching a word -/

theorem isSpaceChar_toLower {c : Char} (h : isSpaceChar c = true) : c.toLower = c := by
  have hupper : ¬ (c.val ≥ 'A'.val ∧ c.val ≤ 'Z'.val) := by
    rintro ⟨hlow, hhigh⟩
    rw [ge_iff_le, UInt32.le_iff_toNat_le] at hlow
    rw [UInt32.le_iff_toNat_le] at hhigh
    have hlow' : 65 ≤ c.toNat := hlow
    have hhigh' : c.toNat ≤ 90 := hhigh
    simp [isSpaceChar] at h
    omega
  unfold Char.toLower
  rw [dif_neg hupper]

/-- A character that lowers to a letter is no blank. -/
theorem not_isSpaceChar_of_lowersTo {c l : Char} (h : lowersTo c l = true)
    (hl : isSpaceChar l = false) : isSpaceChar c = false := by
  have hlow : c.toLower = l := by simpa [lowersTo] using h
  cases hc : isSpaceChar c with
  | false => rfl
  | true =>
    rw [isSpaceChar_toLower hc] at hlow
    rw [hlow, hl] at hc
    exact hc.symm

theorem rdropWhile_cons {p : Char → Bool} {c : Char} (cs : List Char) (hc : p c = false) :
    (c :: cs).rdropWhile p = c :: cs.rdropWhile p := by
  unfold List.rdropWhile
  rw [List.reverse_cons, List.dropWhile_append]
  split
  · rename_i hnil
    rw [List.isEmpty_iff] at hnil
    simp [hnil, hc]
  · simp

theorem matchWord_cons (eq : Char → Char → Bool) (l c : Char) (word cs : List Char) :
    matchWord eq (l :: word) (c :: cs) = if eq c l then matchWord eq word cs else none := rfl

/-- Stripping the end of a text takes nothing from a word it starts with. -/
theorem matchWord_rdropWhile {word : List Char} (hword : ∀ l ∈ word, isSpaceChar l = false)
    (cs : List Char) :
    (matchWord lowersTo word (cs.rdropWhile isSpaceChar)).isSome =
      (matchWord lowersTo word cs).isSome := by
  induction word generalizing cs with
  | nil => rfl
  | cons l word ih =>
    cases cs with
    | nil => rw [List.rdropWhile_nil]
    | cons c cs =>
      have hrest := ih (fun x hx => hword x (List.mem_cons_of_mem l hx)) cs
      cases hspace : isSpaceChar c with
      | false =>
        rw [rdropWhile_cons cs hspace, matchWord_cons, matchWord_cons]
        split
        · exact hrest
        · rfl
      | true =>
        -- a blank matches no letter, whatever is stripped after it
        have hne : ∀ x, isSpaceChar x = true → lowersTo x l = false := by
          intro x hx
          cases hl : lowersTo x l with
          | false => rfl
          | true =>
            have := not_isSpaceChar_of_lowersTo hl (hword l List.mem_cons_self)
            rw [hx] at this
            exact this
        have hright : matchWord lowersTo (l :: word) (c :: cs) = none := by
          rw [matchWord_cons, hne c hspace]
          rfl
        rw [hright]
        cases hdrop : (c :: cs).rdropWhile isSpaceChar with
        | nil => rfl
        | cons d ds =>
          have hprefix := List.rdropWhile_prefix isSpaceChar (l := c :: cs)
          rw [hdrop] at hprefix
          have hd : d = c := (List.cons_prefix_cons.mp hprefix).1
          rw [matchWord_cons, hd, hne c hspace]
          rfl

theorem matchWord_mono {eq eq' : Char → Char → Bool} (h : ∀ c l, eq c l = true → eq' c l = true)
    {word cs rest : List Char} (hmatch : matchWord eq word cs = some rest) :
    matchWord eq' word cs = some rest := by
  induction word generalizing cs with
  | nil => exact hmatch
  | cons l word ih =>
    cases cs with
    | nil => exact hmatch
    | cons c cs =>
      rw [matchWord_cons] at hmatch ⊢
      split at hmatch
      · rename_i hc
        rw [if_pos (h c l hc)]
        exact ih hmatch
      · cases hmatch

theorem foldsTo_of_lowersTo (c l : Char) (h : lowersTo c l = true) : foldsTo c l = true := by
  simp [foldsTo, h]

/-- Away from `s` and `i`, ignoring case is lowering. -/
theorem foldsTo_eq_lowersTo {l : Char} (hs : l ≠ 's') (hi : l ≠ 'i') (c : Char) :
    foldsTo c l = lowersTo c l := by
  have hs' : (l == 's') = false := beq_false_of_ne hs
  have hi' : (l == 'i') = false := beq_false_of_ne hi
  simp [foldsTo, hs', hi']

theorem matchWord_foldsTo {word : List Char} (hs : 's' ∉ word) (hi : 'i' ∉ word)
    (cs : List Char) : matchWord foldsTo word cs = matchWord lowersTo word cs := by
  induction word generalizing cs with
  | nil => rfl
  | cons l word ih =>
    cases cs with
    | nil => rfl
    | cons c cs =>
      have hl : foldsTo c l = lowersTo c l :=
        foldsTo_eq_lowersTo (fun h => hs (h ▸ List.mem_cons_self))
          (fun h => hi (h ▸ List.mem_cons_self)) c
      rw [matchWord_cons, matchWord_cons, hl,
        ih (fun h => hs (List.mem_cons_of_mem l h)) (fun h => hi (List.mem_cons_of_mem l h))]

/-! ## The first command -/

theorem search_no_blank : ∀ l ∈ "search".toList, isSpaceChar l = false := by
  have hall : "search".toList.all (fun l => !isSpaceChar l) = true := by decide
  intro l hl
  simpa using List.all_eq_true.mp hall l hl

theorem startsWithSearch_eq (spl : String) :
    startsWithSearch spl = (matchWord lowersTo "search".toList (lstrip spl)).isSome :=
  matchWord_rdropWhile search_no_blank (lstrip spl)

theorem matchWord_head {eq : Char → Char → Bool} {l : Char} {word cs rest : List Char}
    (h : matchWord eq (l :: word) cs = some rest) :
    ∃ c tail, cs = c :: tail ∧ eq c l = true ∧ matchWord eq word tail = some rest := by
  cases cs with
  | nil => cases h
  | cons c tail =>
    rw [matchWord_cons] at h
    split at h
    · rename_i hc
      exact ⟨c, tail, rfl, hc, h⟩
    · cases h

theorem matchWord_none {eq : Char → Char → Bool} {l c : Char} {word tail : List Char}
    (h : eq c l = false) : matchWord eq (l :: word) (c :: tail) = none := by
  rw [matchWord_cons, h]
  rfl

/-- A letter that lowers to `s` is no other letter's, and no pipe. -/
theorem lowersTo_s {c : Char} (h : lowersTo c 's' = true) :
    foldsTo c 'i' = false ∧ foldsTo c 'f' = false ∧ foldsTo c 't' = false ∧ c ≠ '|' := by
  have hlow : c.toLower = 's' := by simpa [lowersTo] using h
  have hne : ∀ d : Char, d.toLower ≠ 's' → c ≠ d := by
    intro d hd hcd
    exact hd (hcd ▸ hlow)
  have hdotted := hne '\u0130' (by decide)
  have hdotless := hne '\u0131' (by decide)
  refine ⟨?_, ?_, ?_, hne '|' (by decide)⟩
  · simp [foldsTo, lowersTo, hlow, hdotted, hdotless]
  · simp [foldsTo, lowersTo, hlow]
  · simp [foldsTo, lowersTo, hlow]

/-- Of a query that starts with the letters of `search`, the pattern sees nothing else. -/
theorem splHead_of_search (w : WordClass) {spl : String} {rest : List Char}
    (h : matchWord lowersTo "search".toList (lstrip spl) = some rest) :
    splHead w spl = if w.atBoundary rest then some .search else none := by
  have hfold : matchWord foldsTo "search".toList (lstrip spl) = some rest :=
    matchWord_mono foldsTo_of_lowersTo h
  obtain ⟨c, tail, hcs, hc, -⟩ := matchWord_head (l := 's') h
  obtain ⟨hi, hf, ht, hpipe⟩ := lowersTo_s hc
  have hindex : matchWord foldsTo "index".toList (lstrip spl) = none := by
    rw [hcs]
    exact matchWord_none hi
  have hfrom : matchWord foldsTo "from".toList (lstrip spl) = none := by
    rw [hcs]
    exact matchWord_none hf
  have htstats : matchWord foldsTo "tstats".toList (lstrip spl) = none := by
    rw [hcs]
    exact matchWord_none ht
  have hbar : ((lstrip spl).head? == some '|') = false := by
    rw [hcs]
    simp [hpipe]
  unfold splHead
  rw [hfold, hindex, hfrom, htstats, hbar]
  simp

/-- Of the queries that do not start with it, the pattern takes one for a search if it is
    spelled with a long s. -/
theorem splHead_search_of_not {w : WordClass} {spl : String} (hno : startsWithSearch spl = false)
    (h : splHead w spl = some .search) : (lstrip spl).head? = some '\u017f' := by
  have hsome : (matchWord foldsTo "search".toList (lstrip spl)).any w.atBoundary = true := by
    unfold splHead at h
    split at h
    · assumption
    · repeat' split at h
      all_goals cases h
  obtain ⟨rest, hrest, -⟩ := (Option.any_eq_true _ _).mp hsome
  obtain ⟨c, tail, hcs, hc, htail⟩ := matchWord_head (l := 's') hrest
  rw [matchWord_foldsTo (by decide) (by decide)] at htail
  have hlow : lowersTo c 's' = false := by
    cases hlow : lowersTo c 's' with
    | false => rfl
    | true =>
      have hmatch : matchWord lowersTo "search".toList (lstrip spl) = some rest := by
        rw [hcs]
        exact (if_pos hlow).trans htail
      rw [startsWithSearch_eq, hmatch] at hno
      cases hno
  have hlong : c = '\u017f' := by simpa [foldsTo, hlow] using hc
  rw [hcs, hlong]
  rfl

theorem prefixed_ne_self (spl : String) : "search " ++ spl ≠ spl := by
  intro h
  have hlen := congrArg String.length h
  rw [String.length_append] at hlen
  have hprefix : "search ".length = 7 := by decide
  omega

theorem dispatchedQuery_eq_self_iff (spl : String) :
    dispatchedQuery spl = spl ↔ startsWithSearch spl = true := by
  unfold dispatchedQuery
  split
  · rename_i h
    exact iff_of_true rfl h
  · rename_i h
    exact iff_of_false (prefixed_ne_self spl) h

theorem dispatchedQuery_eq_prefixed_iff (spl : String) :
    dispatchedQuery spl = "search " ++ spl ↔ startsWithSearch spl = false := by
  unfold dispatchedQuery
  split
  · rename_i h
    exact iff_of_false (Ne.symm (prefixed_ne_self spl)) (by simp [h])
  · rename_i h
    exact iff_of_true rfl (by simpa using h)

/-- Behind `search` and a blank every query is valid. -/
theorem validSpl_prefixed (w : WordClass) (spl : String) : validSpl w ("search " ++ spl) = true := by
  have hword : matchWord lowersTo "search".toList (lstrip ("search " ++ spl)) =
      some (' ' :: spl.toList) := by
    unfold lstrip
    rw [String.toList_append]
    rfl
  have hblank : w.isWord ' ' = false := by
    rw [w.isWord_ascii ' ' (by decide)]
    decide
  unfold validSpl
  rw [splHead_of_search w hword]
  simp [WordClass.atBoundary, hblank]

/-! ## Normalisation -/

/-- What is sent for a query keeps its first command, and is valid. -/
structure KeepsCommand (w : WordClass) (spl sent : String) : Prop where
  itself : ∀ h, splHead w spl = some h → h ≠ .index → sent = spl
  prefixed : ∀ h, splHead w spl = some h → (sent = "search " ++ spl ↔ h = .index)
  valid : isBlank spl = false → validSpl w sent = true

/-- The queries of which the prefix test and the pattern think alike: no pipe, `from` or
    `tstats` comes first, no long s begins them, and no longer word than `search`. -/
structure PlainQuery (w : WordClass) (spl : String) : Prop where
  head : ∀ h, splHead w spl = some h → h = .search ∨ h = .index
  ascii : splHead w spl = some .search → (lstrip spl).head? ≠ some '\u017f'
  word : ∀ c rest, matchWord lowersTo "search".toList (lstrip spl) = some (c :: rest) →
    w.isWord c = false

theorem startsWithSearch_rest {spl : String} (h : startsWithSearch spl = true) :
    ∃ rest, matchWord lowersTo "search".toList (lstrip spl) = some rest := by
  rw [startsWithSearch_eq] at h
  exact Option.isSome_iff_exists.mp h

/-- A valid query that starts with `search` starts with the command `search`. -/
theorem splHead_of_startsWithSearch {w : WordClass} {spl : String} {head : SplHead}
    (h : startsWithSearch spl = true) (hhead : splHead w spl = some head) : head = .search := by
  obtain ⟨rest, hrest⟩ := startsWithSearch_rest h
  rw [splHead_of_search w hrest] at hhead
  split at hhead
  · exact (Option.some.inj hhead).symm
  · cases hhead

theorem not_isBlank_of_startsWithSearch {spl : String} (h : startsWithSearch spl = true) :
    isBlank spl = false := by
  have hstrip : strip spl ≠ [] := by
    intro hnil
    unfold startsWithSearch at h
    rw [hnil] at h
    cases h
  have hspl : spl ≠ "" := by
    intro hempty
    rw [hempty] at hstrip
    exact hstrip rfl
  simp [isBlank, hstrip, hspl]

theorem keepsCommand_of_plainQuery {w : WordClass} {spl : String} (h : PlainQuery w spl) :
    KeepsCommand w spl (dispatchedQuery spl) := by
  have hsearch : splHead w spl = some .search → startsWithSearch spl = true := by
    intro hhead
    cases hstarts : startsWithSearch spl with
    | true => rfl
    | false => exact absurd (splHead_search_of_not hstarts hhead) (h.ascii hhead)
  refine ⟨?_, ?_, ?_⟩
  · intro head hhead hindex
    rcases h.head head hhead with hs | hi
    · subst hs
      exact (dispatchedQuery_eq_self_iff spl).mpr (hsearch hhead)
    · exact absurd hi hindex
  · intro head hhead
    rw [dispatchedQuery_eq_prefixed_iff]
    rcases h.head head hhead with hs | hi
    · subst hs
      have hstarts := hsearch hhead
      exact iff_of_false (by simp [hstarts]) (by decide)
    · refine iff_of_true ?_ hi
      cases hstarts : startsWithSearch spl with
      | false => rfl
      | true =>
        have hs := splHead_of_startsWithSearch hstarts hhead
        rw [hi] at hs
        cases hs
  · intro _
    cases hstarts : startsWithSearch spl with
    | false =>
      rw [(dispatchedQuery_eq_prefixed_iff spl).mpr hstarts]
      exact validSpl_prefixed w spl
    | true =>
      obtain ⟨rest, hrest⟩ := startsWithSearch_rest hstarts
      have hboundary : w.atBoundary rest = true := by
        cases rest with
        | nil => rfl
        | cons c cs => simp [WordClass.atBoundary, h.word c cs hrest]
      rw [(dispatchedQuery_eq_self_iff spl).mpr hstarts, validSpl, splHead_of_search w hrest,
        if_pos hboundary]
      rfl

theorem plainQuery_of_keepsCommand {w : WordClass} {spl : String}
    (h : KeepsCommand w spl (dispatchedQuery spl)) : PlainQuery w spl := by
  have hstarts : ∀ head, splHead w spl = some head → head ≠ .index →
      startsWithSearch spl = true := by
    intro head hhead hindex
    exact (dispatchedQuery_eq_self_iff spl).mp (h.itself head hhead hindex)
  refine ⟨?_, ?_, ?_⟩
  · intro head hhead
    by_cases hindex : head = .index
    · exact Or.inr hindex
    · exact Or.inl (splHead_of_startsWithSearch (hstarts head hhead hindex) hhead)
  · intro hhead hlong
    obtain ⟨rest, hrest⟩ := startsWithSearch_rest (hstarts .search hhead (by decide))
    obtain ⟨c, tail, hcs, hc, -⟩ := matchWord_head (l := 's') hrest
    rw [hcs] at hlong
    have hlong' : c = '\u017f' := Option.some.inj hlong
    rw [hlong'] at hc
    exact absurd hc (by decide)
  · intro c rest hrest
    have hsearch : startsWithSearch spl = true := by
      rw [startsWithSearch_eq, hrest]
      rfl
    have hvalid := h.valid (not_isBlank_of_startsWithSearch hsearch)
    rw [(dispatchedQuery_eq_self_iff spl).mpr hsearch, validSpl, splHead_of_search w hrest] at hvalid
    cases hc : w.isWord c with
    | false => rfl
    | true =>
      simp [WordClass.atBoundary, hc] at hvalid

/-- The query that either client sends keeps its command and is valid exactly if it is plain. -/
theorem query_normalised_iff (w : WordClass) (spl earliest latest : String) :
    (KeepsCommand w spl (LiveSplunkClient.payload spl earliest latest).search ↔
      PlainQuery w spl) ∧
    (KeepsCommand w spl (McpSplunkClient.arguments spl earliest latest).query ↔
      PlainQuery w spl) :=
  ⟨⟨plainQuery_of_keepsCommand, keepsCommand_of_plainQuery⟩,
    ⟨plainQuery_of_keepsCommand, keepsCommand_of_plainQuery⟩⟩

/-- A piped query is sent as a search for the word that follows the pipe. -/
theorem piped_query_prefixed :
    validSpl .ascii "| tstats count" = true ∧
    (LiveSplunkClient.payload "| tstats count" "-24h" "now").search = "search | tstats count" ∧
    ¬ KeepsCommand .ascii "| tstats count"
      (LiveSplunkClient.payload "| tstats count" "-24h" "now").search ∧
    ¬ KeepsCommand .ascii "| tstats count"
      (McpSplunkClient.arguments "| tstats count" "-24h" "now").query := by
  have hhead : splHead .ascii "| tstats count" = some .pipe := by decide +kernel
  have hsent : dispatchedQuery "| tstats count" = "search | tstats count" := by decide +kernel
  have hnot : ¬ KeepsCommand .ascii "| tstats count" (dispatchedQuery "| tstats count") := by
    intro h
    have hself := h.itself .pipe hhead (by decide)
    rw [hsent] at hself
    exact absurd hself (by decide)
  exact ⟨by decide +kernel, hsent, hnot, hnot⟩

-- a longer word than `search` is sent as it is, though the pattern rejects it
example : dispatchedQuery "searching x" = "searching x" ∧ validSpl .ascii "searching x" = false := by
  decide +kernel

end SentinelAI
