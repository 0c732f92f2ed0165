import Mathlib.Data.String.Basic
import SentinelAI.Core.JsonText
import SentinelAI.Lib.Counters

/-
  Request metrics (`app/core/metrics.py`) and their text at `/metrics`. The latency sum is a
  sum of floats, so the text takes the average as the string `format(avg, ".3f")` gives.

  `readCounters` is what a scraper makes of the text: it gives back the counters
  (`readCounters_render`), whatever characters HTTP allows in a method.
-/

namespace SentinelAI

open Lib

structure Metrics where
  requests : Counters (String × Nat)
  latencyCount : Nat

namespace Metrics

def init : Metrics := ⟨∅, 0⟩

/-- `record_request`, the latency sum apart. -/
def recordRequest (m : Metrics) (method : String) (statusCode : Nat) : Metrics where
  requests := m.requests.bump (method, statusCode)
  latencyCount := m.latencyCount + 1

/-- How Python orders the items: by method, then by status, then by count. -/
def itemOrder (a b : (String × Nat) × Nat) : Prop :=
  a.1.1 < b.1.1 ∨ a.1.1 = b.1.1 ∧ (a.1.2 < b.1.2 ∨ a.1.2 = b.1.2 ∧ a.2 ≤ b.2)

instance : DecidableRel itemOrder := fun a b =>
  inferInstanceAs (Decidable (a.1.1 < b.1.1 ∨ a.1.1 = b.1.1 ∧ (a.1.2 < b.1.2 ∨ _)))

def counterLine (item : (String × Nat) × Nat) : String :=
  "sentinel_requests_total\x7bmethod=\"" ++ item.1.1 ++ "\",status=\"" ++ toString item.1.2 ++
    "\"\x7d " ++ toString item.2

/-- The lines of the text; `avg` is the average latency, "0.000" before the first request. -/
def lines (m : Metrics) (avg : String) : List String :=
  ["# HELP sentinel_requests_total Total HTTP requests by method and status.",
    "# TYPE sentinel_requests_total counter"] ++
  (m.requests.items.insertionSort itemOrder).map counterLine ++
  ["# HELP sentinel_request_latency_ms_avg Average request latency.",
    "# TYPE sentinel_request_latency_ms_avg gauge",
    "sentinel_request_latency_ms_avg " ++ avg]

def render (m : Metrics) (avg : String) : String := "\n".intercalate (m.lines avg) ++ "\n"

/-! ## Reading the text -/

/-- The characters of an HTTP method (a `token`). -/
def isTokenChar (c : Char) : Bool := c.isAlphanum || "!#$%&'*+-.^_\x60|~".toList.contains c

/-- A leading number, and what follows it. -/
def readNumber (cs : List Char) : Nat × List Char :=
  (Nat.ofDigitChars 10 (cs.takeWhile Char.isDigit) 0, cs.dropWhile Char.isDigit)

def counterHead : List Char := "sentinel_requests_total\x7bmethod=\"".toList

/-- A counter line gives its method, status and count; any other line nothing. -/
def readCounter (line : List Char) : Option ((String × Nat) × Nat) := do
  let rest ← line.dropPrefix? counterHead
  let method := rest.takeWhile isTokenChar
  let rest ← (rest.dropWhile isTokenChar).dropPrefix? "\",status=\"".toList
  let (code, rest) := readNumber rest
  let rest ← rest.dropPrefix? "\"\x7d ".toList
  let (count, rest) := readNumber rest
  if rest = [] then some ((String.ofList method, code), count) else none

/-- What a scraper reads off the text. -/
def readCounters (text : String) : List ((String × Nat) × Nat) :=
  (text.toList.splitOn '\n').filterMap readCounter

/-! ## The text reads back -/

theorem readNumber_digits (n : Nat) (rest : List Char)
    (hrest : rest.takeWhile Char.isDigit = []) :
    readNumber (Nat.toDigits 10 n ++ rest) = (n, rest) := by
  have hdigits : ∀ c ∈ Nat.toDigits 10 n, c.isDigit = true := fun c hc => digits_isDigit hc
  have hdrop : rest.dropWhile Char.isDigit = rest := by
    have := List.takeWhile_append_dropWhile (p := Char.isDigit) (l := rest)
    rwa [hrest, List.nil_append] at this
  unfold readNumber
  rw [List.takeWhile_append_of_pos hdigits, List.dropWhile_append_of_pos hdigits, hrest, hdrop,
    List.append_nil, Nat.ofDigitChars_ten_toDigits]

/-- The characters of a counter line. -/
theorem toList_counterLine (item : (String × Nat) × Nat) :
    (counterLine item).toList = counterHead ++ (item.1.1.toList ++ ("\",status=\"".toList ++
      (Nat.toDigits 10 item.1.2 ++ ("\"\x7d ".toList ++ Nat.toDigits 10 item.2)))) := by
  unfold counterLine counterHead
  simp only [String.toList_append, Nat.toString_eq_repr, Nat.toList_repr, List.append_assoc]

theorem dropPrefix?_self_append (p l : List Char) : (p ++ l).dropPrefix? p = some l :=
  List.dropPrefix?_append_of_beq l BEq.rfl

/-- A counter line reads back. -/
theorem readCounter_counterLine {item : (String × Nat) × Nat}
    (htoken : ∀ c ∈ item.1.1.toList, isTokenChar c = true) :
    readCounter (counterLine item).toList = some item := by
  obtain ⟨⟨method, code⟩, count⟩ := item
  have hmethod : ∀ rest, (method.toList ++ ("\",status=\"".toList ++ rest)).takeWhile isTokenChar =
        method.toList ∧
      (method.toList ++ ("\",status=\"".toList ++ rest)).dropWhile isTokenChar =
        "\",status=\"".toList ++ rest := by
    intro rest
    rw [List.takeWhile_append_of_pos htoken, List.dropWhile_append_of_pos htoken]
    exact ⟨List.append_nil _, rfl⟩
  have hcode := readNumber_digits code ("\"\x7d ".toList ++ Nat.toDigits 10 count) rfl
  have hcount := readNumber_digits count [] rfl
  rw [List.append_nil] at hcount
  unfold readCounter
  rw [toList_counterLine]
  simp only [dropPrefix?_self_append, Option.bind_eq_bind, Option.bind_some, hmethod, hcode,
    hcount, if_true, String.ofList_toList]

/-- The line of the average is no counter's. -/
theorem readCounter_average (avg : String) :
    readCounter ("sentinel_request_latency_ms_avg " ++ avg).toList = none := by
  rw [String.toList_append]
  rfl

theorem counterLine_newline {item : (String × Nat) × Nat}
    (htoken : ∀ c ∈ item.1.1.toList, isTokenChar c = true) : '\n' ∉ (counterLine item).toList := by
  have hdigits : ∀ n, '\n' ∉ Nat.toDigits 10 n := fun n hc => absurd (digits_isDigit hc) (by decide)
  have hmethod : '\n' ∉ item.1.1.toList := fun hc => absurd (htoken _ hc) (by decide)
  rw [toList_counterLine]
  simp only [List.mem_append, not_or]
  exact ⟨by decide, hmethod, by decide, hdigits _, by decide, hdigits _⟩

theorem filterMap_counterLine {items : List ((String × Nat) × Nat)}
    (htoken : ∀ item ∈ items, ∀ c ∈ item.1.1.toList, isTokenChar c = true) :
    ((items.map counterLine).map String.toList).filterMap readCounter = items := by
  induction items with
  | nil => rfl
  | cons item items ih =>
    obtain ⟨hitem, hitems⟩ := List.forall_mem_cons.mp htoken
    rw [List.map_cons, List.map_cons, List.filterMap_cons, readCounter_counterLine hitem, ih hitems]

/-- A scraper reads the counters off the text, each once. -/
theorem readCounters_render {m : Metrics} {avg : String}
    (htoken : ∀ item ∈ m.requests.items, ∀ c ∈ item.1.1.toList, isTokenChar c = true)
    (havg : '\n' ∉ avg.toList) :
    readCounters (m.render avg) = m.requests.items.insertionSort itemOrder := by
  have htoken' : ∀ item ∈ m.requests.items.insertionSort itemOrder,
      ∀ c ∈ item.1.1.toList, isTokenChar c = true := by
    intro item hitem
    exact htoken item ((List.mem_insertionSort _).mp hitem)
  have hlines : ∀ l ∈ (m.lines avg ++ [""]).map String.toList, '\n' ∉ l := by
    intro l hl
    obtain ⟨line, hline, rfl⟩ := List.mem_map.mp hl
    unfold lines at hline
    simp only [List.mem_append, List.mem_cons, List.not_mem_nil, or_false, List.mem_map] at hline
    obtain ((((rfl | rfl) | ⟨item, hitem, rfl⟩) | (rfl | rfl | rfl)) | rfl) := hline
    · decide
    · decide
    · exact counterLine_newline (htoken' item hitem)
    · decide
    · decide
    · rw [String.toList_append, List.mem_append, not_or]
      exact ⟨by decide, havg⟩
    · decide
  have htext : m.render avg = "\n".intercalate (m.lines avg ++ [""]) := by
    rw [String.intercalate_append_of_ne_nil (by simp [lines]) (by simp),
      String.intercalate_singleton, String.append_empty]
    rfl
  unfold readCounters
  rw [htext, String.toList_intercalate, show "\n".toList = ['\n'] from rfl,
    List.splitOn_intercalate _ hlines (by simp [lines])]
  unfold lines
  simp only [List.map_append, List.filterMap_append]
  rw [filterMap_counterLine htoken']
  have hhead : (["# HELP sentinel_requests_total Total HTTP requests by method and status.",
      "# TYPE sentinel_requests_total counter"].map String.toList).filterMap readCounter = [] := rfl
  have htail : (["# HELP sentinel_request_latency_ms_avg Average request latency.",
      "# TYPE sentinel_request_latency_ms_avg gauge",
      "sentinel_request_latency_ms_avg " ++ avg].map String.toList).filterMap readCounter = [] := by
    rw [List.map_cons, List.map_cons, List.map_cons, List.filterMap_cons_none rfl,
      List.filterMap_cons_none rfl, List.filterMap_cons_none (readCounter_average avg)]
    rfl
  have hend : ([""].map String.toList).filterMap readCounter = [] := rfl
  rw [hhead, htail, hend, List.nil_append, List.append_nil, List.append_nil]

end Metrics

end SentinelAI
