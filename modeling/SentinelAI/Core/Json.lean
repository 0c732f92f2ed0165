import Mathlib.Data.List.Sort
import Mathlib.Algebra.Order.Ring.Rat

/-
  JSON values, and the text `json.dumps(value, sort_keys=True, separators=(",", ":"))`
  gives them (the default encoder: ASCII escapes, keys sorted by code point).

  A dict is the list of its items in insertion order. Two values are the same Python
  value up to key order when their `sortKeys` agree; nothing here asks that the keys of
  one dict be distinct, although those of a Python dict are.

  A float is kept as its `repr`, the text both `dumps` and `loads` exchange; `value` reads
  the number off it. `isFloatRepr` admits more texts than Python ever prints, which only
  enlarges the inputs the theorems cover.
-/

namespace SentinelAI

/-! ## Floats -/

/-- Characters of a number token. None of them can follow a number in a JSON text. -/
def isNumChar (c : Char) : Bool :=
  c.isDigit || ['-', '+', '.', 'e', 'N', 'a', 'I', 'n', 'f', 'i', 't', 'y'].contains c

/-- Characters that a float's `repr` has and an integer's has not. -/
def isFloatMark (c : Char) : Bool :=
  ['.', 'e', 'N', 'I'].contains c

/-- First characters of a number token. -/
def isNumHead (c : Char) : Bool :=
  c.isDigit || ['-', 'N', 'I'].contains c

/-- The shape every float token of `json.dumps` has: `1.5`, `-0.0`, `1e-07`, `NaN`, `-Infinity`. -/
def isFloatRepr (cs : List Char) : Bool :=
  cs.all isNumChar && cs.any isFloatMark && (cs.head?.map isNumHead).getD false

/-- A Python float, as its `repr`. -/
structure PyFloat where
  text : List Char
  valid : isFloatRepr text = true

theorem PyFloat.ext {x y : PyFloat} (h : x.text = y.text) : x = y := by
  cases x
  cases y
  cases h
  rfl

/-- The number a float stands for. -/
inductive FloatValue where
  | finite (q : ℚ)
  | inf
  | negInf
  | nan
  deriving DecidableEq

/-- The natural number a digit string denotes. -/
def digitsValue (cs : List Char) : Nat :=
  cs.foldl (fun n c => 10 * n + (c.toNat - 48)) 0

/-- The number written by an unsigned decimal token with optional fraction and exponent. -/
def decimalValue (cs : List Char) : ℚ :=
  let mant := cs.takeWhile (· ≠ 'e')
  let ex := (cs.dropWhile (· ≠ 'e')).drop 1
  let whole := mant.takeWhile (· ≠ '.')
  let frac := (mant.dropWhile (· ≠ '.')).drop 1
  let m : ℚ := (digitsValue (whole ++ frac) : ℚ) / (10 ^ frac.length : Nat)
  let e := digitsValue (ex.filter Char.isDigit)
  if ex.head? = some '-' then m / (10 ^ e : Nat) else m * (10 ^ e : Nat)

def PyFloat.value (x : PyFloat) : FloatValue :=
  let neg := x.text.head? = some '-'
  let body := if neg then x.text.tail else x.text
  if body = "NaN".toList then .nan
  else if body = "Infinity".toList then (if neg then .negInf else .inf)
  else .finite (if neg then -decimalValue body else decimalValue body)

/-! ## Values -/

inductive JsonValue where
  | null
  | bool (b : Bool)
  | int (n : Int)
  | float (x : PyFloat)
  | str (s : String)
  | arr (xs : List JsonValue)
  | obj (kvs : List (String × JsonValue))

/-- `d.get(k)` on the items of a dict. -/
def dictGet (kvs : List (String × JsonValue)) (k : String) : Option JsonValue :=
  (kvs.find? (·.1 == k)).map (·.2)

/-- Python truth: `bool(value)`. -/
def JsonValue.truthy : JsonValue → Bool
  | .null => false
  | .bool b => b
  | .int n => n != 0
  | .float x => x.value != .finite 0
  | .str s => s != ""
  | .arr xs => !xs.isEmpty
  | .obj kvs => !kvs.isEmpty

/-! ## `json.dumps` -/

/-- Four lower-case hex digits. -/
def hex4 (n : Nat) : List Char :=
  [Nat.digitChar (n / 4096 % 16), Nat.digitChar (n / 256 % 16), Nat.digitChar (n / 16 % 16),
    Nat.digitChar (n % 16)]

/-- `\uXXXX` for one UTF-16 code unit. -/
def unicodeEscape (n : Nat) : List Char := '\\' :: 'u' :: hex4 n

/-- The characters with a two-character escape, with the letter each takes. -/
def shortEscapes : List (Char × Char) :=
  [('\x22', '\x22'), ('\\', '\\'), ('\n', 'n'), ('\r', 'r'), ('\t', 't'), ('\x0c', 'f'), ('\x08', 'b')]

/-- The default encoder's escape of one character: short escapes, printable ASCII as
    itself, a `\u` escape below the supplementary planes and a surrogate pair in them. -/
def escapeChar (c : Char) : List Char :=
  match shortEscapes.find? (·.1 == c) with
  | some (_, x) => ['\\', x]
  | none =>
    if 32 ≤ c.toNat ∧ c.toNat ≤ 126 then [c]
    else if c.toNat < 0x10000 then unicodeEscape c.toNat
    else
      unicodeEscape (0xd800 + (c.toNat - 0x10000) / 1024) ++
        unicodeEscape (0xdc00 + (c.toNat - 0x10000) % 1024)

/-- A quoted string literal. -/
def quote (s : String) : List Char :=
  '\x22' :: s.toList.flatMap escapeChar ++ ['\x22']

/-- `str(n)` of an integer. -/
def intText : Int → List Char
  | .ofNat n => Nat.toDigits 10 n
  | .negSucc n => '-' :: Nat.toDigits 10 (n + 1)

mutual

/-- The compact text of a value, its dicts in the order they are given. -/
def render : JsonValue → List Char
  | .null => "null".toList
  | .bool true => "true".toList
  | .bool false => "false".toList
  | .int n => intText n
  | .float x => x.text
  | .str s => quote s
  | .arr xs => '[' :: renderItems xs
  | .obj kvs => '{' :: renderMembers kvs

/-- The items of a list and its closing bracket. -/
def renderItems : List JsonValue → List Char
  | [] => [']']
  | x :: xs => render x ++ (if xs.isEmpty then [] else [',']) ++ renderItems xs

/-- The members of a dict and its closing brace. -/
def renderMembers : List (String × JsonValue) → List Char
  | [] => ['}']
  | kv :: kvs => renderMember kv ++ (if kvs.isEmpty then [] else [',']) ++ renderMembers kvs

def renderMember : String × JsonValue → List Char
  | (k, v) => quote k ++ ':' :: render v

end

/-- Dict items in key order. -/
def sortItems (kvs : List (String × JsonValue)) : List (String × JsonValue) :=
  kvs.insertionSort fun a b => a.1 ≤ b.1

mutual

/-- `sort_keys=True`: every dict of the value, at every depth, in key order. -/
def sortKeys : JsonValue → JsonValue
  | .null => .null
  | .bool b => .bool b
  | .int n => .int n
  | .float x => .float x
  | .str s => .str s
  | .arr xs => .arr (sortKeysItems xs)
  | .obj kvs => .obj (sortItems (sortKeysMembers kvs))

def sortKeysItems : List JsonValue → List JsonValue
  | [] => []
  | x :: xs => sortKeys x :: sortKeysItems xs

def sortKeysMembers : List (String × JsonValue) → List (String × JsonValue)
  | [] => []
  | kv :: kvs => sortKeysMember kv :: sortKeysMembers kvs

def sortKeysMember : String × JsonValue → String × JsonValue
  | (k, v) => (k, sortKeys v)

end

/-- `json.dumps(value, sort_keys=True, separators=(",", ":"))`. -/
def dumps (v : JsonValue) : String :=
  String.ofList (render (sortKeys v))

/-- The same Python value up to the order of dict keys. -/
def SameJson (v w : JsonValue) : Prop := sortKeys v = sortKeys w

theorem SameJson.symm {v w : JsonValue} (h : SameJson v w) : SameJson w v := Eq.symm h

theorem dumps_congr {v w : JsonValue} (h : SameJson v w) : dumps v = dumps w := by
  unfold dumps
  rw [h]

example : dumps (.obj [("b", .arr [.int (-3), .bool true]), ("a", .str "é\n")]) =
    "\x7b\"a\":\"\\u00e9\\n\",\"b\":[-3,true]\x7d" := by decide

end SentinelAI
