import Mathlib.Data.String.Basic
import SentinelAI.Core.JsonText
import SentinelAI.Lib.KeyedLists

/-
  Equality of JSON values up to the order of the keys of their objects, at every depth.

  `EqualUpToOrder` compares lists item by item and dicts by their number of keys and a lookup
  of each, as Python does; it names neither sorting nor a text. Leaves are compared as JSON's:
  a boolean is no number, and a float is its `repr`. For values whose dicts have distinct keys,
  as all of Python's have, it is what `json.dumps` with sorted keys decides
  (`dumps_eq_iff_equalUpToOrder`).
-/

namespace SentinelAI

open Lib

mutual

/-- No dict of the value has a key twice, at any depth. -/
def DistinctKeys : JsonValue → Prop
  | .arr xs => DistinctKeysItems xs
  | .obj kvs => KeysDistinct kvs ∧ DistinctKeysMembers kvs
  | _ => True

def DistinctKeysItems : List JsonValue → Prop
  | [] => True
  | x :: xs => DistinctKeys x ∧ DistinctKeysItems xs

def DistinctKeysMembers : List (String × JsonValue) → Prop
  | [] => True
  | kv :: kvs => DistinctKeysMember kv ∧ DistinctKeysMembers kvs

def DistinctKeysMember : String × JsonValue → Prop
  | (_, v) => DistinctKeys v

end

mutual

/-- The same value up to the order of the keys of its dicts. -/
def EqualUpToOrder : JsonValue → JsonValue → Prop
  | .arr xs, w => ∃ ys, w = .arr ys ∧ ItemsEqual xs ys
  | .obj kvs, w => ∃ kvs', w = .obj kvs' ∧ kvs.length = kvs'.length ∧ MembersFound kvs kvs'
  | v, w => v = w

/-- Two lists, item by item. -/
def ItemsEqual : List JsonValue → List JsonValue → Prop
  | [], ys => ys = []
  | x :: xs, ys => ∃ y ys', ys = y :: ys' ∧ EqualUpToOrder x y ∧ ItemsEqual xs ys'

/-- Under each key of the first dict the second has an equal value. -/
def MembersFound : List (String × JsonValue) → List (String × JsonValue) → Prop
  | [], _ => True
  | kv :: kvs, kvs' => MemberFound kv kvs' ∧ MembersFound kvs kvs'

def MemberFound : String × JsonValue → List (String × JsonValue) → Prop
  | (k, v), kvs' => ∃ w, dictGet kvs' k = some w ∧ EqualUpToOrder v w

end

/-! ## Sorting keys -/

theorem sortKeysMembers_eq_map (kvs : List (String × JsonValue)) :
    sortKeysMembers kvs = kvs.map sortKeysMember := by
  induction kvs with
  | nil => rfl
  | cons kv kvs ih => rw [sortKeysMembers, ih, List.map_cons]

theorem sortKeysMember_fst (kv : String × JsonValue) : (sortKeysMember kv).1 = kv.1 := by
  obtain ⟨k, v⟩ := kv
  rfl

theorem keysDistinct_sortKeysMembers {kvs : List (String × JsonValue)} (h : KeysDistinct kvs) :
    KeysDistinct (sortKeysMembers kvs) := by
  rw [sortKeysMembers_eq_map]
  exact h.map_values sortKeysMember sortKeysMember_fst

/-- Two dicts have one sorted form: as many members, and each of the first is in the second. -/
theorem sortKeys_obj_eq_iff {kvs kvs' : List (String × JsonValue)} (h : KeysDistinct kvs) :
    sortKeys (.obj kvs) = sortKeys (.obj kvs') ↔
      kvs.length = kvs'.length ∧ ∀ kv ∈ kvs, sortKeysMember kv ∈ sortKeysMembers kvs' := by
  have h' := keysDistinct_sortKeysMembers h
  rw [sortKeys, sortKeys, JsonValue.obj.injEq, sortItems, sortItems, h'.insertionSort_eq_iff,
    h'.perm_iff, sortKeysMembers_eq_map, sortKeysMembers_eq_map, List.length_map, List.length_map,
    List.forall_mem_map]

/-- A member of a dict, its keys sorted, is in another: the other has that value, its keys
    sorted, under that key. -/
theorem sortKeysMember_mem_iff {kvs : List (String × JsonValue)} (h : KeysDistinct kvs) (k : String)
    (v : JsonValue) :
    sortKeysMember (k, v) ∈ sortKeysMembers kvs ↔
      ∃ w, dictGet kvs k = some w ∧ sortKeys v = sortKeys w := by
  rw [sortKeysMembers_eq_map, List.mem_map]
  constructor
  · intro ⟨⟨k', w⟩, hmem, heq⟩
    obtain ⟨rfl, hw⟩ := Prod.mk.inj heq
    exact ⟨w, h.find?_eq_some.mpr hmem, hw.symm⟩
  · intro ⟨w, hget, hw⟩
    refine ⟨(k, w), h.find?_eq_some.mp hget, ?_⟩
    rw [sortKeysMember, sortKeysMember, hw]

/-- What is under a key of a dict has distinct keys too. -/
theorem DistinctKeysMembers.get {kvs : List (String × JsonValue)} (h : DistinctKeysMembers kvs)
    {k : String} {w : JsonValue} (hget : dictGet kvs k = some w) : DistinctKeys w := by
  obtain ⟨kv, hfind, rfl⟩ := Option.map_eq_some_iff.mp hget
  have hmem := List.mem_of_find?_eq_some hfind
  clear hfind hget
  induction kvs with
  | nil => cases hmem
  | cons kv' kvs ih =>
    obtain ⟨k', w⟩ := kv
    obtain rfl | hmem := List.mem_cons.mp hmem
    · exact h.1
    · exact ih h.2 hmem

/-! ## Equality up to order -/

mutual

/-- Two values are equal up to order exactly when their dicts' sorted forms agree. -/
theorem equalUpToOrder_iff : ∀ v w : JsonValue, DistinctKeys v → DistinctKeys w →
    (EqualUpToOrder v w ↔ SameJson v w)
  | .null, w, _, _ => by
      unfold SameJson
      cases w <;> simp [EqualUpToOrder, sortKeys]
  | .bool b, w, _, _ => by
      unfold SameJson
      cases w <;> simp [EqualUpToOrder, sortKeys]
  | .int n, w, _, _ => by
      unfold SameJson
      cases w <;> simp [EqualUpToOrder, sortKeys]
  | .float x, w, _, _ => by
      unfold SameJson
      cases w <;> simp [EqualUpToOrder, sortKeys]
  | .str s, w, _, _ => by
      unfold SameJson
      cases w <;> simp [EqualUpToOrder, sortKeys]
  | .arr xs, w, hv, hw => by
      unfold SameJson
      cases w with
      | arr ys =>
        rw [sortKeys, sortKeys, JsonValue.arr.injEq, ← itemsEqual_iff xs ys hv hw]
        simp [EqualUpToOrder]
      | _ => simp [EqualUpToOrder, sortKeys]
  | .obj kvs, w, hv, hw => by
      unfold SameJson
      cases w with
      | obj kvs' =>
        rw [sortKeys_obj_eq_iff hv.1, ← membersFound_iff kvs kvs' hv.2 hw]
        simp [EqualUpToOrder]
      | _ => simp [EqualUpToOrder, sortKeys]

theorem itemsEqual_iff : ∀ xs ys : List JsonValue, DistinctKeysItems xs → DistinctKeysItems ys →
    (ItemsEqual xs ys ↔ sortKeysItems xs = sortKeysItems ys)
  | [], ys, _, _ => by cases ys <;> simp [ItemsEqual, sortKeysItems]
  | x :: xs, [], _, _ => by simp [ItemsEqual, sortKeysItems]
  | x :: xs, y :: ys, hxs, hys => by
      have hhead : EqualUpToOrder x y ↔ sortKeys x = sortKeys y :=
        equalUpToOrder_iff x y hxs.1 hys.1
      rw [sortKeysItems, sortKeysItems, List.cons.injEq, ← itemsEqual_iff xs ys hxs.2 hys.2, ← hhead]
      simp [ItemsEqual]

theorem membersFound_iff : ∀ kvs kvs' : List (String × JsonValue), DistinctKeysMembers kvs →
    DistinctKeys (.obj kvs') →
    (MembersFound kvs kvs' ↔ ∀ kv ∈ kvs, sortKeysMember kv ∈ sortKeysMembers kvs')
  | [], kvs', _, _ => by simp [MembersFound]
  | kv :: kvs, kvs', hkvs, hkvs' => by
      rw [MembersFound, List.forall_mem_cons, membersFound_iff kvs kvs' hkvs.2 hkvs',
        memberFound_iff kv kvs' hkvs.1 hkvs']

theorem memberFound_iff : ∀ (kv : String × JsonValue) (kvs' : List (String × JsonValue)),
    DistinctKeysMember kv → DistinctKeys (.obj kvs') →
    (MemberFound kv kvs' ↔ sortKeysMember kv ∈ sortKeysMembers kvs')
  | (k, v), kvs', hkv, hkvs' => by
      rw [sortKeysMember_mem_iff hkvs'.1, MemberFound]
      constructor
      · intro ⟨w, hget, hw⟩
        exact ⟨w, hget, (equalUpToOrder_iff v w hkv (hkvs'.2.get hget)).mp hw⟩
      · intro ⟨w, hget, hw⟩
        exact ⟨w, hget, (equalUpToOrder_iff v w hkv (hkvs'.2.get hget)).mpr hw⟩

end

/-- `json.dumps(…, sort_keys=True)` gives two values one text exactly when they are equal up to
    the order of the keys of their dicts. -/
theorem dumps_eq_iff_equalUpToOrder {v w : JsonValue} (hv : DistinctKeys v) (hw : DistinctKeys w) :
    dumps v = dumps w ↔ EqualUpToOrder v w := by
  rw [dumps_eq_iff, equalUpToOrder_iff v w hv hw]

end SentinelAI
