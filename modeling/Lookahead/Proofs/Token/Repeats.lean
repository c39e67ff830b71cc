import Lookahead.Token
import Std.Data.HashSet.Lemmas
import Mathlib.Data.Finset.Card
import Mathlib.Data.Fintype.Basic
import Mathlib.Order.Bounds.Basic

namespace Lookahead.Token

theorem same_iff_key {s t : Token} : s.same t = true ↔ s.key = t.key := beq_iff_eq

/-- The least index of a token equal to the one at `i`. -/
def first (ts : List Token) (i : Fin ts.length) : Fin ts.length :=
  ⟨ts.findIdx fun s => s.same (ts.get i),
    List.findIdx_lt_length_of_exists ⟨ts.get i, ts.get_mem i, same_iff_key.mpr rfl⟩⟩

theorem firstEqual_eq_ofFn (ts : List Token) :
    firstEqual ts = List.ofFn fun i => (first ts i).val := by
  apply List.ext_getElem
  · simp [firstEqual]
  · intro i _ _
    simp [firstEqual, first]

theorem isLeast_first (ts : List Token) (i : Fin ts.length) :
    IsLeast {j | (ts.get j).same (ts.get i) = true} (first ts i) := by
  constructor
  · exact List.findIdx_getElem (w := (first ts i).isLt)
  · intro j hj
    by_contra hlt
    have hnot := List.not_of_lt_findIdx (not_le.mp hlt)
    rw [Bool.eq_false_iff] at hnot
    exact hnot hj

variable {ts : List Token}

theorem key_get_first (i : Fin ts.length) : (ts.get (first ts i)).key = (ts.get i).key :=
  same_iff_key.mp (isLeast_first ts i).1

theorem first_eq_iff {i j : Fin ts.length} :
    first ts i = first ts j ↔ (ts.get i).key = (ts.get j).key := by
  constructor
  · intro h
    rw [← key_get_first i, h, key_get_first j]
  · intro h
    apply (isLeast_first ts i).unique
    simp only [same_iff_key, h]
    simpa only [same_iff_key] using isLeast_first ts j

theorem first_first (i : Fin ts.length) : first ts (first ts i) = first ts i :=
  first_eq_iff.mpr (key_get_first i)

theorem first_le (i : Fin ts.length) : first ts i ≤ i :=
  (isLeast_first ts i).2 (same_iff_key.mpr rfl)

theorem distinct_eq_card (ts : List Token) : distinct ts = (ts.map key).toFinset.card := by
  have hnodup : (Std.HashSet.ofList (ts.map key)).toList.Nodup :=
    Std.HashSet.distinct_toList.imp fun h => by simpa using h
  have hkeys : (Std.HashSet.ofList (ts.map key)).toList.toFinset = (ts.map key).toFinset := by
    ext k
    simp
  rw [distinct, ← Std.HashSet.length_toList, ← List.toFinset_card_of_nodup hnodup, hkeys]

/-- Each key has one token that is the first of its class. -/
theorem card_first_eq (ts : List Token) :
    (Finset.univ.filter fun i => first ts i = i).card = (ts.map key).toFinset.card := by
  apply Finset.card_nbij fun i => (ts.get i).key
  · intro i _
    exact List.mem_toFinset.mpr (List.mem_map_of_mem (ts.get_mem i))
  · intro i hi j hj h
    have hi' : first ts i = i := by simpa using hi
    have hj' : first ts j = j := by simpa using hj
    rw [← hi', ← hj', first_eq_iff]
    exact h
  · intro k hk
    obtain ⟨t, ht, rfl⟩ := List.mem_map.mp (List.mem_toFinset.mp hk)
    obtain ⟨i, rfl⟩ := List.get_of_mem ht
    refine ⟨first ts i, ?_, key_get_first i⟩
    simp [first_first]

theorem repeatsPrevious_eq_ofFn (ts : List Token) :
    repeatsPrevious ts = List.ofFn fun i : Fin (ts.length - 1) =>
      decide (first ts ⟨i + 1, by omega⟩ = first ts ⟨i, by omega⟩) := by
  simp only [first_eq_iff]
  apply List.ext_getElem
  · simp [repeatsPrevious]
  · intro i _ _
    simp [repeatsPrevious, same, Bool.beq_eq_decide_eq]

theorem distinct_congr {us : List Token} (h : ∀ k, k ∈ us.map key ↔ k ∈ ts.map key) :
    distinct us = distinct ts := by
  have hkeys : (us.map key).toFinset = (ts.map key).toFinset := by
    ext k
    rw [List.mem_toFinset, List.mem_toFinset, h k]
  rw [distinct_eq_card, distinct_eq_card, hkeys]

theorem distinct_of_repeats {us : List Token} (hsub : ts.Sublist us)
    (hsame : ∀ u ∈ us, ∃ t ∈ ts, t.same u = true) : distinct us = distinct ts := by
  apply distinct_congr
  intro k
  constructor
  · intro hk
    obtain ⟨u, hu, rfl⟩ := List.mem_map.mp hk
    obtain ⟨t, ht, htu⟩ := hsame u hu
    exact List.mem_map.mpr ⟨t, ht, same_iff_key.mp htu⟩
  · intro hk
    exact (hsub.map key).subset hk

/-- The first index of each class: which tokens it takes together, what it says of neighbours, and how
many there are, whatever the order of the tokens and however often they are repeated. -/
theorem first_represents (ts : List Token) :
    firstEqual ts = (List.ofFn fun i => (first ts i).val) ∧
    (∀ i, IsLeast {j | (ts.get j).same (ts.get i) = true} (first ts i)) ∧
    (∀ i j, first ts i = first ts j ↔ (ts.get i).value = (ts.get j).value ∧
      (ts.get i).kind.code = (ts.get j).kind.code ∧ (ts.get i).line = (ts.get j).line) ∧
    (∀ i, first ts (first ts i) = first ts i ∧ first ts i ≤ i) ∧
    repeatsPrevious ts = (List.ofFn fun i : Fin (ts.length - 1) =>
      decide (first ts ⟨i + 1, by omega⟩ = first ts ⟨i, by omega⟩)) ∧
    distinct ts = (Finset.univ.filter fun i => first ts i = i).card ∧
    (∀ us, us.Perm ts → distinct us = distinct ts) ∧
    ∀ us, ts.Sublist us → (∀ u ∈ us, ∃ t ∈ ts, t.same u = true) → distinct us = distinct ts := by
  refine ⟨firstEqual_eq_ofFn ts, isLeast_first ts, ?_, ?_, repeatsPrevious_eq_ofFn ts, ?_, ?_, ?_⟩
  · intro i j
    rw [first_eq_iff, ← same_iff_key, same_iff]
  · intro i
    exact ⟨first_first i, first_le i⟩
  · rw [distinct_eq_card, card_first_eq]
  · intro us hperm
    exact distinct_congr fun k => (hperm.map key).mem_iff
  · intro us hsub hsame
    exact distinct_of_repeats hsub hsame

example :
    firstEqual [⟨"+", .bare 1, 1⟩, ⟨"-", .bare 1, 1⟩, ⟨"+", .member ⟨"Kind", "PLUS", 1⟩, 1⟩] =
      [0, 1, 0] := by
  decide

end Lookahead.Token
