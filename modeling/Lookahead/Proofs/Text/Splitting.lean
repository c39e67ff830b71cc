import Lookahead.Text.Numeral
import Mathlib.Data.List.Basic

namespace Lookahead

/-- What a text has before the first `c` that counts. Whether a `c` counts depends on what stands
before it. -/
structure IsFront {α : Type} (c : α) (counts : List α → Prop) (front : List α) : Prop where
  counts_here : counts front
  not_before : ∀ before after, front = before ++ c :: after → ¬ counts before

namespace IsFront

variable {α : Type} {c : α} {counts : List α → Prop} {s t u r q : List α}

theorem of_notMem (hs : counts s) (h : c ∉ s) : IsFront c counts s := by
  refine ⟨hs, ?_⟩
  rintro before after rfl
  exact absurd (List.mem_append_right before List.mem_cons_self) h

theorem eq_nil_of_append (hs : counts s) (hsu : IsFront c counts (s ++ u))
    (h : c :: r = u ++ c :: q) : u = [] := by
  cases u with
  | nil => rfl
  | cons d u =>
    obtain ⟨rfl, -⟩ := List.cons.inj h
    exact absurd hs (hsu.not_before s u rfl)

theorem append_inj (hs : IsFront c counts s) (ht : IsFront c counts t)
    (h : s ++ c :: r = t ++ c :: q) : s = t ∧ r = q := by
  have hst : s = t := by
    rcases List.append_eq_append_iff.mp h with ⟨u, rfl, hrest⟩ | ⟨u, rfl, hrest⟩
    · rw [eq_nil_of_append hs.counts_here ht hrest, List.append_nil]
    · rw [eq_nil_of_append ht.counts_here hs hrest, List.append_nil]
  subst hst
  exact ⟨rfl, (List.cons.inj (List.append_cancel_left h)).2⟩

end IsFront

theorem append_cons_inj_of_notMem {α : Type} {c : α} {s t r q : List α} (hs : c ∉ s) (ht : c ∉ t)
    (h : s ++ c :: r = t ++ c :: q) : s = t ∧ r = q := by
  have hfront {u : List α} (hu : c ∉ u) : IsFront c (fun _ => True) u := .of_notMem trivial hu
  exact (hfront hs).append_inj (hfront ht) h

namespace Numeral

theorem chars_injective : Function.Injective chars := by
  intro j k h
  have hread : some j = some k := by rw [← read?_chars j, h, read?_chars]
  exact Option.some.inj hread

theorem text_injective : Function.Injective text := by
  intro j k h
  apply chars_injective
  rw [← toList_text j, h, toList_text]

theorem ne_text_of_read?_eq_none {s : String} (h : read? s.toList = none) (k : Int) : s ≠ text k := by
  rintro rfl
  rw [toList_text, read?_chars] at h
  cases h

section

variable {c : Char} (hc : isPart c = false)

include hc

theorem notMem_chars (k : Int) : c ∉ chars k := by
  intro hmem
  rw [isPart_of_mem_chars hmem] at hc
  cases hc

/-- A numeral at the front of a text ends at a character that is not part of it. -/
theorem chars_append_inj {j k : Int} {s t : List Char} (h : chars j ++ c :: s = chars k ++ c :: t) :
    j = k ∧ s = t := by
  obtain ⟨hchars, hrest⟩ :=
    append_cons_inj_of_notMem (notMem_chars hc j) (notMem_chars hc k) h
  exact ⟨chars_injective hchars, hrest⟩

/-- A numeral at the end of a text is read off back to a character that is not part of it. -/
theorem readLast?_append_chars (s : List Char) (k : Int) :
    readLast? (s ++ c :: chars k) = some (s ++ [c], k) := by
  have hpart : ∀ d ∈ (chars k).reverse, isPart d = true := by
    intro d hd
    exact isPart_of_mem_chars (List.mem_reverse.mp hd)
  have hreverse : (s ++ c :: chars k).reverse = (chars k).reverse ++ c :: s.reverse := by simp
  have hnone : ¬ isPart c = true := by simp [hc]
  unfold readLast?
  rw [hreverse, List.takeWhile_append_of_pos hpart, List.takeWhile_cons_of_neg hnone,
    List.dropWhile_append_of_pos hpart, List.dropWhile_cons_of_neg hnone]
  simp [read?_chars]

theorem append_chars_ne_concat (s t : List Char) (k : Int) : s ++ chars k ≠ t ++ [c] := by
  intro h
  obtain ⟨ds, d, hd⟩ := (List.eq_nil_or_concat' (chars k)).resolve_left (chars_ne_nil k)
  rw [hd, ← List.append_assoc, List.append_singleton_inj] at h
  apply notMem_chars hc k
  rw [hd, h.2]
  exact List.mem_append_right ds List.mem_cons_self

theorem append_chars_inj {s t : List Char} {j k : Int} (h : s ++ c :: chars j = t ++ c :: chars k) :
    s = t ∧ j = k := by
  have hread := readLast?_append_chars hc s j
  rw [h, readLast?_append_chars hc t k] at hread
  obtain ⟨hfront, hvalue⟩ := Prod.mk.inj (Option.some.inj hread)
  exact ⟨(List.append_cancel_right hfront).symm, hvalue.symm⟩

end

end Numeral

end Lookahead
