import Lookahead.NameSource

namespace Lookahead

namespace Numeral

theorem exists_digitChar {c : Char} (h : c.isDigit = true) : ∃ n < 10, c = Nat.digitChar n := by
  obtain ⟨hle, hge⟩ := Char.isDigit_iff_toNat.mp h
  have hzero : '0'.toNat = 48 := rfl
  have hnine : '9'.toNat = 57 := rfl
  refine ⟨c.toNat - 48, by omega, ?_⟩
  rw [← Char.toNat_inj, Nat.toNat_digitChar_of_lt_ten (by omega)]
  omega

/-- Digits after the numeral of a positive number give the numeral of the number read on. -/
theorem toDigits_append {n : Nat} (hn : 0 < n) {ds : List Char} (hds : ∀ c ∈ ds, c.isDigit = true) :
    Nat.toDigits 10 n ++ ds = Nat.toDigits 10 (Nat.ofDigitChars 10 ds n) := by
  induction ds generalizing n with
  | nil => rw [List.append_nil, Nat.ofDigitChars_nil]
  | cons c ds ih =>
    obtain ⟨hc, hrest⟩ := List.forall_mem_cons.mp hds
    obtain ⟨d, hd, rfl⟩ := exists_digitChar hc
    calc
      Nat.toDigits 10 n ++ d.digitChar :: ds = (Nat.toDigits 10 n ++ Nat.toDigits 10 d) ++ ds := by
        rw [Nat.toDigits_of_lt_base hd, List.append_assoc, List.singleton_append]
      _ = Nat.toDigits 10 (10 * n + d) ++ ds := by
        rw [Nat.toDigits_append_toDigits (by decide) hn hd]
      _ = Nat.toDigits 10 (Nat.ofDigitChars 10 (d.digitChar :: ds) n) := by
        rw [ih (by omega) hrest, Nat.ofDigitChars_cons_digitChar_of_lt_ten hd]

theorem isPositive_concat {s : List Char} {c : Char} (hs : IsPositive s) (hc : c.isDigit = true) :
    IsPositive (s ++ [c]) := by
  cases s with
  | nil => exact hs.elim
  | cons d ds =>
    obtain ⟨hdigit, hzero, hds⟩ := hs
    refine ⟨hdigit, hzero, ?_⟩
    intro e he
    rcases List.mem_append.mp he with he | he
    · exact hds e he
    · rwa [List.mem_singleton.mp he]

theorem isPositive_toDigits {n : Nat} (hn : 0 < n) : IsPositive (Nat.toDigits 10 n) := by
  induction n using Nat.base_induction 10 (by decide) with
  | single n hlt =>
    rw [Nat.toDigits_of_lt_base hlt]
    refine ⟨by simpa using hlt, ?_, nofun⟩
    rw [ne_eq, Nat.digitChar_eq_zero]
    omega
  | digit n d hd hpos ih =>
    rw [← Nat.toDigits_append_toDigits (by decide) hpos hd, Nat.toDigits_of_lt_base hd]
    exact isPositive_concat (ih hpos) (by simpa using hd)

theorem exists_toDigits_of_isPositive {s : List Char} (h : IsPositive s) :
    ∃ n, Nat.toDigits 10 n = s := by
  cases s with
  | nil => exact h.elim
  | cons c ds =>
    obtain ⟨hdigit, hzero, hds⟩ := h
    obtain ⟨d, hd, rfl⟩ := exists_digitChar hdigit
    have hpos : 0 < d := by
      rw [Nat.pos_iff_ne_zero]
      rintro rfl
      exact hzero rfl
    refine ⟨Nat.ofDigitChars 10 ds d, ?_⟩
    rw [← toDigits_append hpos hds, Nat.toDigits_of_lt_base hd, List.singleton_append]

theorem isPositive_iff (s : List Char) : IsPositive s ↔ ∃ n, Nat.toDigits 10 (n + 1) = s := by
  constructor
  · intro h
    obtain ⟨n, rfl⟩ := exists_toDigits_of_isPositive h
    cases n with
    | zero => exact absurd rfl h.2.1
    | succ n => exact ⟨n, rfl⟩
  · rintro ⟨n, rfl⟩
    exact isPositive_toDigits n.succ_pos

theorem exists_chars_eq_iff (s : List Char) : (∃ k, chars k = s) ↔ IsCanonical s := by
  unfold IsCanonical
  simp only [isPositive_iff]
  constructor
  · rintro ⟨k, rfl⟩
    rcases k with (_ | n) | n
    · exact Or.inl rfl
    · exact Or.inr (Or.inl ⟨n, rfl⟩)
    · exact Or.inr (Or.inr ⟨_, rfl, n, rfl⟩)
  · rintro (rfl | ⟨n, rfl⟩ | ⟨_, rfl, n, rfl⟩)
    · exact ⟨0, rfl⟩
    · exact ⟨Int.ofNat (n + 1), rfl⟩
    · exact ⟨Int.negSucc n, rfl⟩

end Numeral

namespace NameSource

/-- Every kind is called by the numeral of its code, which reads back as the code, and the numerals are
the canonical texts. -/
theorem decimal_names_canonical :
    (∀ k : Kind, ∃ s, decimal.resolver k = .ok s ∧ Numeral.read? s.toList = some k.code) ∧
    ∀ s : String, (∃ code : Int, decimal.resolver (.bare code) = .ok s) ↔
      Numeral.IsCanonical s.toList := by
  constructor
  · intro k
    refine ⟨k.decimal, rfl, ?_⟩
    rw [Kind.decimal, Numeral.toList_text, Numeral.read?_chars]
  · intro s
    rw [← Numeral.exists_chars_eq_iff]
    apply exists_congr
    intro code
    show Except.ok (Numeral.text code) = Except.ok s ↔ _
    rw [Except.ok.injEq, ← String.toList_inj, Numeral.toList_text]

end NameSource

end Lookahead
