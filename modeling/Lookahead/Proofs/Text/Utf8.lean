import Lookahead.Text.Utf8
import Mathlib.Algebra.Ring.Nat

namespace Lookahead.Utf8

/-- The low `6 * k` bits of `n`, six in each of `k` following bytes. -/
def following (n : Nat) : (k : Nat) → List UInt8
  | 0 => []
  | k + 1 => UInt8.ofNat (0x80 + n / 64 ^ k % 64) :: following n k

theorem extend?_eq_some_iff {k bits n : Nat} {s r : List UInt8} :
    extend? k bits s = some (n, r) ↔ n / 64 ^ k = bits ∧ s = following n k ++ r := by
  induction k generalizing bits s with
  | zero => simp [extend?, following, eq_comm]
  | succ k ih =>
    have hdiv : n / 64 ^ (k + 1) = n / 64 ^ k / 64 := by rw [Nat.pow_succ, Nat.div_div_eq_div_mul]
    have hbyte : (UInt8.ofNat (0x80 + n / 64 ^ k % 64)).toNat = 0x80 + n / 64 ^ k % 64 :=
      UInt8.toNat_ofNat_of_lt' (by simp only [UInt8.size]; omega)
    cases s with
    | nil => simp [extend?, following]
    | cons b s =>
      rw [extend?, hdiv, following, List.cons_append, List.cons.injEq, ← UInt8.toNat_inj, hbyte]
      split
      · rw [ih, ← and_assoc]
        apply and_congr_left'
        omega
      · simp only [reduceCtorEq, false_iff]
        omega

theorem scalar?_eq_some_iff {least n : Nat} {c : Char} :
    scalar? least n = some c ↔ least ≤ n ∧ n = c.toNat := by
  unfold scalar?
  constructor
  · intro h
    split at h
    · next hvalid =>
      obtain rfl := Option.some.inj h
      refine ⟨hvalid.1, ?_⟩
      rw [Char.ofNat, dif_pos hvalid.2]
      rfl
    · cases h
  · rintro ⟨hleast, rfl⟩
    rw [if_pos ⟨hleast, c.valid⟩, Char.ofNat_toNat]

/-- The shortest forms: how many bytes follow the lead byte, the mark of that length in the lead byte,
and the least number that needs so many. -/
inductive Shortest (n : Nat) : (count mark least : Nat) → Prop where
  | one (hlt : n < 0x80) : Shortest n 0 0 0
  | two (hle : 0x80 ≤ n) (hlt : n < 0x800) : Shortest n 1 0xc0 0x80
  | three (hle : 0x800 ≤ n) (hlt : n < 0x10000) : Shortest n 2 0xe0 0x800
  | four (hle : 0x10000 ≤ n) (hlt : n < 0x110000) : Shortest n 3 0xf0 0x10000

theorem toNat_lt (c : Char) : c.toNat < 0x110000 := by
  have hvalid : c.toNat.isValidChar := c.valid
  unfold Nat.isValidChar at hvalid
  omega

theorem exists_shortest (c : Char) : ∃ count mark least, Shortest c.toNat count mark least := by
  have hlt := toNat_lt c
  by_cases h1 : c.toNat < 0x80
  · exact ⟨_, _, _, .one h1⟩
  by_cases h2 : c.toNat < 0x800
  · exact ⟨_, _, _, .two (Nat.le_of_not_lt h1) h2⟩
  by_cases h3 : c.toNat < 0x10000
  · exact ⟨_, _, _, .three (Nat.le_of_not_lt h2) h3⟩
  · exact ⟨_, _, _, .four (Nat.le_of_not_lt h3) hlt⟩

section Shortest

variable {n count mark least : Nat} (h : Shortest n count mark least)

include h

theorem Shortest.least_le : least ≤ n := by
  cases h <;> omega

theorem Shortest.lead_lt : mark + n / 64 ^ count < UInt8.size := by
  cases h <;> simp only [UInt8.size] <;> omega

theorem Shortest.lead?_eq :
    lead? (UInt8.ofNat (mark + n / 64 ^ count)) = some ⟨count, n / 64 ^ count, least⟩ := by
  have hlead := UInt8.toNat_ofNat_of_lt' h.lead_lt
  simp only [lead?, hlead]
  cases h with
  | one hlt => rw [if_pos (by omega), Nat.zero_add]
  | two hle hlt =>
    rw [if_neg (by omega), if_neg (by omega), if_pos (by omega), Nat.add_sub_cancel_left]
  | three hle hlt =>
    rw [if_neg (by omega), if_neg (by omega), if_neg (by omega), if_pos (by omega),
      Nat.add_sub_cancel_left]
  | four hle hlt =>
    rw [if_neg (by omega), if_neg (by omega), if_neg (by omega), if_neg (by omega), if_pos (by omega),
      Nat.add_sub_cancel_left]

end Shortest

/-- A lead byte that fits the topmost bits of a number is that of its shortest form. -/
theorem shortest_of_lead? {b : UInt8} {count bits least n : Nat}
    (hlead : lead? b = some ⟨count, bits, least⟩) (hbits : n / 64 ^ count = bits) (hleast : least ≤ n)
    (hn : n < 0x110000) :
    ∃ mark, Shortest n count mark least ∧ b = UInt8.ofNat (mark + n / 64 ^ count) := by
  have hbyte {mark : Nat} (h : b.toNat = mark + bits) : b = UInt8.ofNat (mark + bits) := by
    rw [← h, UInt8.ofNat_toNat]
  rw [hbits]
  simp only [lead?] at hlead
  split at hlead
  · cases hlead
    exact ⟨_, .one (by omega), hbyte (by omega)⟩
  split at hlead
  · cases hlead
  split at hlead
  · cases hlead
    exact ⟨_, .two hleast (by omega), hbyte (by omega)⟩
  split at hlead
  · cases hlead
    exact ⟨_, .three hleast (by omega), hbyte (by omega)⟩
  split at hlead
  · cases hlead
    exact ⟨_, .four hleast hn, hbyte (by omega)⟩
  · cases hlead

theorem utf8EncodeChar_of_shortest {c : Char} {count mark least : Nat}
    (h : Shortest c.toNat count mark least) :
    String.utf8EncodeChar c = UInt8.ofNat (mark + c.toNat / 64 ^ count) :: following c.toNat count := by
  have hval : c.val.toNat = c.toNat := rfl
  simp only [String.utf8EncodeChar, hval]
  cases h with
  | one hlt =>
    rw [if_pos (by omega)]
    simp [following]
  | two hle hlt =>
    have htop : c.toNat / 64 % 0x20 = c.toNat / 64 := by omega
    rw [if_neg (by omega), if_pos (by omega), htop]
    simp [following, Nat.add_comm]
  | three hle hlt =>
    have htop : c.toNat / 4096 % 0x10 = c.toNat / 4096 := by omega
    rw [if_neg (by omega), if_neg (by omega), if_pos (by omega), htop]
    simp [following, Nat.add_comm]
  | four hle hlt =>
    have htop : c.toNat / 262144 % 0x08 = c.toNat / 262144 := by omega
    rw [if_neg (by omega), if_neg (by omega), if_neg (by omega), htop]
    simp [following, Nat.add_comm]

theorem next?_eq_some_iff {s r : List UInt8} {c : Char} :
    next? s = some (c, r) ↔ s = String.utf8EncodeChar c ++ r := by
  constructor
  · intro h
    cases s with
    | nil => cases h
    | cons b s =>
      simp only [next?, Option.bind_eq_bind, Option.bind_eq_some_iff, Option.some.injEq,
        Prod.mk.injEq] at h
      obtain ⟨lead, hlead, ⟨n, t⟩, hextend, d, hscalar, rfl, rfl⟩ := h
      obtain ⟨hbits, rfl⟩ := extend?_eq_some_iff.mp hextend
      obtain ⟨hleast, rfl⟩ := scalar?_eq_some_iff.mp hscalar
      obtain ⟨mark, hshortest, rfl⟩ := shortest_of_lead? hlead hbits hleast (toNat_lt d)
      rw [utf8EncodeChar_of_shortest hshortest]
      rfl
  · rintro rfl
    obtain ⟨count, mark, least, hshortest⟩ := exists_shortest c
    have hextend := extend?_eq_some_iff (r := r).mpr ⟨Eq.refl (c.toNat / 64 ^ count), rfl⟩
    have hscalar := scalar?_eq_some_iff.mpr ⟨hshortest.least_le, rfl⟩
    rw [utf8EncodeChar_of_shortest hshortest, List.cons_append, next?]
    simp only [Option.bind_eq_bind, hshortest.lead?_eq, Option.bind_some, hextend, hscalar]

/-- An overlong form, a surrogate, a number beyond the last character, a following byte on its own, a
missing one, and a character cut short. -/
example : ∀ s ∈ ([[0xc0, 0x80], [0xed, 0xa0, 0x80], [0xf4, 0x90, 0x80, 0x80], [0x80],
    [0xe2, 0x28, 0xa1], [0xe2, 0x82]] : List (List UInt8)), next? s = none := by
  decide

def encode (t : String) : List UInt8 := t.toUTF8.data.toList

theorem encode_ofList (l : List Char) : encode (String.ofList l) = l.flatMap String.utf8EncodeChar := by
  simp [encode, List.utf8Encode]

/-- The reader gives the text that the bytes encode. -/
theorem decode?_eq_some_iff {s : List UInt8} {l : List Char} :
    decode? s = some l ↔ encode (String.ofList l) = s := by
  rw [encode_ofList]
  constructor
  · intro h
    fun_induction decode? s generalizing l with
    | case1 s hempty =>
      obtain rfl := Option.some.inj h
      exact (List.isEmpty_iff.mp hempty).symm
    | case2 => cases h
    | case3 s _ c r hnext _ ih =>
      obtain ⟨l, hrest, rfl⟩ := Option.map_eq_some_iff.mp h
      rw [List.flatMap_cons, ih hrest, next?_eq_some_iff.mp hnext]
  · rintro rfl
    induction l with
    | nil => exact decode?_nil
    | cons c l ih =>
      rw [List.flatMap_cons, decode?_of_next? (next?_eq_some_iff.mpr rfl), ih]
      rfl

theorem encode_injective : Function.Injective encode := by
  intro t u h
  obtain ⟨l, rfl⟩ := t.exists_eq_ofList
  obtain ⟨m, rfl⟩ := u.exists_eq_ofList
  have hread : some l = some m := by
    rw [← decode?_eq_some_iff.mpr h, decode?_eq_some_iff.mpr rfl]
  rw [Option.some.inj hread]

end Lookahead.Utf8
