namespace Lookahead.Numeral

def chars : Int → List Char
  | .ofNat n => Nat.toDigits 10 n
  | .negSucc n => '-' :: Nat.toDigits 10 (n + 1)

def text (k : Int) : String := String.ofList (chars k)

def readNat? (ds : List Char) : Option Nat :=
  if !ds.isEmpty && ds.all Char.isDigit then some (Nat.ofDigitChars 10 ds 0) else none

/-- The value of a row of digits with an optional minus sign; leading zeros are read too. -/
def read? : List Char → Option Int
  | '-' :: ds => (readNat? ds).map fun n => -(n : Int)
  | ds => (readNat? ds).map Int.ofNat

def IsPositive : List Char → Prop
  | [] => False
  | d :: ds => d.isDigit ∧ d ≠ '0' ∧ ∀ c ∈ ds, c.isDigit

/-- Zero, or a positive numeral with an optional minus sign. -/
def IsCanonical (s : List Char) : Prop :=
  s = ['0'] ∨ IsPositive s ∨ ∃ ds, s = '-' :: ds ∧ IsPositive ds

def isPart (c : Char) : Bool := c.isDigit || c == '-'

/-- Splits off the numeral that ends a text; gives the text before it and the value. -/
def readLast? (s : List Char) : Option (List Char × Int) :=
  (read? (s.reverse.takeWhile isPart).reverse).map fun k => ((s.reverse.dropWhile isPart).reverse, k)

@[simp] theorem toList_text (k : Int) : (text k).toList = chars k := by simp [text]

theorem text_eq_repr (k : Int) : text k = k.repr := by
  cases k with
  | ofNat n => rfl
  | negSucc n =>
    rw [← String.toList_inj, toList_text]
    simp [Int.repr, chars, Nat.repr]

theorem chars_ne_nil (k : Int) : chars k ≠ [] := by
  cases k with
  | ofNat n => exact Nat.toDigits_ne_nil
  | negSucc n => simp [chars]

theorem isPart_of_mem_chars {k : Int} {c : Char} (h : c ∈ chars k) : isPart c = true := by
  have digit {n : Nat} (hc : c ∈ Nat.toDigits 10 n) : isPart c = true := by
    simp [isPart, Nat.isDigit_of_mem_toDigits (by decide) (by decide) hc]
  cases k with
  | ofNat n => exact digit h
  | negSucc n =>
    rcases List.mem_cons.mp h with rfl | h
    · rfl
    · exact digit h

theorem readNat?_toDigits (n : Nat) : readNat? (Nat.toDigits 10 n) = some n := by
  have hd : (Nat.toDigits 10 n).all Char.isDigit = true := List.all_eq_true.mpr fun _ hc =>
    Nat.isDigit_of_mem_toDigits (by decide) (by decide) hc
  simp [readNat?, hd, Nat.toDigits_ne_nil, Nat.ofDigitChars_ten_toDigits]

theorem read?_chars (k : Int) : read? (chars k) = some k := by
  cases k with
  | ofNat n =>
    have h : ∀ ds, Nat.toDigits 10 n ≠ '-' :: ds := fun ds hds => by
      have hc : '-' ∈ Nat.toDigits 10 n := hds ▸ List.mem_cons_self
      exact absurd (Nat.isDigit_of_mem_toDigits (by decide) (by decide) hc) (by decide)
    simp only [chars]
    unfold read?
    split
    · next ds hds => exact absurd hds (h ds)
    · simp [readNat?_toDigits]
  | negSucc n => simp [chars, read?, readNat?_toDigits, Int.negSucc_eq]

end Lookahead.Numeral
