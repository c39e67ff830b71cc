namespace Lookahead.Utf8

structure Lead where
  following : Nat
  /-- The bits of the character in the lead byte. -/
  bits : Nat
  /-- The least number that needs this many bytes. -/
  least : Nat
deriving DecidableEq, Repr

def lead? (b : UInt8) : Option Lead :=
  let n := b.toNat
  if n < 0x80 then some ⟨0, n, 0⟩
  else if n < 0xc0 then none
  else if n < 0xe0 then some ⟨1, n - 0xc0, 0x80⟩
  else if n < 0xf0 then some ⟨2, n - 0xe0, 0x800⟩
  else if n < 0xf8 then some ⟨3, n - 0xf0, 0x10000⟩
  else none

/-- Appends six bits to `bits` from each of `k` following bytes; gives the number and the rest. -/
def extend? : (k bits : Nat) → List UInt8 → Option (Nat × List UInt8)
  | 0, bits, r => some (bits, r)
  | _ + 1, _, [] => none
  | k + 1, bits, b :: r =>
    if 0x80 ≤ b.toNat ∧ b.toNat < 0xc0 then extend? k (64 * bits + (b.toNat - 0x80)) r else none

/-- The scalar value `n`, unless it fits into fewer bytes. -/
def scalar? (least n : Nat) : Option Char :=
  if least ≤ n ∧ n.isValidChar then some (Char.ofNat n) else none

def next? : List UInt8 → Option (Char × List UInt8)
  | [] => none
  | b :: r => do
    let lead ← lead? b
    let (n, r) ← extend? lead.following lead.bits r
    let c ← scalar? lead.least n
    some (c, r)

theorem length_of_extend? {k bits n : Nat} {s r : List UInt8} (h : extend? k bits s = some (n, r)) :
    s.length = r.length + k := by
  fun_induction extend? k bits s with
  | case1 => simp_all
  | case2 => simp at h
  | case3 k bits b s _ ih => simp [ih h, Nat.add_assoc]
  | case4 => simp at h

theorem length_lt_of_next? {s r : List UInt8} {c : Char} (h : next? s = some (c, r)) :
    r.length < s.length := by
  cases s with
  | nil => simp [next?] at h
  | cons b s =>
    simp only [next?, Option.bind_eq_bind, Option.bind_eq_some_iff] at h
    obtain ⟨lead, _, ⟨n, t⟩, ht, _, _, h⟩ := h
    have hlen := length_of_extend? ht
    cases h
    simp only [List.length_cons]
    omega

def decode? (s : List UInt8) : Option (List Char) :=
  if s.isEmpty then some []
  else
    match h : next? s with
    | none => none
    | some (c, r) =>
      have := length_lt_of_next? h
      (decode? r).map (c :: ·)
termination_by s.length

theorem decode?_nil : decode? [] = some [] := by simp [decode?]

theorem decode?_of_next? {s r : List UInt8} {c : Char} (h : next? s = some (c, r)) :
    decode? s = (decode? r).map (c :: ·) := by
  cases s with
  | nil => simp [next?] at h
  | cons b s =>
    rw [decode?, if_neg (by simp)]
    split
    · next h' => simp [h'] at h
    · next h' => simp_all

end Lookahead.Utf8
