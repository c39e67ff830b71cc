import Lookahead.Proofs.Text.Splitting
import Lookahead.Text.Quoted
import Mathlib.Algebra.Ring.Parity
import Mathlib.Data.List.DropRight

namespace Lookahead.Quoted

/-- A character after this text is escaped: the run of backslashes that the text ends in is odd. -/
def EndsEscaping (s : List Char) : Prop := Odd (s.rtakeWhile fun c => c == '\\').length

/-- What stands before the first mark `m` that is not escaped. -/
abbrev IsBody (m : Char) : List Char → Prop := IsFront m fun s => ¬ EndsEscaping s

theorem not_endsEscaping_nil : ¬ EndsEscaping [] := by simp [EndsEscaping]

theorem endsEscaping_concat (s : List Char) (c : Char) :
    EndsEscaping (s ++ [c]) ↔ c = '\\' ∧ ¬ EndsEscaping s := by
  unfold EndsEscaping
  rw [List.rtakeWhile_concat]
  by_cases hc : c = '\\'
  · rw [if_pos (beq_iff_eq.mpr hc), List.length_append, List.length_singleton, Nat.odd_add_one,
      and_iff_right hc]
  · simp [hc]

theorem endsEscaping_append {s : List Char} (hs : ¬ EndsEscaping s) (t : List Char) :
    EndsEscaping (s ++ t) ↔ EndsEscaping t := by
  induction t using List.reverseRecOn with
  | nil => simp [hs, not_endsEscaping_nil]
  | append_singleton t c ih =>
    rw [← List.append_assoc, endsEscaping_concat, endsEscaping_concat, ih]

theorem not_endsEscaping_of_notMem {s : List Char} (h : '\\' ∉ s) : ¬ EndsEscaping s := by
  rcases s.eq_nil_or_concat' with rfl | ⟨t, c, rfl⟩
  · exact not_endsEscaping_nil
  · intro hends
    obtain ⟨rfl, -⟩ := (endsEscaping_concat t c).mp hends
    exact h (List.mem_append_right t List.mem_cons_self)

theorem isBody_nil (m : Char) : IsBody m [] := .of_notMem not_endsEscaping_nil List.not_mem_nil

theorem isBody_append {m : Char} {s t : List Char} (hs : IsBody m s) (ht : IsBody m t) :
    IsBody m (s ++ t) := by
  refine ⟨mt (endsEscaping_append hs.counts_here t).mp ht.counts_here, ?_⟩
  intro before after h
  rw [not_not]
  -- the mark stands in one of the two texts, after the front of that text
  rcases List.append_eq_append_iff.mp h with ⟨u, rfl, hu⟩ | ⟨u, hu, hrest⟩
  · exact (endsEscaping_append hs.counts_here u).mpr (not_not.mp (ht.not_before u after hu))
  · cases u with
    | nil => exact absurd not_endsEscaping_nil (ht.not_before [] after hrest.symm)
    | cons d u =>
      obtain ⟨rfl, -⟩ := List.cons.inj hrest
      exact not_not.mp (hs.not_before before u hu)

def IsMark (m : Char) : Prop := m = '\'' ∨ m = '"'

theorem isMark_mark (s : List Char) : IsMark (mark s) := by
  unfold mark
  split
  · exact Or.inr rfl
  · exact Or.inl rfl

section Mark

variable {m : Char} (h : IsMark m)

include h

theorem IsMark.ne_backslash : m ≠ '\\' := by
  rcases h with rfl | rfl <;> decide

theorem IsMark.unescape_eq : unescape m = m := by
  rcases h with rfl | rfl <;> rfl

theorem IsMark.digitCount?_eq_none : digitCount? m = none := by
  rcases h with rfl | rfl <;> rfl

theorem IsMark.hexValue?_eq_none : hexValue? m = none := by
  rcases h with rfl | rfl <;> rfl

end Mark

theorem hexValue?_digitChar : ∀ d < 16, hexValue? (Nat.digitChar d) = some d := by decide

theorem length_hexDigits (k n : Nat) : (hexDigits k n).length = k := by
  induction k with
  | zero => rfl
  | succ k ih => rw [hexDigits, List.length_cons, ih]

theorem notMem_hexDigits {c : Char} (hc : hexValue? c = none) (k n : Nat) : c ∉ hexDigits k n := by
  induction k with
  | zero => exact List.not_mem_nil
  | succ k ih =>
    have hdigit := hexValue?_digitChar (n >>> (4 * k) % 16) (by omega)
    rw [hexDigits, List.mem_cons, not_or]
    refine ⟨?_, ih⟩
    rintro rfl
    rw [hc] at hdigit
    cases hdigit

/-- The digits are read after those that the number has above them. -/
theorem readHex?_hexDigits {k n above : Nat} (h : n >>> (4 * k) = above) (r : List Char) :
    readHex? k above (hexDigits k n ++ r) = some n := by
  induction k generalizing above with
  | zero =>
    rw [← h]
    rfl
  | succ k ih =>
    have hdigit := hexValue?_digitChar (n >>> (4 * k) % 16) (by omega)
    have hnext : n >>> (4 * k) = 16 * above + n >>> (4 * k) % 16 := by
      rw [← h, Nat.mul_succ, Nat.shiftRight_add]
      omega
    rw [hexDigits, List.cons_append, readHex?, hdigit]
    exact ih hnext

/-- The forms that a character may have between marks `m`. -/
inductive Form (m c : Char) : List Char → Prop where
  | plain (hslash : c ≠ '\\') (hmark : c ≠ m) : Form m c [c]
  | short {e : Char} (he : unescape e = c) (hcount : digitCount? e = none) : Form m c ['\\', e]
  | number {e : Char} {k : Nat} (hcount : digitCount? e = some k) (hfits : c.toNat >>> (4 * k) = 0) :
      Form m c ('\\' :: e :: hexDigits k c.toNat)

theorem form_number (m c : Char) : Form m c (number c) := by
  have hlt : c.toNat < 0x100000000 := c.val.toNat_lt
  unfold number
  split
  · exact .number rfl (by omega)
  split
  · exact .number rfl (by omega)
  · exact .number rfl (by omega)

theorem form_escape (shows : Char → Bool) {m : Char} (hm : IsMark m) (c : Char) :
    Form m c (escape shows m c) := by
  unfold escape
  split
  · next hc => exact .short hc.symm rfl
  split
  · next hc => exact .short (hm.unescape_eq.trans hc.symm) hm.digitCount?_eq_none
  split
  · next hc => exact .short hc.symm rfl
  split
  · next hc => exact .short hc.symm rfl
  split
  · next hc => exact .short hc.symm rfl
  split
  · next hslash hmark _ _ _ _ => exact .plain hslash hmark
  · exact form_number m c

section Form

variable {m c : Char} {w : List Char}

theorem not_endsEscaping_of_form (h : Form m c w) : ¬ EndsEscaping w := by
  have hpair (e : Char) : ¬ EndsEscaping ['\\', e] := by
    intro hends
    have hfirst : ¬ EndsEscaping ['\\'] := ((endsEscaping_concat ['\\'] e).mp hends).2
    exact hfirst ((endsEscaping_concat [] '\\').mpr ⟨rfl, not_endsEscaping_nil⟩)
  cases h with
  | plain hslash hmark => exact not_endsEscaping_of_notMem (by simpa using hslash.symm)
  | @short e he hcount => exact hpair e
  | @number e k hcount hfits =>
    have hdigits : ¬ EndsEscaping (hexDigits k c.toNat) :=
      not_endsEscaping_of_notMem (notMem_hexDigits rfl k c.toNat)
    exact mt (endsEscaping_append (hpair e) _).mp hdigits

theorem isBody_of_form (hm : IsMark m) (h : Form m c w) : IsBody m w := by
  have hends := not_endsEscaping_of_form h
  cases h with
  | plain _ hmark => exact .of_notMem hends (by simpa using hmark.symm)
  | @short e he hcount =>
    -- the only mark that the form can have stands right after the backslash
    refine ⟨hends, ?_⟩
    intro before after hw
    rw [not_not]
    cases before with
    | nil => exact absurd (List.cons.inj hw).1.symm hm.ne_backslash
    | cons d before =>
      obtain ⟨rfl, hrest⟩ := List.cons.inj hw
      cases before with
      | nil => exact (endsEscaping_concat [] '\\').mpr ⟨rfl, not_endsEscaping_nil⟩
      | cons _ before => simp at hrest
  | @number e k hcount hfits =>
    have hletter : m ≠ e := by
      rintro rfl
      rw [hm.digitCount?_eq_none] at hcount
      cases hcount
    have hdigits := notMem_hexDigits hm.hexValue?_eq_none k c.toNat
    exact .of_notMem hends (by simp [hm.ne_backslash, hletter, hdigits])

theorem decodeBody?_cons (hslash : c ≠ '\\') (r : List Char) :
    decodeBody? m (c :: r) =
      if c = m then some ([], r) else (decodeBody? m r).map fun p => (c :: p.1, p.2) := by
  rw [decodeBody?]
  · cases decodeBody? m r <;> rfl
  · intro _ _ hc
    exact absurd hc hslash

/-- The reader takes a character in any of its forms. -/
theorem decodeBody?_form (h : Form m c w) (r : List Char) :
    decodeBody? m (w ++ r) = (decodeBody? m r).map fun p => (c :: p.1, p.2) := by
  cases h with
  | plain hslash hmark =>
    rw [List.singleton_append, decodeBody?_cons hslash, if_neg hmark]
  | @short e he hcount =>
    rw [List.cons_append, List.singleton_append, decodeBody?, hcount, he]
    cases decodeBody? m r <;> rfl
  | @number e k hcount hfits =>
    have hnumber := readHex?_hexDigits hfits r
    have hrest : (hexDigits k c.toNat ++ r).drop k = r :=
      List.drop_left' (length_hexDigits k c.toNat)
    rw [List.cons_append, List.cons_append, decodeBody?, hcount]
    simp only [Option.bind_eq_bind, hnumber, Option.bind_some, hrest, Char.ofNat_toNat]
    cases decodeBody? m r <;> rfl

end Form

section Text

variable (shows : Char → Bool) {m : Char} (hm : IsMark m)

include hm

theorem isBody_flatMap_escape (s : List Char) : IsBody m (s.flatMap (escape shows m)) := by
  induction s with
  | nil => exact isBody_nil m
  | cons c s ih => exact isBody_append (isBody_of_form hm (form_escape shows hm c)) ih

/-- The reader ends at the closing mark, whatever follows, and gives the quoted text. -/
theorem decodeBody?_flatMap_escape (s r : List Char) :
    decodeBody? m (s.flatMap (escape shows m) ++ m :: r) = some (s, r) := by
  induction s with
  | nil => rw [List.flatMap_nil, List.nil_append, decodeBody?_cons hm.ne_backslash, if_pos rfl]
  | cons c s ih =>
    rw [List.flatMap_cons, List.append_assoc, decodeBody?_form (form_escape shows hm c), ih]
    rfl

end Text

theorem decode?_encode (shows : Char → Bool) (s r : List Char) :
    decode? (encode shows s ++ r) = some (s, r) := by
  have hlayout : encode shows s ++ r =
      mark s :: (s.flatMap (escape shows (mark s)) ++ mark s :: r) := by
    simp [encode]
  rw [hlayout, decode?, decodeBody?_flatMap_escape shows (isMark_mark s)]

/-- A line separator, a character beyond the first plane that does not show, and one that does. -/
example : (encode isPrintable ['\u2028', 'λ', Char.ofNat 0xe0001]) =
    "'\\u2028λ\\U000e0001'".toList := by
  decide +kernel

end Lookahead.Quoted
