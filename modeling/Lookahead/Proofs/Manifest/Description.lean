import Lookahead.Manifest.Description
import Lookahead.Proofs.Text.Utf8
import Mathlib.Data.Set.Subsingleton

namespace Lookahead.Newline

def replacePairs : List Char → List Char
  | [] => []
  | '\r' :: '\n' :: s => '\n' :: replacePairs s
  | c :: s => c :: replacePairs s

def replaceReturns (s : List Char) : List Char := s.map fun c => if c = '\r' then '\n' else c

/-- The pairs go first, then the carriage returns that are left. -/
theorem normalize_eq_replace (s : List Char) : normalize s = replaceReturns (replacePairs s) := by
  fun_induction normalize s with
  | case1 => rfl
  | case2 s ih => rw [ih, replacePairs]; rfl
  | case3 s hs ih =>
    rw [ih, replacePairs]
    · rfl
    · intro r _ hr
      exact hs r hr
  | case4 c s hpair hreturn ih =>
    rw [ih, replacePairs]
    · simp [replaceReturns, if_neg hreturn]
    · exact hpair

def isEnd (c : Char) : Bool := c == '\r' || c == '\n'

theorem notMem_normalize (s : List Char) : '\r' ∉ normalize s := by
  fun_induction normalize s with
  | case1 => exact List.not_mem_nil
  | case2 s ih => simpa using ih
  | case3 s hs ih => simpa using ih
  | case4 c s hpair hreturn ih => simpa [eq_comm] using And.intro hreturn ih

theorem filter_normalize (s : List Char) :
    (normalize s).filter (fun c => !isEnd c) = s.filter fun c => !isEnd c := by
  fun_induction normalize s with
  | case1 => rfl
  | case2 s ih => simpa [isEnd] using ih
  | case3 s hs ih => simpa [isEnd] using ih
  | case4 c s hpair hreturn ih => rw [List.filter_cons, List.filter_cons, ih]

theorem normalize_of_notMem {s : List Char} (h : '\r' ∉ s) : normalize s = s := by
  fun_induction normalize s with
  | case1 => rfl
  | case2 s ih => simp at h
  | case3 s hs ih => simp at h
  | case4 c s hpair hreturn ih => rw [ih (List.not_mem_of_not_mem_cons h)]

theorem normalize_normalize (s : List Char) : normalize (normalize s) = normalize s :=
  normalize_of_notMem (notMem_normalize s)

/-- A cut between the two characters of a pair. -/
def SplitsPair (a b : List Char) : Prop := ['\r'] <:+ a ∧ ['\n'] <+: b

theorem normalize_return {s : List Char} (hs : ¬ ['\n'] <+: s) :
    normalize ('\r' :: s) = '\n' :: normalize s := by
  rw [normalize]
  intro r hr
  exact hs ⟨r, hr.symm⟩

theorem normalize_cons {c : Char} (hc : c ≠ '\r') (s : List Char) :
    normalize (c :: s) = c :: normalize s := by
  rw [normalize]
  · intro r hreturn
    exact absurd hreturn hc
  · exact hc

/-- A text is normalized part by part: what follows matters to a carriage return at the end only. -/
theorem normalize_append {a b : List Char} (h : ¬ SplitsPair a b) :
    normalize (a ++ b) = normalize a ++ normalize b := by
  have tail {c : Char} {s : List Char} (h : ¬ SplitsPair (c :: s) b) : ¬ SplitsPair s b := by
    rintro ⟨hs, hb⟩
    exact h ⟨hs.trans (List.suffix_cons c s), hb⟩
  fun_induction normalize a with
  | case1 => rfl
  | case2 s ih =>
    rw [List.cons_append, List.cons_append, normalize, ih (tail (tail h)), List.cons_append]
  | case3 s hs ih =>
    have hnot : ¬ ['\n'] <+: s ++ b := by
      intro hprefix
      cases s with
      | nil => exact h ⟨List.suffix_rfl, hprefix⟩
      | cons d s =>
        obtain ⟨rfl, -⟩ := List.cons_prefix_cons.mp hprefix
        exact hs s rfl
    rw [List.cons_append, normalize_return hnot, ih (tail h), List.cons_append]
  | case4 c s hpair hreturn ih =>
    rw [List.cons_append, normalize_cons hreturn, ih (tail h), List.cons_append]

/-- Where the cut splits a pair, each part has a line feed of its own for it. -/
theorem normalize_append_of_splitsPair {a b : List Char} (h : SplitsPair a b) :
    ∃ front back, normalize a = front ++ ['\n'] ∧ normalize b = '\n' :: back ∧
      normalize (a ++ b) = front ++ '\n' :: back := by
  obtain ⟨⟨p, rfl⟩, ⟨q, rfl⟩⟩ := h
  have hfirst {c : Char} {s : List Char} (hc : c ≠ '\n') : ¬ SplitsPair p (c :: s) := by
    rintro ⟨-, hprefix⟩
    exact hc (List.cons_prefix_cons.mp hprefix).1.symm
  refine ⟨normalize p, normalize q, ?_, ?_, ?_⟩
  · rw [normalize_append (hfirst (by decide))]
    rfl
  · exact normalize_cons (by decide) q
  · rw [List.append_assoc, List.singleton_append, normalize_append (hfirst (by decide))]
    rfl

end Lookahead.Newline

namespace Lookahead.Description

def ofText (t : String) : String := String.ofList (Newline.normalize t.toList)

@[simp] theorem toList_ofText (t : String) : (ofText t).toList = Newline.normalize t.toList := by
  simp [ofText]

theorem read_encode (t : String) : read (some (Utf8.encode t)) = .ok (ofText t) := by
  have hdecode : Utf8.decode? (Utf8.encode t) = some t.toList := by
    rw [Utf8.decode?_eq_some_iff, String.ofList_toList]
  simp only [read, hdecode, ofText]

theorem read_of_not_encoded {bytes : List UInt8} (h : ∀ t, Utf8.encode t ≠ bytes) :
    read (some bytes) = .error .notUtf8 := by
  have hdecode : Utf8.decode? bytes = none := by
    rw [Option.eq_none_iff_forall_ne_some]
    intro l hl
    exact h (String.ofList l) (Utf8.decode?_eq_some_iff.mp hl)
  simp only [read, hdecode]

/-- The bytes of a file are the encoding of one text or of none. In the one case the description is
this text, with a line feed for every pair of a carriage return and a line feed and for every carriage
return that is left; in the other case there is no description. -/
theorem read_accepts_exactly_encoded (bytes : List UInt8) :
    (∀ s, read (some bytes) = .ok s ↔
      ∃ t, Utf8.encode t = bytes ∧
        s.toList = Newline.replaceReturns (Newline.replacePairs t.toList)) ∧
    (∀ f, read (some bytes) = .error f ↔ f = .notUtf8 ∧ ∀ t, Utf8.encode t ≠ bytes) ∧
    {t | Utf8.encode t = bytes}.Subsingleton := by
  have hone : {t | Utf8.encode t = bytes}.Subsingleton := by
    intro t ht u hu
    exact Utf8.encode_injective (ht.trans hu.symm)
  by_cases hbytes : ∃ t, Utf8.encode t = bytes
  · obtain ⟨t, rfl⟩ := hbytes
    rw [read_encode]
    refine ⟨?_, ?_, hone⟩
    · intro s
      constructor
      · intro h
        obtain rfl := Except.ok.inj h
        exact ⟨t, rfl, by rw [toList_ofText, Newline.normalize_eq_replace]⟩
      · rintro ⟨u, hu, hs⟩
        obtain rfl := Utf8.encode_injective hu
        rw [← Newline.normalize_eq_replace, ← toList_ofText, String.toList_inj] at hs
        rw [hs]
    · intro f
      exact iff_of_false nofun fun h => h.2 t rfl
  · have hnone : ∀ t, Utf8.encode t ≠ bytes := not_exists.mp hbytes
    rw [read_of_not_encoded hnone]
    refine ⟨?_, ?_, hone⟩
    · intro s
      exact iff_of_false nofun fun ⟨t, ht, _⟩ => hnone t ht
    · intro f
      rw [Except.error.injEq, and_iff_left hnone, eq_comm]

/-- A description has line feeds as its only line ends and all else as the text has it, and reading it
again changes nothing. It may be put together from the descriptions of two parts of the text; of the two
line feeds that stand for a pair cut in the middle, one goes. -/
theorem read_encode_in_parts :
    (∀ t, read (some (Utf8.encode t)) = .ok (ofText t)) ∧
    (∀ t, '\r' ∉ (ofText t).toList ∧
      ((ofText t).toList.filter fun c => !Newline.isEnd c) =
        (t.toList.filter fun c => !Newline.isEnd c) ∧
      ofText (ofText t) = ofText t) ∧
    ∀ a b : String,
      (¬ Newline.SplitsPair a.toList b.toList → ofText (a ++ b) = ofText a ++ ofText b) ∧
      (Newline.SplitsPair a.toList b.toList → ∃ front back, ofText a = front ++ "\n" ∧
        ofText b = "\n" ++ back ∧ ofText (a ++ b) = front ++ "\n" ++ back) := by
  refine ⟨read_encode, ?_, ?_⟩
  · intro t
    refine ⟨?_, ?_, ?_⟩
    · rw [toList_ofText]
      exact Newline.notMem_normalize t.toList
    · rw [toList_ofText, Newline.filter_normalize]
    · rw [← String.toList_inj, toList_ofText, toList_ofText, Newline.normalize_normalize]
  · intro a b
    refine ⟨?_, ?_⟩
    · intro h
      simp only [← String.toList_inj, String.toList_append, toList_ofText]
      exact Newline.normalize_append h
    · intro h
      obtain ⟨front, back, ha, hb, hab⟩ := Newline.normalize_append_of_splitsPair h
      refine ⟨String.ofList front, String.ofList back, ?_, ?_, ?_⟩
      · simp [← String.toList_inj, ha]
      · simp [← String.toList_inj, hb]
      · simp [← String.toList_inj, hab]

end Lookahead.Description
