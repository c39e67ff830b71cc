import Lookahead.NameSource
import Lookahead.Token

namespace Lookahead

structure Cursor where
  tokens : List Token
  names : Resolver
  /-- The number of moves from before the first token. Only `advance` takes it beyond the number of
  tokens. -/
  passed : Nat

namespace Cursor

def beforeFirst : Int := -1

def ofTokens (tokens : List Token) (names : Resolver) : Cursor := ⟨tokens, names, 0⟩

/-- Opens a cursor, with a warning if a token has the kind that lookahead reports at the end. -/
def start (tokens : List Token) (names : Resolver) : Report Cursor := do
  if tokens.any fun t => t.kind.code == endOfStream then
    Report.warn .reservedKind
  pure (ofTokens tokens names)

/-- The index of the token last moved to. -/
def position (c : Cursor) : Int := beforeFirst + c.passed

theorem position_eq (c : Cursor) : c.position = (c.passed : Int) - 1 := by
  unfold position beforeFirst
  omega

def next? (c : Cursor) : Option Token := c.tokens[c.passed]?

theorem next?_eq_at_position (c : Cursor) :
    c.next? =
      if 0 ≤ c.position + 1 ∧ c.position + 1 < c.tokens.length then
        c.tokens[(c.position + 1).toNat]?
      else none := by
  rw [position_eq, Int.sub_add_cancel, Int.toNat_natCast, next?]
  split
  · rfl
  · rw [List.getElem?_eq_none_iff]
    omega

def pending (c : Cursor) : Nat := c.tokens.length - c.passed

def hasNext (c : Cursor) : Bool := c.passed < c.tokens.length

theorem hasNext_eq_position_lt (c : Cursor) :
    c.hasNext =
      if c.tokens.isEmpty then false else decide (c.position < (c.tokens.length : Int) - 1) := by
  rw [position_eq, hasNext]
  split
  · next hempty =>
    rw [List.isEmpty_iff.mp hempty, List.length_nil]
    rfl
  · rw [decide_eq_decide]
    omega

/-- The code of the next token's kind, or `endOfStream`. -/
def peek (c : Cursor) : Int :=
  match c.next? with
  | some t => t.kind.code
  | none => endOfStream

def nextIs (c : Cursor) (k : Kind) : Bool := c.peek == k.code

def nextIsAmong (c : Cursor) (ks : List Kind) : Bool := ks.any c.nextIs

def forward (c : Cursor) : Cursor := { c with passed := c.passed + 1 }

def advance (c : Cursor) : Option Token × Cursor := (c.next?, c.forward)

def rewind (c : Cursor) : Cursor := { c with passed := 0 }

/-- Moves along the following tokens for as long as they have the given kinds, in order, and says
whether all kinds were met. Running out of tokens is a difference, for the kind `endOfStream` too. -/
def follow : Cursor → List Kind → Bool × Cursor
  | c, [] => (true, c)
  | c, k :: ks =>
    match c.advance with
    | (some t, d) => if t.kind.code == k.code then d.follow ks else (false, d)
    | (none, d) => (false, d)

/-- Whether the following tokens have the given kinds, in order. The cursor follows them, perhaps
beyond the last token, and then goes back to where it was. -/
def startsWith (c : Cursor) (ks : List Kind) : Bool × Cursor :=
  let (met, d) := c.follow ks
  (met, { d with passed := c.passed })

theorem pending_forward_lt {c : Cursor} (h : c.hasNext = true) : c.forward.pending < c.pending := by
  simp only [hasNext, decide_eq_true_eq] at h
  simp only [pending, forward]
  omega

/-- Moves past next tokens while they pass the test, and stops early when `limit` of them are passed
if the limit is positive. Gives the number of tokens passed, `count` of them before the call. -/
def skip (test : Cursor → Bool) (limit : Int) (count : Nat) (c : Cursor) : Nat × Cursor :=
  if h : c.hasNext && test c then
    if 0 < limit ∧ limit ≤ count + 1 then (count + 1, c.forward)
    else skip test limit (count + 1) c.forward
  else (count, c)
termination_by c.pending
decreasing_by exact pending_forward_lt (Bool.and_eq_true_iff.mp h).1

def skipRun (c : Cursor) (k : Kind) (limit : Int) : Nat × Cursor :=
  c.skip (fun d => d.nextIs k) limit 0

def skipAmong (c : Cursor) (ks : List Kind) : Cursor :=
  (c.skip (fun d => d.nextIsAmong ks) 0 0).2

def lastLine (c : Cursor) : Int :=
  match c.tokens.getLast? with
  | some t => t.line
  | none => 0

/-- Reports that the next token is not of kind `k`. The expected kind is named before the actual. -/
def reject {α : Type} (c : Cursor) (k : Kind) : Report α := do
  let expected ← c.names.display k
  match c.next? with
  | none => Report.fail (.mismatch ⟨expected, "end of stream", c.lastLine⟩)
  | some t =>
    let actual ← c.names.display t.kind
    Report.fail (.mismatch ⟨expected, actual, t.line⟩)

/-- Moves past the next token and gives its value if it is of kind `k`; stays and reports a mismatch
otherwise. -/
def expect (c : Cursor) (k : Kind) : Report String × Cursor :=
  match c.next? with
  | some t => if t.kind.code == k.code then (pure t.value, c.forward) else (c.reject k, c)
  | none => (c.reject k, c)

end Cursor

end Lookahead
