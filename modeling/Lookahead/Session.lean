import Lookahead.Cursor.Basic

namespace Lookahead

inductive Action where
  | peek
  | advance
  | expect (k : Kind)
  | skipRun (k : Kind) (limit : Int)
  | skipAmong (ks : List Kind)
  | nextIs (k : Kind)
  | nextIsAmong (ks : List Kind)
  | startsWith (ks : List Kind)
  | tokens
  | hasNext
  | rewind
  | position
deriving DecidableEq, Repr

inductive Answer where
  | done
  | number (n : Int)
  | truth (b : Bool)
  | lexeme (s : String)
  | token (t : Option Token)
  | tokens (ts : List Token)
deriving DecidableEq, Repr

/-- What an action did: its report, and the position after it. -/
structure Outcome where
  report : Report Answer
  position : Int

namespace Cursor

def perform (c : Cursor) : Action → Report Answer × Cursor
  | .peek => (pure (.number c.peek), c)
  | .advance =>
    let (t, d) := c.advance
    (pure (.token t), d)
  | .expect k =>
    let (r, d) := c.expect k
    (Answer.lexeme <$> r, d)
  | .skipRun k limit =>
    let (n, d) := c.skipRun k limit
    (pure (.number n), d)
  | .skipAmong ks => (pure .done, c.skipAmong ks)
  | .nextIs k => (pure (.truth (c.nextIs k)), c)
  | .nextIsAmong ks => (pure (.truth (c.nextIsAmong ks)), c)
  | .startsWith ks =>
    let (b, d) := c.startsWith ks
    (pure (.truth b), d)
  | .tokens => (pure (.tokens c.tokens), c)
  | .hasNext => (pure (.truth c.hasNext), c)
  | .rewind => (pure .done, c.rewind)
  | .position => (pure (.number c.position), c)

def after (c : Cursor) (a : Action) : Cursor := (c.perform a).2

def outcome (c : Cursor) (a : Action) : Outcome := ⟨(c.perform a).1, (c.after a).position⟩

def afterAll (c : Cursor) (actions : List Action) : Cursor := actions.foldl after c

/-- The outcomes of a run of actions. An error does not end the run. -/
def run : Cursor → List Action → List Outcome
  | _, [] => []
  | c, a :: actions => c.outcome a :: (c.after a).run actions

end Cursor

/-- Several cursors, each with a position of its own. -/
abbrev Session (n : Nat) := Vector Cursor n

structure Step (n : Nat) where
  cursor : Fin n
  action : Action

namespace Session

variable {n : Nat}

def ofTokens (n : Nat) (tokens : List Token) (names : Resolver) : Session n :=
  Vector.replicate n (Cursor.ofTokens tokens names)

def opening (n : Nat) (tokens : List Token) (names : Resolver) : List (Report Int) :=
  List.replicate n (Cursor.position <$> Cursor.start tokens names)

def after (s : Session n) (step : Step n) : Session n :=
  s.set step.cursor (s[step.cursor].after step.action)

def run : Session n → List (Step n) → List Outcome
  | _, [] => []
  | s, step :: steps => s[step.cursor].outcome step.action :: run (s.after step) steps

end Session

end Lookahead
