import Lookahead.Text.Printable

namespace Lookahead.Quoted

/-- The mark around a text: a double quote if the text has a single quote and no double quote, and a
single quote otherwise. -/
def mark (s : List Char) : Char :=
  if s.contains '\'' && !s.contains '"' then '"' else '\''

/-- The last `k` hexadecimal digits of `n`. -/
def hexDigits : (k n : Nat) → List Char
  | 0, _ => []
  | k + 1, n => Nat.digitChar (n >>> (4 * k) % 16) :: hexDigits k n

/-- A character by its number, with 2, 4 or 8 digits after a letter that tells how many. -/
def number (c : Char) : List Char :=
  if c.toNat < 0x100 then '\\' :: 'x' :: hexDigits 2 c.toNat
  else if c.toNat < 0x10000 then '\\' :: 'u' :: hexDigits 4 c.toNat
  else '\\' :: 'U' :: hexDigits 8 c.toNat

/-- One character of the text between marks `m`, where `shows` tells which characters need no number. -/
def escape (shows : Char → Bool) (m c : Char) : List Char :=
  if c = '\\' then ['\\', '\\']
  else if c = m then ['\\', m]
  else if c = '\n' then ['\\', 'n']
  else if c = '\r' then ['\\', 'r']
  else if c = '\t' then ['\\', 't']
  else if shows c then [c]
  else number c

def encode (shows : Char → Bool) (s : List Char) : List Char :=
  mark s :: s.flatMap (escape shows (mark s)) ++ [mark s]

def text (shows : Char → Bool) (s : String) : String := String.ofList (encode shows s.toList)

def hexValue? (c : Char) : Option Nat :=
  if c.isDigit then some (c.toNat - '0'.toNat)
  else if 'a' ≤ c ∧ c ≤ 'f' then some (c.toNat - 'a'.toNat + 10)
  else none

/-- Reads `k` digits after those of `n`. -/
def readHex? : (k n : Nat) → List Char → Option Nat
  | 0, n, _ => some n
  | _ + 1, _, [] => none
  | k + 1, n, d :: s => do readHex? k (16 * n + (← hexValue? d)) s

/-- How many digits follow a letter after a backslash, if it begins a number. -/
def digitCount? : Char → Option Nat
  | 'x' => some 2
  | 'u' => some 4
  | 'U' => some 8
  | _ => none

def unescape : Char → Char
  | 'n' => '\n'
  | 'r' => '\r'
  | 't' => '\t'
  | c => c

/-- Reads up to the closing mark `m`; gives the text and what follows the mark. -/
def decodeBody? (m : Char) : List Char → Option (List Char × List Char)
  | [] => none
  | '\\' :: e :: r =>
    match digitCount? e with
    | some k => do
      let n ← readHex? k 0 r
      let (s, r) ← decodeBody? m (r.drop k)
      some (Char.ofNat n :: s, r)
    | none => do
      let (s, r) ← decodeBody? m r
      some (unescape e :: s, r)
  | c :: r =>
    if c = m then some ([], r)
    else do
      let (s, r) ← decodeBody? m r
      some (c :: s, r)
termination_by s => s.length
decreasing_by
  all_goals simp only [List.length_cons, List.length_drop]
  all_goals omega

def decode? : List Char → Option (List Char × List Char)
  | [] => none
  | m :: r => decodeBody? m r

end Lookahead.Quoted
