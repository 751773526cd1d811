import CloudClient.Settings.Yaml.Gap
import CloudClient.Text.Integer

/-!
# Scalars within lines

A plain scalar is written as it is; a quoted one stands in single or double quotes,
and in double quotes a backslash starts an escape.  All of them may go over several
lines, which are folded.
-/

namespace CloudClient.Settings.Yaml

/-! ## Plain scalars -/

structure Plain where
  text : List Char
  /-- Whether a line break stands behind it. -/
  isBroken : Bool
  /-- The place of what follows. -/
  after : Cursor

namespace Plain

/-- Whether a character has a meaning of its own within brackets. -/
def isFlowMark (c : Char) : Bool :=
  c == ',' || c == '[' || c == ']' || c == '{' || c == '}'

/-- Whether a colon between brackets is misplaced in front of a text. -/
def misplacesColon : List Char → Bool
  | [] => false
  | c :: _ => isFlowMark c || c == '?'

/-- A word of a plain scalar and what follows it; `inFlow` tells whether it stands
between brackets. -/
def word? (inFlow : Bool) : List Char → Option (List Char × List Char)
  | [] => some ([], [])
  | c :: r =>
    if endsWord (c :: r) then some ([], c :: r)
    else if inFlow && c == ':' && misplacesColon r then none
    else if (c == ':' && endsWord r) || (inFlow && isFlowMark c) then some ([], c :: r)
    else (word? inFlow r).map fun (w, rest) => (c :: w, rest)

/-- Reads the words that follow a gap.  Outside brackets a scalar ends before a line
that starts left of the column `least`. -/
def readFrom? (inFlow : Bool) (least : Nat) (gap : Gap) (c : Cursor) : Option Plain :=
  if c.isBoundary || c.isAt '#' then some ⟨[], gap.isBroken, c⟩
  else
    match word? inFlow c.rest with
    | none => none
    | some ([], _) => some ⟨[], gap.isBroken, c⟩
    | some (word, _) =>
      let d := c.skip word.length
      match Gap.read? least (.blanks []) d with
      | none => none
      | some (next, e) =>
        let text := gap.text ++ word
        if !endsWord d.rest || d.rest.isEmpty then some ⟨text, false, d⟩
        else if !inFlow && e.column < least then some ⟨text, next.isBroken, e⟩
        else if _ : e.rest.length < c.rest.length then
          (readFrom? inFlow least next e).map fun p => { p with text := text ++ p.text }
        else none
termination_by c.rest.length

def read? (inFlow : Bool) (least : Nat) (c : Cursor) : Option Plain :=
  readFrom? inFlow least (.blanks []) c

end Plain

/-! ## Quoted scalars -/

namespace Quoted

def ofLetter? : Char → Option Char
  | '0' => some '\x00'
  | 'a' => some '\x07'
  | 'b' => some '\x08'
  | 't' | '\t' => some '\t'
  | 'n' => some '\n'
  | 'v' => some '\x0b'
  | 'f' => some '\x0c'
  | 'r' => some '\r'
  | 'e' => some '\x1b'
  | ' ' => some ' '
  | '"' => some '"'
  | '/' => some '/'
  | '\\' => some '\\'
  | 'N' => some '\u0085'
  | '_' => some '\u00a0'
  | 'L' => some '\u2028'
  | 'P' => some '\u2029'
  | _ => none

/-- How many hexadecimal digits follow the letter of an escape. -/
def digitCount : Char → Nat
  | 'x' => 2
  | 'u' => 4
  | 'U' => 8
  | _ => 0

/-- What an escape stands for, from after its backslash, and its length. -/
def escape? : List Char → Option (Char × Nat)
  | [] => none
  | letter :: r =>
    match ofLetter? letter with
    | some x => some (x, 1)
    | none =>
      let digits := r.take (digitCount letter)
      match Text.inBase? 16 digits with
      | none => none
      | some n =>
        if digits.length = digitCount letter ∧ n.isValidChar then
          some (Char.ofNat n, digits.length + 1)
        else none

/-- What is read up to a blank, a line break, a single quote or the end, where two
single quotes are one. -/
def singleRun (c : Cursor) : List Char × Cursor :=
  match _h : c.rest with
  | [] => ([], c)
  | '\'' :: '\'' :: _ =>
    let (text, d) := singleRun (c.skip 2)
    ('\'' :: text, d)
  | x :: r =>
    if x == '\'' || endsWord (x :: r) then ([], c)
    else
      let (text, d) := singleRun (c.skip 1)
      (x :: text, d)
termination_by c.rest.length
decreasing_by
  all_goals
    simp only [Cursor.skip, _h, List.length_drop, List.length_cons]
    omega

/-- What is read up to a blank, a line break, a double quote or the end; whether it
ends in an escaped line break. -/
def doubleRun? (c : Cursor) : Option (List Char × Bool × Cursor) :=
  match _h : c.rest with
  | [] => some ([], false, c)
  | '\\' :: r =>
    match (c.skip 1).break? with
    | some (_, d) => some ([], true, d)
    | none =>
      match escape? r with
      | none => none
      | some (x, n) => (doubleRun? (c.skip (n + 1))).map fun (text, d) => (x :: text, d)
  | x :: r =>
    if x == '"' || endsWord (x :: r) then some ([], false, c)
    else (doubleRun? (c.skip 1)).map fun (text, d) => (x :: text, d)
termination_by c.rest.length
decreasing_by
  all_goals
    simp only [Cursor.skip, _h, List.length_drop, List.length_cons]
    omega

/-- Reads the text in quotes, from after the first, and the place after the last. -/
def read? (quote : Char) (c : Cursor) : Option (List Char × Cursor) :=
  if c.isBoundary || c.rest.isEmpty then none
  else
    let run :=
      if quote == '"' then doubleRun? c
      else
        let (text, d) := singleRun c
        some (text, false, d)
    match run with
    | none => none
    | some (text, escaped, d) =>
      if d.isAt quote then some (text, d.skip 1)
      else
        match Gap.read? 0 (if escaped then .breaks none [] else .blanks []) d with
        | none => none
        | some (gap, e) =>
          if _ : e.rest.length < c.rest.length then
            (read? quote e).map fun (more, f) => (text ++ gap.text ++ more, f)
          else none
termination_by c.rest.length

end Quoted

end CloudClient.Settings.Yaml
