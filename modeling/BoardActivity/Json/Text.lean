import BoardActivity.Binary64.Decimal
import BoardActivity.Json.Basic
import BoardActivity.Power
import BoardActivity.Text.Unsigned

/-!
# JSON text

Reading and writing JSON values. A number without fraction and exponent is an integer if it fits
64 bits, signed or unsigned; every other number becomes a double near it (`scaled?`). Objects are
read into key order, and the last of several members with one key counts. Arrays and objects may be
nested `maxDepth` deep. Writing puts nothing between tokens,
escapes quotes, backslashes and control characters only, and writes doubles as shortest decimals.

The reader consumes at least one character per step, so the length of its input bounds the number
of steps; it fails on anything that is not one complete value.
-/

namespace BoardActivity.Json

open Text

/-- What remains after white space. -/
def skipSpace (cs : List Char) : List Char :=
  cs.dropWhile fun c => c == ' ' || c == '\n' || c == '\t' || c == '\r'

def takeUnit? : List Char → Option (Nat × List Char)
  | a :: b :: c :: d :: rest => (continueNumber 16 hexDigit? 0 [a, b, c, d]).map (·, rest)
  | _ => none

/-- The character of a code point, which must not be a surrogate. -/
def char? (n : Nat) : Option Char := if n.isValidChar then some (Char.ofNat n) else none

/-- The rest of a `\u` escape: one unit, or a high and a low surrogate with `\u` between them. -/
def takeEscape? (cs : List Char) : Option (Char × List Char) :=
  match takeUnit? cs with
  | none => none
  | some (u, rest) =>
    if 0xD800 ≤ u ∧ u < 0xDC00 then
      match rest with
      | '\\' :: 'u' :: rest =>
        match takeUnit? rest with
        | some (v, rest) =>
          if 0xDC00 ≤ v ∧ v < 0xE000 then
            (char? (0x10000 + (u - 0xD800) * 0x400 + (v - 0xDC00))).map (·, rest)
          else none
        | none => none
      | _ => none
    else (char? u).map (·, rest)

/-- The characters of a string up to its closing quote; `acc` holds those read, last first. -/
def takeString? : Nat → List Char → List Char → Option (String × List Char)
  | 0, _, _ => none
  | fuel + 1, acc, cs =>
    match cs with
    | [] => none
    | '"' :: rest => some (String.ofList acc.reverse, rest)
    | '\\' :: c :: rest =>
      match c with
      | '"' => takeString? fuel ('"' :: acc) rest
      | '\\' => takeString? fuel ('\\' :: acc) rest
      | '/' => takeString? fuel ('/' :: acc) rest
      | 'b' => takeString? fuel ('\x08' :: acc) rest
      | 'f' => takeString? fuel ('\x0c' :: acc) rest
      | 'n' => takeString? fuel ('\n' :: acc) rest
      | 'r' => takeString? fuel ('\r' :: acc) rest
      | 't' => takeString? fuel ('\t' :: acc) rest
      | 'u' =>
        match takeEscape? rest with
        | some (d, rest) => takeString? fuel (d :: acc) rest
        | none => none
      | _ => none
    | c :: rest => if c.toNat < 0x20 then none else takeString? fuel (c :: acc) rest

/-- An integer in the range of 64 bits, signed or unsigned. -/
def fitsWord (n : Int) : Bool := -(pow2 63 : Int) ≤ n && n < pow2 64

/-- Appends decimal digits to a number as long as it stays below `2 ^ 64`, and counts them. -/
def appendDigits (n : Nat) : List Char → Nat × Nat
  | [] => (n, 0)
  | c :: cs =>
    match digit? c with
    | none => (n, 0)
    | some d =>
      if n * 10 + d < pow2 64 then
        let (n, count) := appendDigits (n * 10 + d) cs
        (n, count + 1)
      else (n, 0)

/-- The number `n * 10 ^ e` in doubles: both factors are rounded, and so is the result, so it can be
off by a few units in the last place. There is none beyond the greatest double. -/
def scaled? (negative : Bool) (n : Nat) (e : Int) : Option Binary64 :=
  match (Binary64.ofNat n).scale10 e with
  | .finite _ m q => some (.finite negative m q)
  | _ => none

/-- The digits of a number, and what remains. -/
def takeDigits (cs : List Char) : List Char × List Char :=
  cs.span fun c => (digit? c).isSome

/-- The exponent at the head of the input, zero if there is none. -/
def takeExponent? (cs : List Char) : Option (Int × List Char) :=
  match cs with
  | c :: rest =>
    if c = 'e' ∨ c = 'E' then
      let (sign, rest) : Int × List Char := match rest with
        | '-' :: rest => (-1, rest)
        | '+' :: rest => (1, rest)
        | rest => (1, rest)
      let (digits, rest) := takeDigits rest
      (decimal? digits).map fun n => (sign * n, rest)
    else some (0, cs)
  | [] => some (0, cs)

/-- A number: sign, digits without a leading zero, fraction, exponent. Of the digits only those
count that come before the number would pass 64 bits; the later ones of the whole part are taken for
zeros. -/
def takeNumber? (cs : List Char) : Option (Json × List Char) :=
  let (negative, cs) := match cs with
    | '-' :: rest => (true, rest)
    | rest => (false, rest)
  let (whole, cs) := takeDigits cs
  if whole.isEmpty ∨ (whole.head? = some '0' ∧ whole.length ≠ 1) then none else
  let (n, counted) := appendDigits 0 whole
  let omitted : Int := whole.length - counted
  match cs with
  | '.' :: cs =>
    let (fraction, cs) := takeDigits cs
    if fraction.isEmpty then none else
    let (n, places) := appendDigits n fraction
    (takeExponent? cs).bind fun (e, cs) =>
      (scaled? negative n (omitted - places + e)).map fun x => (real x, cs)
  | cs =>
    (takeExponent? cs).bind fun (e, rest) =>
      let value : Int := if negative then -n else n
      if rest.length = cs.length ∧ omitted = 0 ∧ fitsWord value ∧ ¬ (negative ∧ n = 0) then
        some (integer value, rest)
      else (scaled? negative n (omitted + e)).map fun x => (real x, rest)

/-- How deep arrays and objects may be nested in one another. -/
def maxDepth : Nat := 127

mutual

/-- One value and what remains after it; arrays and objects in it may be nested `depth` deep. -/
def takeValue? (depth : Nat) : Nat → List Char → Option (Json × List Char)
  | 0, _ => none
  | fuel + 1, cs =>
    match skipSpace cs with
    | 'n' :: 'u' :: 'l' :: 'l' :: rest => some (null, rest)
    | 't' :: 'r' :: 'u' :: 'e' :: rest => some (bool true, rest)
    | 'f' :: 'a' :: 'l' :: 's' :: 'e' :: rest => some (bool false, rest)
    | '"' :: rest => (takeString? (rest.length + 1) [] rest).map fun (s, r) => (string s, r)
    | '[' :: rest =>
      match depth, skipSpace rest with
      | 0, _ => none
      | _ + 1, ']' :: rest => some (array [], rest)
      | depth + 1, rest => (takeItems? depth fuel rest).map fun (items, r) => (array items, r)
    | '\x7b' :: rest =>
      match depth, skipSpace rest with
      | 0, _ => none
      | _ + 1, '\x7d' :: rest => some (object [], rest)
      | depth + 1, rest =>
        (takeMembers? depth fuel rest).map fun (ms, r) => (object (sortMembers ms), r)
    | rest => takeNumber? rest

/-- The items of an array from the next one to the closing bracket. -/
def takeItems? (depth : Nat) : Nat → List Char → Option (List Json × List Char)
  | 0, _ => none
  | fuel + 1, cs =>
    match takeValue? depth fuel cs with
    | none => none
    | some (v, rest) =>
      match skipSpace rest with
      | ',' :: rest => (takeItems? depth fuel rest).map fun (vs, r) => (v :: vs, r)
      | ']' :: rest => some ([v], rest)
      | _ => none

/-- The members of an object from the next one to the closing brace. -/
def takeMembers? (depth : Nat) : Nat → List Char → Option (List (String × Json) × List Char)
  | 0, _ => none
  | fuel + 1, cs =>
    match skipSpace cs with
    | '"' :: rest =>
      match takeString? (rest.length + 1) [] rest with
      | none => none
      | some (key, rest) =>
        match skipSpace rest with
        | ':' :: rest =>
          match takeValue? depth fuel rest with
          | none => none
          | some (v, rest) =>
            match skipSpace rest with
            | ',' :: rest => (takeMembers? depth fuel rest).map fun (ms, r) => ((key, v) :: ms, r)
            | '\x7d' :: rest => some ([(key, v)], rest)
            | _ => none
        | _ => none
    | _ => none

end

/-- Reads a text that holds exactly one value. -/
def read? (text : String) : Option Json :=
  let cs := text.toList
  match takeValue? maxDepth (cs.length + 1) cs with
  | some (v, rest) => if (skipSpace rest).isEmpty then some v else none
  | none => none

/-- The escape of a character, if it has to be escaped. -/
def escaped (c : Char) : List Char :=
  match c with
  | '"' => ['\\', '"']
  | '\\' => ['\\', '\\']
  | '\n' => ['\\', 'n']
  | '\r' => ['\\', 'r']
  | '\t' => ['\\', 't']
  | '\x08' => ['\\', 'b']
  | '\x0c' => ['\\', 'f']
  | c =>
    if c.toNat < 0x20 then
      '\\' :: 'u' :: '0' :: '0' :: (if c.toNat < 16 then '0' else '1') ::
        Nat.toDigits 16 (c.toNat % 16)
    else [c]

def quoted (s : String) : String := "\"" ++ String.ofList (s.toList.flatMap escaped) ++ "\""

/-- A number; what is not finite has no text of its own. -/
def realText (x : Binary64) : String :=
  match x with
  | .finite _ _ _ => x.textWith .document
  | _ => "null"

mutual

def text : Json → String
  | null => "null"
  | bool b => if b then "true" else "false"
  | integer n => toString n
  | real x => realText x
  | string s => quoted s
  | array items => "[" ++ itemsText items ++ "]"
  | object members => "\x7b" ++ membersText members ++ "\x7d"

def itemsText : List Json → String
  | [] => ""
  | [v] => v.text
  | v :: vs => v.text ++ "," ++ itemsText vs

def membersText : List (String × Json) → String
  | [] => ""
  | [(k, v)] => quoted k ++ ":" ++ v.text
  | (k, v) :: ms => quoted k ++ ":" ++ v.text ++ "," ++ membersText ms

end

end BoardActivity.Json
