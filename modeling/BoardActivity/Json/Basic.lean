import BoardActivity.Binary64.Basic

/-!
# JSON values

The values that cross the program's borders: request and answer bodies, stored particulars, webhook
payloads. A number is an integer or a double, told apart as they are written. Objects are lists of
members; `Json.sortMembers` brings a list into the canonical order, by key, one member a key.
-/

namespace BoardActivity

inductive Json where
  | null
  | bool (b : Bool)
  | integer (n : Int)
  | real (x : Binary64)
  | string (s : String)
  | array (items : List Json)
  | object (members : List (String × Json))
deriving Repr, Inhabited

namespace Json

mutual

/-- Values are compared by structure. -/
def decEq : (a b : Json) → Decidable (a = b)
  | .null, .null => isTrue rfl
  | .bool x, .bool y => decidable_of_iff (x = y) (by simp)
  | .integer x, .integer y => decidable_of_iff (x = y) (by simp)
  | .real x, .real y => decidable_of_iff (x = y) (by simp)
  | .string x, .string y => decidable_of_iff (x = y) (by simp)
  | .array x, .array y => have := decEqItems x y; decidable_of_iff (x = y) (by simp)
  | .object x, .object y => have := decEqMembers x y; decidable_of_iff (x = y) (by simp)
  | .null, .bool _ | .null, .integer _ | .null, .real _
  | .null, .string _ | .null, .array _ | .null, .object _ => isFalse (by simp)
  | .bool _, .null | .bool _, .integer _ | .bool _, .real _
  | .bool _, .string _ | .bool _, .array _ | .bool _, .object _ => isFalse (by simp)
  | .integer _, .null | .integer _, .bool _ | .integer _, .real _
  | .integer _, .string _ | .integer _, .array _ | .integer _, .object _ => isFalse (by simp)
  | .real _, .null | .real _, .bool _ | .real _, .integer _
  | .real _, .string _ | .real _, .array _ | .real _, .object _ => isFalse (by simp)
  | .string _, .null | .string _, .bool _ | .string _, .integer _
  | .string _, .real _ | .string _, .array _ | .string _, .object _ => isFalse (by simp)
  | .array _, .null | .array _, .bool _ | .array _, .integer _
  | .array _, .real _ | .array _, .string _ | .array _, .object _ => isFalse (by simp)
  | .object _, .null | .object _, .bool _ | .object _, .integer _
  | .object _, .real _ | .object _, .string _ | .object _, .array _ => isFalse (by simp)

def decEqItems : (a b : List Json) → Decidable (a = b)
  | [], [] => isTrue rfl
  | [], _ :: _ | _ :: _, [] => isFalse (by simp)
  | x :: xs, y :: ys =>
    have := decEq x y
    have := decEqItems xs ys
    decidable_of_iff (x = y ∧ xs = ys) (by simp)

def decEqMembers : (a b : List (String × Json)) → Decidable (a = b)
  | [], [] => isTrue rfl
  | [], _ :: _ | _ :: _, [] => isFalse (by simp)
  | (j, x) :: xs, (k, y) :: ys =>
    have := decEq x y
    have := decEqMembers xs ys
    decidable_of_iff ((j = k ∧ x = y) ∧ xs = ys) (by simp)

end

instance : DecidableEq Json := decEq

/-- The member of an object with the given name. -/
def member? (name : String) : Json → Option Json
  | object members => members.lookup name
  | _ => none

/-- The member of an object with the given name, unless it is absent or null. -/
def present? (name : String) (j : Json) : Option Json :=
  match j.member? name with
  | none | some null => none
  | some v => some v

def bool? : Json → Option Bool
  | bool b => some b
  | _ => none

def string? : Json → Option String
  | string s => some s
  | _ => none

def array? : Json → Option (List Json)
  | array items => some items
  | _ => none

def object? : Json → Option (List (String × Json))
  | object members => some members
  | _ => none

/-- A natural number below `bound`, written as an integer. -/
def below? (bound : Nat) : Json → Option Nat
  | integer n => if 0 ≤ n ∧ n < bound then some n.toNat else none
  | _ => none

/-- An integer within `low ≤ n ≤ high`, written as an integer. -/
def within? (low high : Int) : Json → Option Int
  | integer n => if low ≤ n ∧ n ≤ high then some n else none
  | _ => none

/-- Any number, as a double. -/
def real? : Json → Option Binary64
  | integer n => some (Binary64.ofInt n)
  | real x => some x
  | _ => none

/-- All items of an array, each read with `read`. -/
def items? (read : Json → Option α) (j : Json) : Option (List α) :=
  j.array?.bind (List.mapM read)

def required (name : String) (read : Json → Option α) (j : Json) : Option α :=
  (j.member? name).bind read

def optional (name : String) (read : Json → Option α) (j : Json) : Option (Option α) :=
  match j.present? name with
  | none => some none
  | some v => (read v).map some

/-- A member with a value for the case that it is absent; null counts as a value. -/
def withDefault (name : String) (default : α) (read : Json → Option α) (j : Json) : Option α :=
  match j.member? name with
  | none => some default
  | some v => read v

def ofOption (write : α → Json) : Option α → Json
  | none => null
  | some a => write a

def ofNat (n : Nat) : Json := integer n

/-- Adds a member in key order; a member of the same key is replaced. -/
def insertMember (key : String) (value : Json) : List (String × Json) → List (String × Json)
  | [] => [(key, value)]
  | (k, v) :: rest =>
    if key < k then (key, value) :: (k, v) :: rest
    else if key = k then (key, value) :: rest
    else (k, v) :: insertMember key value rest

/-- The members in key order; of several with one key the last remains. -/
def sortMembers (members : List (String × Json)) : List (String × Json) :=
  members.foldl (fun acc (k, v) => insertMember k v acc) []

end Json

end BoardActivity
