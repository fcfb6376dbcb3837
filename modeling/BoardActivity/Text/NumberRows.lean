import BoardActivity.Text.Unsigned

/-!
# Rows of numbers

Large tables are kept as text: hexadecimal numbers with blanks or line ends between them, a
semicolon between two rows.
-/

namespace BoardActivity.Text

/-- The rows that the characters complete. `row` holds the numbers of the present row, and `number?`
the number whose digits are being read. -/
def completeRows (row : List Nat) (number? : Option Nat) : List Char → List (List Nat)
  | [] => [row ++ number?.toList]
  | c :: cs =>
    match hexDigit? c with
    | some d => completeRows row (some (number?.getD 0 * 16 + d)) cs
    | none =>
      let row := row ++ number?.toList
      if c = ';' then row :: completeRows [] none cs else completeRows row none cs

def numberRows (table : String) : List (List Nat) := completeRows [] none table.toList

end BoardActivity.Text
