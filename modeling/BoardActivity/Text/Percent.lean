/-!
# Percent escapes

Bytes written as a percent sign and two hexadecimal digits of either case. A percent sign without
two digits stands for itself.
-/

namespace BoardActivity.Text

def hexByte? (b : UInt8) : Option Nat :=
  let n := b.toNat
  if 48 ≤ n ∧ n ≤ 57 then some (n - 48)
  else if 65 ≤ n ∧ n ≤ 70 then some (n - 55)
  else if 97 ≤ n ∧ n ≤ 102 then some (n - 87)
  else none

/-- The bytes with their escapes undone. -/
def percentDecode : List UInt8 → List UInt8
  | [] => []
  | [b] => [b]
  | [b, c] => [b, c]
  | b :: h :: l :: rest =>
    match decide (b = 37), hexByte? h, hexByte? l with
    | true, some x, some y => UInt8.ofNat (x * 16 + y) :: percentDecode rest
    | _, _, _ => b :: percentDecode (h :: l :: rest)

/-- The text with its escapes undone, if that is UTF-8. -/
def unescape? (s : String) : Option String :=
  String.fromUTF8? ⟨(percentDecode s.toUTF8.toList).toArray⟩

end BoardActivity.Text
