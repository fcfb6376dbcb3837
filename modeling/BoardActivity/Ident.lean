import BoardActivity.Power
import BoardActivity.Text.Unsigned

/-!
# Identifiers

Rows are identified by numbers, ordered as numbers. An identifier below `2 ^ 128` is written as a
UUID: 32 hexadecimal digits in five groups, lower case. It is read in any of the usual spellings:
hyphenated, bare, in braces, or as a `urn:uuid:` name; the hyphenated form is read back
(`Ident.read?_text`). The order of the numbers is the order of the sixteen bytes. A `Supply` mints
identifiers in increasing order without end, so a supply that starts above every identifier in use
never repeats one.
-/

namespace BoardActivity

/-- An identifier of a row, ordered by its number. -/
structure Ident where
  value : Nat
deriving Repr, DecidableEq, Inhabited, Hashable

namespace Ident

instance : LT Ident := ⟨fun a b => a.value < b.value⟩
instance : LE Ident := ⟨fun a b => a.value ≤ b.value⟩
instance (a b : Ident) : Decidable (a < b) := inferInstanceAs (Decidable (a.value < b.value))
instance (a b : Ident) : Decidable (a ≤ b) := inferInstanceAs (Decidable (a.value ≤ b.value))

/-- The digits of one group of the hyphenated form. -/
private def group (width n : Nat) : List Char :=
  let ds := Nat.toDigits 16 n
  List.replicate (width - ds.length) '0' ++ ds

/-- The hyphenated form: groups of 8, 4, 4, 4 and 12 lower-case hexadecimal digits. -/
def text (u : Ident) : String :=
  let n := u.value
  String.ofList (group 8 (n / pow2 96) ++ '-' :: group 4 (n / pow2 80 % pow2 16) ++
    '-' :: group 4 (n / pow2 64 % pow2 16) ++ '-' :: group 4 (n / pow2 48 % pow2 16) ++
    '-' :: group 12 (n % pow2 48))

instance : ToString Ident := ⟨text⟩

/-- Exactly 32 hexadecimal digits. -/
private def readBare? (cs : List Char) : Option Ident :=
  if cs.length = 32 then
    (Text.continueNumber 16 Text.hexDigit? 0 cs).map Ident.mk
  else none

/-- Exactly 36 characters, with hyphens at the four places between the groups. -/
private def readHyphenated? (cs : List Char) : Option Ident :=
  let groups := [cs.take 8, (cs.drop 9).take 4, (cs.drop 14).take 4, (cs.drop 19).take 4,
    cs.drop 24]
  if cs.length = 36 ∧ [cs[8]?, cs[13]?, cs[18]?, cs[23]?] = List.replicate 4 (some '-') then
    readBare? groups.flatten
  else none

/-- Reads an identifier in any of the four spellings; digits and `urn:uuid:` in either case. -/
def read? (s : String) : Option Ident :=
  let cs := s.toList
  match cs.length with
  | 32 => readBare? cs
  | 36 => readHyphenated? cs
  | 38 =>
    if cs.head? = some '{' ∧ cs.getLast? = some '}' then
      readHyphenated? (cs.tail.dropLast)
    else none
  | 45 =>
    if (cs.take 9).map Char.toLower = "urn:uuid:".toList then readHyphenated? (cs.drop 9) else none
  | _ => none

/-- A number that fits is written with the width of its group, and read back after any digits. -/
private theorem group_spec (width n : Nat) (hw : 0 < width) (hn : n < Nat.pow 16 width) :
    (group width n).length = width ∧ ∀ m, Text.continueNumber 16 Text.hexDigit? m (group width n) =
      some (m * Nat.pow 16 width + n) := by
  have hle : (Nat.toDigits 16 n).length ≤ width :=
    (Nat.length_toDigits_le_iff (by decide) hw).2 hn
  refine ⟨?_, fun m => ?_⟩
  · simp only [group, List.length_append, List.length_replicate]
    omega
  · have hzero : Text.hexDigit? '0' = some 0 := by decide
    simp only [group, Text.continueNumber_append, Text.continueNumber_zeros hzero, Option.bind_some,
      Text.continueNumber_toDigits (by decide) Text.hexDigit?_digitChar, Option.some.injEq,
      Nat.pow_eq]
    rw [Nat.mul_assoc, ← Nat.pow_add, Nat.sub_add_cancel hle]

private theorem readHyphenated?_groups {a b c d e : List Char} (ha : a.length = 8)
    (hb : b.length = 4) (hc : c.length = 4) (hd : d.length = 4) (he : e.length = 12) :
    readHyphenated? (a ++ '-' :: b ++ '-' :: c ++ '-' :: d ++ '-' :: e) =
      readBare? (a ++ b ++ c ++ d ++ e) := by
  unfold readHyphenated?
  simp [List.drop_append, List.drop_eq_nil_of_le, ha, hb, hc, hd, he]

/-- An identifier of 128 bits is read back from its hyphenated form. -/
theorem read?_text {u : Ident} (h : u.value < pow2 128) : read? u.text = some u := by
  obtain ⟨n⟩ := u
  obtain ⟨la, ra⟩ := group_spec 8 (n / pow2 96) (by decide)
    ((Nat.div_lt_iff_lt_mul (by decide)).2 h)
  obtain ⟨lb, rb⟩ := group_spec 4 (n / pow2 80 % pow2 16) (by decide) (Nat.mod_lt _ (by decide))
  obtain ⟨lc, rc⟩ := group_spec 4 (n / pow2 64 % pow2 16) (by decide) (Nat.mod_lt _ (by decide))
  obtain ⟨ld, rd⟩ := group_spec 4 (n / pow2 48 % pow2 16) (by decide) (Nat.mod_lt _ (by decide))
  obtain ⟨le, re⟩ := group_spec 12 (n % pow2 48) (by decide) (Nat.mod_lt _ (by decide))
  simp only [read?, text, String.toList_ofList]
  have hlength : (group 8 (n / pow2 96) ++ '-' :: group 4 (n / pow2 80 % pow2 16) ++
      '-' :: group 4 (n / pow2 64 % pow2 16) ++ '-' :: group 4 (n / pow2 48 % pow2 16) ++
      '-' :: group 12 (n % pow2 48)).length = 36 := by
    simp only [List.length_append, List.length_cons, la, lb, lc, ld, le]
  rw [hlength]
  simp only
  rw [readHyphenated?_groups la lb lc ld le]
  simp only [readBare?, List.length_append, la, lb, lc, ld, le, Text.continueNumber_append, ra, rb,
    rc, rd, re, Option.bind_some, Option.map_some, Option.some.injEq, if_true]
  simp only [pow2, Nat.pow_eq] at h
  simp only [Ident.mk.injEq, pow2, Nat.pow_eq]
  omega

private theorem readBare?_lt {cs : List Char} {u : Ident} (h : readBare? cs = some u) :
    u.value < pow2 128 := by
  unfold readBare? at h
  split at h
  next hlength =>
    obtain ⟨n, hn, rfl⟩ := Option.map_eq_some_iff.1 h
    have hlt := Text.continueNumber_lt Text.hexDigit?_lt hn
    rw [hlength] at hlt
    have hbits : (0 + 1) * Nat.pow 16 32 = pow2 128 := by decide
    exact hbits ▸ hlt
  next => cases h

private theorem readHyphenated?_lt {cs : List Char} {u : Ident} (h : readHyphenated? cs = some u) :
    u.value < pow2 128 := by
  simp only [readHyphenated?] at h
  split at h
  next => exact readBare?_lt h
  next => cases h

/-- In every spelling an identifier that is read has 128 bits. -/
theorem read?_lt {s : String} {u : Ident} (h : read? s = some u) : u.value < pow2 128 := by
  unfold read? at h
  simp only at h
  split at h
  next => exact readBare?_lt h
  next => exact readHyphenated?_lt h
  next =>
    split at h
    next => exact readHyphenated?_lt h
    next => cases h
  next =>
    split at h
    next => exact readHyphenated?_lt h
    next => cases h
  next => cases h

private theorem digit_of_mem_group {width n : Nat} {c : Char} (hc : c ∈ group width n) :
    ∃ d, d < 16 ∧ c = d.digitChar := by
  rcases List.mem_append.1 hc with hc | hc
  · exact ⟨0, by decide, (List.mem_replicate.1 hc).2⟩
  · exact Text.digit_of_mem_toDigits (by decide) hc

/-- The hyphenated form has nothing but digits and hyphens. -/
theorem digit_of_mem_text {u : Ident} {c : Char} (hc : c ∈ u.text.toList) :
    c = '-' ∨ ∃ d, d < 16 ∧ c = d.digitChar := by
  simp only [text, String.toList_ofList, List.mem_append, List.mem_cons] at hc
  rcases hc with ((((hc | hc | hc) | hc | hc) | hc | hc) | hc | hc)
  all_goals
    first
    | exact .inl hc
    | exact .inr (digit_of_mem_group hc)

/-- A number that does not fit takes more digits than its group has. -/
private theorem group_of_large (width n : Nat) (hw : 0 < width) (hn : Nat.pow 16 width ≤ n) :
    ∃ d rest, d < 16 ∧ width ≤ rest.length ∧ group width n = d.digitChar :: rest := by
  obtain ⟨d, rest, hd, hdigits⟩ := Text.toDigits_eq_cons n
  have hlong : ¬(Nat.toDigits 16 n).length ≤ width := by
    rw [Nat.length_toDigits_le_iff (by decide) hw]
    exact Nat.not_lt.2 hn
  rw [hdigits, List.length_cons] at hlong
  have hzero : width - (rest.length + 1) = 0 := by omega
  refine ⟨d, rest, hd, by omega, ?_⟩
  simp only [group, hdigits, List.length_cons, hzero, List.replicate_zero, List.nil_append]

private theorem digitChar_ne :
    ∀ {d : Nat}, d < 16 → d.digitChar ≠ '{' ∧ d.digitChar.toLower ≠ 'u' := by
  decide

/-- A longer identifier has its form, too, but is not read. -/
theorem read?_text_of_large {u : Ident} (h : pow2 128 ≤ u.value) : read? u.text = none := by
  obtain ⟨n⟩ := u
  obtain ⟨d, rest, hd, hlong, hfirst⟩ := group_of_large 8 (n / pow2 96) (by decide)
    ((Nat.le_div_iff_mul_le (by decide)).2 h)
  obtain ⟨lb, -⟩ := group_spec 4 (n / pow2 80 % pow2 16) (by decide)
    (Nat.mod_lt _ (by decide))
  obtain ⟨lc, -⟩ := group_spec 4 (n / pow2 64 % pow2 16) (by decide)
    (Nat.mod_lt _ (by decide))
  obtain ⟨ld, -⟩ := group_spec 4 (n / pow2 48 % pow2 16) (by decide)
    (Nat.mod_lt _ (by decide))
  obtain ⟨le, -⟩ := group_spec 12 (n % pow2 48) (by decide)
    (Nat.mod_lt _ (by decide))
  obtain ⟨cs, htext, hlength⟩ : ∃ cs, (Ident.mk n).text.toList = d.digitChar :: cs ∧
      36 ≤ cs.length := by
    simp only [text, String.toList_ofList, hfirst, List.cons_append]
    refine ⟨_, rfl, ?_⟩
    simp [lb, lc, ld, le]
    omega
  obtain ⟨hbrace, hletter⟩ := digitChar_ne hd
  simp only [read?, htext]
  split
  next he =>
    rw [List.length_cons] at he
    omega
  next he =>
    rw [List.length_cons] at he
    omega
  next => simp [hbrace]
  next =>
    rw [if_neg]
    intro he
    exact hletter (by simpa using congrArg List.head? he)
  next => rfl

/-- What is read from the form of an identifier is that identifier. -/
theorem eq_of_read?_text {u v : Ident} (h : read? u.text = some v) : v = u := by
  by_cases hu : u.value < pow2 128
  · rw [read?_text hu] at h
    exact (Option.some.inj h).symm
  · rw [read?_text_of_large (Nat.not_lt.1 hu)] at h
    cases h

end Ident

/-- The identifiers not handed out yet: all from `next` on. -/
structure Supply where
  next : Nat
deriving Repr, DecidableEq, Inhabited

namespace Supply

/-- The identifier that comes next, and the supply without it. -/
def mint (s : Supply) : Ident × Supply := (⟨s.next⟩, ⟨s.next + 1⟩)

end Supply

end BoardActivity
