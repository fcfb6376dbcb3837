import BoardActivity.Text.CombiningClass
import BoardActivity.Text.Composites

/-!
# Composed form

One text can be spelled in several ways: a letter with an accent as one character or as two, and
several marks in any order. In the composed form letters and marks are joined as far as there are
characters for them (`composed`): the text is taken apart, the marks after each letter are put in
the order of their classes, and then each letter takes up the marks that it can. A mark is kept from
the letter by another one between them that is not of a lower class.

Characters that the composed form never contains, because another one has taken their place, are
left alone here; a text that has any of them is to be freed of them first.
-/

namespace BoardActivity.Text

def parts? (c : Char) : Option (Char × Char) :=
  if c.toNat < 0xC0 then none
  else
    match Hangul.parts? c with
    | some parts => some parts
    | none => (composites.find? fun p => p.whole == c).map fun p => (p.first, p.second)

def compose? (a b : Char) : Option Char :=
  match Hangul.compose? a b with
  | some c => some c
  | none => (composites.find? fun p => p.first == a && p.second == b).map Composite.whole

/-- Takes every composite apart once. -/
def splitOnce (cs : List Char) : List Char :=
  cs.flatMap fun c =>
    match parts? c with
    | some (a, b) => [a, b]
    | none => [c]

/-- Takes all composites apart. The first part of a composite can be a composite again, and so can
the first part of that, but not further. -/
def decomposed (cs : List Char) : List Char := splitOnce (splitOnce (splitOnce cs))

/-- Puts a character before a text whose marks are in order: a mark goes behind those of lower
classes. -/
def insertMark (c : Char) : List Char → List Char
  | [] => [c]
  | d :: ds =>
    if 0 < combiningClass d ∧ combiningClass d < combiningClass c then d :: insertMark c ds
    else c :: d :: ds

/-- The text with the marks after each letter in the order of their classes. -/
def ordered (cs : List Char) : List Char := cs.foldr insertMark []

/-- A letter with what follows; `skipped` are the marks that it has not taken up, the last one
first. -/
def composeAfter (letter : Char) (skipped : List Char) : List Char → List Char
  | [] => letter :: skipped.reverse
  | c :: cs =>
    let isKept := skipped.head?.any fun m => combiningClass c ≤ combiningClass m
    match if isKept then none else compose? letter c with
    | some whole => composeAfter whole skipped cs
    | none =>
      if combiningClass c = 0 then letter :: (skipped.reverse ++ composeAfter c [] cs)
      else composeAfter letter (c :: skipped) cs

/-- Joins letters and marks of a text that is taken apart and in order. -/
def compose : List Char → List Char
  | [] => []
  | c :: cs => if combiningClass c = 0 then composeAfter c [] cs else c :: compose cs

def composed (cs : List Char) : List Char :=
  if cs.all fun c => c.toNat < 0xC0 then cs else compose (ordered (decomposed cs))

end BoardActivity.Text
