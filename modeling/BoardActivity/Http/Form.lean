import BoardActivity.Text.Percent

/-!
# Form fields

The fields of a query string: `name=value` pairs between ampersands, in which a plus sign stands
for a space and `%` with two hexadecimal digits for a byte. A field that is not UTF-8 after this has
no text (`none`), and can be neither a known name nor a value that is accepted.
-/

namespace BoardActivity.Http

/-- The text of a path segment. -/
def segmentText? (cs : List Char) : Option String := Text.unescape? (String.ofList cs)

/-- The text of a name or value of a form. -/
def formText? (cs : List Char) : Option String :=
  segmentText? (cs.map fun c => if c == '+' then ' ' else c)

structure FormField where
  name : Option String
  value : Option String
deriving Repr, DecidableEq

/-- The fields of a query; empty parts are skipped, and a part without `=` has an empty value. -/
def formFields (query : List Char) : List FormField :=
  ((query.splitOn '&').filter fun part => !part.isEmpty).map fun part =>
    let name := part.takeWhile (· != '=')
    ⟨formText? name, formText? (part.drop (name.length + 1))⟩

/-- The value of a field that occurs at most once, read with `read`: nothing if it does not occur,
and a refusal (`none`) if it occurs twice or cannot be read. -/
def formValue? (name : String) (read : String → Option α) (fields : List FormField) :
    Option (Option α) :=
  match fields.filter fun f => f.name == some name with
  | [] => some none
  | [f] => (f.value.bind read).map some
  | _ => none

end BoardActivity.Http
