set_option autoImplicit false
set_option relaxedAutoImplicit false

/-!
# Paths

The short form of a path: empty parts and parts that are a single point are left out, and the empty
path is a single point. Two slashes at the start are kept, one or more than two become one.

## Main definitions

* `ChipEight.Path.parts` — the parts of a path.
* `ChipEight.Path.short` — a path in its short form.
* `ChipEight.Path.fileName` — the last part of a path.
-/

namespace ChipEight

namespace Path

/-- The pieces of a text between the occurrences of a character. -/
def splitAt (separator : Char) : List Char → List (List Char)
  | [] => [[]]
  | c :: rest =>
    match splitAt separator rest with
    | [] => [[c]]
    | piece :: pieces => if c = separator then [] :: piece :: pieces else (c :: piece) :: pieces

/-- The parts of a path, without the empty ones and the single points. -/
def parts (path : String) : List String :=
  ((splitAt '/' path.toList).filter fun part => part ≠ [] ∧ part ≠ ['.']).map String.ofList

/-- The slashes at the start of a path in its short form. -/
def root (path : String) : String :=
  match path.toList with
  | '/' :: '/' :: '/' :: _ => "/"
  | '/' :: '/' :: _ => "//"
  | '/' :: _ => "/"
  | _ => ""

/-- A path in its short form. -/
def short (path : String) : String :=
  let text := root path ++ "/".intercalate (parts path)
  if text = "" then "." else text

/-- The last part of a path; the empty text if the path has no parts. -/
def fileName (path : String) : String :=
  ((parts path).getLast?).getD ""

end Path

end ChipEight
