/-!
# Substrate.Text.Rendering

Values as text in two forms: on one line, and spread over lines. A `Rendering` holds both, and
the two combinators `list` and `record` build each form from the same form of the parts, so the
forms cannot disagree on what they show.

In the spread form every part stands on its own lines, four spaces deeper than its surroundings
and followed by a comma.
-/

namespace Substrate.Text

/-- A value's text on one line, and its lines when it is spread out. -/
structure Rendering where
  inline : String
  lines : List String
  deriving Repr, DecidableEq

namespace Rendering

/-- The spread form as one text. -/
def block (r : Rendering) : String := "\n".intercalate r.lines

/-- A text that is never split. -/
def atom (text : String) : Rendering := ⟨text, [text]⟩

/-- Puts a comma behind the last line. -/
def closeWithComma : List String → List String
  | [] => []
  | [l] => [l ++ ","]
  | l :: rest => l :: closeWithComma rest

/-- The lines of one part inside a spread value. -/
def indent (lines : List String) : List String := (closeWithComma lines).map ("    " ++ ·)

/-- Puts a label before the first line. -/
def label (text : String) : List String → List String
  | [] => [text]
  | l :: rest => (text ++ l) :: rest

/-- A list in brackets. The empty list is `[]` in both forms. -/
def list (items : List Rendering) : Rendering where
  inline := "[" ++ ", ".intercalate (items.map inline) ++ "]"
  lines :=
    if items.isEmpty then ["[]"]
    else "[" :: items.flatMap (fun item => indent item.lines) ++ ["]"]

/-- A named record. A record without fields is its name alone, in both forms. -/
def record (name : String) (fields : List (String × Rendering)) : Rendering :=
  if fields.isEmpty then atom name
  else {
    inline :=
      let shown := fields.map fun (field, value) => field ++ ": " ++ value.inline
      name ++ " \x7b " ++ ", ".intercalate shown ++ " \x7d"
    lines :=
      (name ++ " \x7b") ::
        fields.flatMap (fun (field, value) => indent (label (field ++ ": ") value.lines)) ++
        ["\x7d"] }

end Rendering

end Substrate.Text
