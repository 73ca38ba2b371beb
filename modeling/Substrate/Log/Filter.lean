import Substrate.Log.Level
import Substrate.Pattern.Reader

/-!
# Substrate.Log.Filter

Which lines of a log are shown. A setting is a list of directives between commas, and after a slash
a pattern for the messages. A directive is a level for all lines (`warn`), a level for the lines of
one origin (`store=warn`), or an origin alone, whose lines are all shown (`store`). An origin stands
for everything whose name begins with it. Of the directives that apply to a line the one with the
longest origin decides.
-/

namespace Substrate.Log

/-- One line: where it comes from, how weighty it is, and what it says. -/
structure Line where
  origin : String
  level : Level
  message : String
  deriving Repr, DecidableEq

/-- A level for the lines of one origin, or of all. -/
structure Directive where
  origin : Option String
  level : Level
  deriving Repr, DecidableEq

namespace Directive

/-- Does the directive speak of lines of this origin? -/
def applies (d : Directive) (origin : String) : Bool := d.origin.all (·.isPrefixOf origin)

/-- How much of an origin the directive names. -/
def length (d : Directive) : Nat := d.origin.elim 0 (·.utf8ByteSize)

/-- The directive in a text. What is not understood is none. -/
def ofText? (text : String) : Option Directive :=
  let text := Text.trim text
  if text = "" then none
  else match text.splitOn "=" with
    | [part] =>
      match Level.ofName? part with
      | some level => some ⟨none, level⟩
      | none => some ⟨some part, .trace⟩
    | [origin, level] =>
      let level := Text.trim level
      if level = "" then some ⟨some origin, .trace⟩
      else (Level.ofName? level).map fun level => ⟨some origin, level⟩
    | _ => none

end Directive

/-- Directives, and a pattern that every message shown must hold. -/
structure Filter where
  directives : List Directive
  pattern : Option Pattern := none

namespace Filter

/-- Shows errors, and nothing else. -/
def errors : List Directive := [⟨none, .error⟩]

/-- The filter of a setting. Parts that are not understood are left out; without any directive only
errors are shown. A setting with two slashes is not understood at all. -/
def ofText (setting : String) : Filter :=
  let directivesOf := fun (text : String) =>
    match (text.splitOn ",").filterMap Directive.ofText? with
    | [] => errors
    | directives => directives
  match setting.splitOn "/" with
  | [directives] => ⟨directivesOf directives, none⟩
  | [directives, pattern] => ⟨directivesOf directives, Pattern.ofText? pattern⟩
  | _ => ⟨errors, none⟩

/-- The filter of a setting that may be missing: then information is shown. -/
def ofSetting (setting : Option String) : Filter := ofText (setting.getD "info")

/-- The directive that decides about lines of an origin: of those that apply, the one that names
most of it; of two that name as much, the later one. -/
def deciding? (f : Filter) (origin : String) : Option Directive :=
  (f.directives.filter (·.applies origin)).foldl (fun best d => match best with
    | none => some d
    | some b => if b.length ≤ d.length then some d else some b) none

/-- The level up to which lines of an origin are shown. -/
def levelFor (f : Filter) (origin : String) : Level := (f.deciding? origin).elim .off (·.level)

/-- Is the line shown? -/
def shows (f : Filter) (line : Line) : Bool :=
  line.level.rank ≤ (f.levelFor line.origin).rank && f.pattern.all (·.isFoundIn line.message)

/-- The lines that are shown. -/
def visible (f : Filter) (lines : List Line) : List Line := lines.filter f.shows

end Filter

end Substrate.Log
