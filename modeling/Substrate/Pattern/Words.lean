import Substrate.Pattern.Encoding
import Substrate.Pattern.Simple

/-!
# Substrate.Pattern.Words

Patterns that are for a few words and nothing else. They are searched for without a machine, so it
does not matter how much room one would take. A part that is never found does not matter either,
however large it is.
-/

namespace Substrate.Pattern

/-- Is the pattern without conditions and without groups that can be asked for by number? -/
def isPlain : Pattern → Bool
  | empty => true
  | one _ => true
  | look _ => false
  | seq p q => p.isPlain && q.isPlain
  | alt p q => p.isPlain && q.isPlain
  | times p _ _ => p.isPlain
  | group _ _ => false

/-- The characters of a set, if they are ten at most. -/
def few? (s : CharSet) : Option (List Char) :=
  let count := s.runs.foldl (fun n (first, last) => n + (last + 1 - first)) 0
  if 10 < count then none
  else some (s.runs.flatMap fun (first, last) =>
    (List.range' first (last + 1 - first)).map Char.ofNat)

/-- Each word of the first list followed by each of the second, if they are 250 at most, of 100
bytes at most. -/
def crossed? (front back : List (List Char)) : Option (List (List Char)) :=
  let words := front.flatMap fun w => back.map fun v => w ++ v
  let isLong := fun (w : List Char) => 100 < (CharSet.encodingOf w).length
  if 250 < words.length || words.any isLong then none else some words

/-- `n` of the words in a row. -/
def crossedTimes? (words : List (List Char)) : Nat → Option (List (List Char))
  | 0 => some [[]]
  | n + 1 => do crossed? (← crossedTimes? words n) words

/-- The words that the pattern is for, as far as they can be listed. -/
def words? : Pattern → Option (List (List Char))
  | empty => some [[]]
  | one s => (few? s).map fun cs => cs.map fun c => [c]
  | look _ => none
  | seq p q => do
    let front ← p.words?
    if front.isEmpty then some [] else crossed? front (← q.words?)
  | alt p q => do
    let words := (← p.words?) ++ (← q.words?)
    if 250 < words.length then none else some words
  | times p least most => do
    let words ← p.words?
    if words.isEmpty then some (if least = 0 then [[]] else [])
    else if least = 0 ∧ most = some 1 then some (words ++ [[]])
    else if most = some least ∧ least ≤ 10 then crossedTimes? words least
    else none
  | group _ p => p.words?

/-- Is the pattern for one word, or for up to ten words of which no byte stands at the start of
all? -/
def isForWords (p : Pattern) : Bool :=
  p.isPlain && p.words?.any fun words =>
    let words := words.eraseDups.map CharSet.encodingOf
    let front := match words with
      | [] => []
      | first :: rest => rest.foldl commonFront first
    words ≠ [] && words.all (· ≠ []) && words.length ≤ 10 && (words.length = 1 || front.isEmpty)

/-! ## One word, or none -/

example : (choice [.one .none, inRow [.ofSet (.single 'o'), .ofSet (.single 'k')]]).isForWords =
    true := by decide +kernel

example : (Pattern.one .none).isForWords = false ∧ (ofSet (.range 'a' 'z')).isForWords = false := by
  decide +kernel

end Substrate.Pattern
