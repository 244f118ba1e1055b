import ScriptEmbed.Text.Blank

/-!
The Jaro similarity of two texts, by which a mistyped flag is matched with those that exist. Equal
characters match when their places are not far apart, each at most once; matched characters that
come in another order count half.
-/

set_option autoImplicit false
set_option relaxedAutoImplicit false

namespace ScriptEmbed.CommandLine

/-- Finds the first place from `place` on that is at least `least` and below `bound`, holds `c`
and is not marked, and marks it. -/
def claim (c : Char) (least bound : Nat) : Nat → List (Char × Bool) → Option (List (Char × Bool))
  | _, [] => none
  | place, (other, marked) :: rest =>
    if bound ≤ place then none
    else if least ≤ place ∧ c = other ∧ !marked then some ((other, true) :: rest)
    else (claim c least bound (place + 1) rest).map ((other, marked) :: ·)

/-- Matches the characters of a text, whose first is at `place`, with those of the other: the
matched characters in their order, and the marks on the other. -/
def matchFrom (reach : Nat) : Nat → Text → List (Char × Bool) → Text × List (Char × Bool)
  | _, [], marks => ([], marks)
  | place, c :: rest, marks =>
    match claim c (place - reach) (place + reach + 1) 0 marks with
    | some marks =>
      let (matched, marks) := matchFrom reach (place + 1) rest marks
      (c :: matched, marks)
    | none => matchFrom reach (place + 1) rest marks

/-- The similarity, from 0 for texts without a match to 1 for equal texts. -/
def similarity (a b : Text) : Float :=
  if a.isEmpty && b.isEmpty then 1
  else
    let reach := max a.length b.length / 2 - 1
    let (matched, marks) := matchFrom reach 0 a (b.map fun c ↦ (c, false))
    let others := (marks.filter (·.2)).map (·.1)
    let count := matched.length
    let moved := ((matched.zip others).filter fun (c, other) ↦ c ≠ other).length / 2
    if count = 0 then 0
    else
      (Float.ofNat count / Float.ofNat a.length + Float.ofNat count / Float.ofNat b.length +
        Float.ofNat (count - moved) / Float.ofNat count) / 3

/-- Texts at most this similar are not suggested. -/
def suggestionThreshold : Float := 0.7

/-- The most similar candidate, if it is similar enough; of equally similar ones the last. -/
def suggestion? (text : Text) (candidates : List Text) : Option Text :=
  (candidates.foldl
    (fun best candidate ↦
      let score := similarity text candidate
      if suggestionThreshold < score then
        match best with
        | some (_, bestScore) => if score < bestScore then best else some (candidate, score)
        | none => some (candidate, score)
      else best)
    (none : Option (Text × Float))).map (·.1)

end ScriptEmbed.CommandLine
