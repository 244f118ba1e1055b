import ScriptEmbed.Json.Number

/-!
Passing over a JSON value of any kind and any depth. The brackets that are open are kept in a
list, innermost first.
-/

set_option autoImplicit false
set_option relaxedAutoImplicit false

namespace ScriptEmbed.Json

inductive Bracket
  | list
  | object
  deriving DecidableEq

namespace Bracket

def closing : Bracket → Char
  | .list => ']'
  | .object => '\x7d'

def endProblem : Bracket → Problem
  | .list => .endInList
  | .object => .endInObject

def separatorProblem : Bracket → Problem
  | .list => .listCommaOrEndExpected
  | .object => .objectCommaOrEndExpected

end Bracket

/-- What stands at the front of a value. -/
inductive Start
  | opens (bracket : Bracket)
  | scalar

/-- Passes over a value that holds no other, or over the bracket that opens one that may. -/
def skipStart : Text → Except Fault (Start × Text)
  | [] => .error (.peeked .endInValue [])
  | c :: text =>
    if c = '[' then .ok (.opens .list, text)
    else if c = '\x7b' then .ok (.opens .object, text)
    else Prod.mk .scalar <$>
      if c = 'n' then word "ull".toList text
      else if c = 't' then word "rue".toList text
      else if c = 'f' then word "alse".toList text
      else if c = '"' then skipString text
      else if c = '-' then skipNumber text
      else if isDigit c then skipNumber (c :: text)
      else .error (.peeked .valueExpected (c :: text))

/-- Passes over the colon after a key. -/
def skipColon (text : Text) : Except Fault Text :=
  match skipBlanks text with
  | ':' :: rest => .ok rest
  | [] => .error (.peeked .endInObject [])
  | rest => .error (.peeked .colonExpected rest)

/-- Passes over a key and its colon, if the innermost bracket wants them before a value. -/
def skipKey (bracket : Bracket) (text : Text) : Except Fault Text :=
  match bracket with
  | .list => .ok text
  | .object =>
    match skipBlanks text with
    | '"' :: rest => skipString rest >>= skipColon
    | [] => .error (.peeked .endInObject [])
    | rest => .error (.peeked .keyNotString rest)

/-- Where passing over stands, the outer brackets apart. -/
inductive Position
  /-- A value comes next. -/
  | value
  /-- A bracket has just been opened. -/
  | opened (bracket : Bracket)
  /-- A value has just ended. -/
  | ended

theorem skipBlanks_length (text : Text) : (skipBlanks text).length ≤ text.length :=
  (List.dropWhile_suffix _).length_le

theorem skipDigits_length (text : Text) : (skipDigits text).length ≤ text.length :=
  (List.dropWhile_suffix _).length_le

theorem word_length {letters text rest : Text} (h : word letters text = .ok rest) :
    rest.length ≤ text.length := by
  fun_induction word letters text with
  | case1 => cases h; exact Nat.le_refl _
  | case2 => cases h
  | case3 _ _ _ ih => exact Nat.le_succ_of_le (ih h)
  | case4 => cases h

theorem dropSign_length (text : Text) : (dropSign text).length ≤ text.length := by
  unfold dropSign
  split <;> simp

theorem skipExponent_length {text rest : Text} (h : skipExponent text = .ok rest) :
    rest.length ≤ text.length := by
  unfold skipExponent at h
  dsimp only at h
  split at h
  · cases h
    have hdrop : (text.drop 1).length ≤ text.length := by simp
    exact Nat.le_trans (skipDigits_length _) (Nat.le_trans (dropSign_length _) hdrop)
  · cases h

theorem skipOptionalExponent_length {text rest : Text} (h : skipOptionalExponent text = .ok rest) :
    rest.length ≤ text.length := by
  unfold skipOptionalExponent at h
  split at h
  · exact skipExponent_length h
  · cases h; exact Nat.le_refl _

theorem skipFraction_length {text rest : Text} (h : skipFraction text = .ok rest) :
    rest.length ≤ text.length := by
  unfold skipFraction at h
  split at h
  · split at h
    · exact Nat.le_succ_of_le (Nat.le_trans (skipOptionalExponent_length h) (skipDigits_length _))
    · cases h
  · exact skipOptionalExponent_length h

theorem skipNumber_length {text rest : Text} (h : skipNumber text = .ok rest) :
    rest.length ≤ text.length := by
  unfold skipNumber at h
  split at h
  · split at h
    · cases h
    · exact Nat.le_succ_of_le (skipFraction_length h)
  · split at h
    · exact Nat.le_trans (skipFraction_length h) (skipDigits_length _)
    · cases h

theorem skipNumber_length_of_digit {c : Char} {text rest : Text} (hc : isDigit c = true)
    (h : skipNumber (c :: text) = .ok rest) : rest.length ≤ text.length := by
  unfold skipNumber at h
  split at h
  · next heq =>
    cases heq
    split at h
    · cases h
    · exact skipFraction_length h
  · split at h
    · refine Nat.le_trans (skipFraction_length h) ?_
      simpa [skipDigits, hc] using skipDigits_length text
    · cases h

theorem skipStart_length {text rest : Text} {start : Start}
    (h : skipStart text = .ok (start, rest)) : rest.length < text.length := by
  have scalar {inner : Text} {result : Except Fault Text}
      (hresult : ∀ rest, result = .ok rest → rest.length ≤ inner.length)
      (h : Prod.mk Start.scalar <$> result = .ok (start, rest)) : rest.length ≤ inner.length := by
    cases result with
    | error fault => cases h
    | ok value => cases h; exact hresult _ rfl
  unfold skipStart at h
  split at h
  · cases h
  · split at h
    · cases h; exact Nat.lt_succ_self _
    split at h
    · cases h; exact Nat.lt_succ_self _
    refine Nat.lt_succ_of_le (scalar ?_ h)
    intro rest hrest
    split at hrest
    · exact word_length hrest
    split at hrest
    · exact word_length hrest
    split at hrest
    · exact word_length hrest
    split at hrest
    · exact Nat.le_of_lt (skipString_length hrest)
    split at hrest
    · exact skipNumber_length hrest
    split at hrest
    · next hdigit => exact skipNumber_length_of_digit hdigit hrest
    · cases hrest

theorem skipColon_length {text rest : Text} (h : skipColon text = .ok rest) :
    rest.length ≤ text.length := by
  unfold skipColon at h
  split at h
  · next hblanks =>
    cases h
    have := skipBlanks_length text
    rw [hblanks] at this
    exact Nat.le_trans (Nat.le_succ _) this
  · cases h
  · cases h

theorem skipKey_length {bracket : Bracket} {text rest : Text}
    (h : skipKey bracket text = .ok rest) : rest.length ≤ text.length := by
  unfold skipKey at h
  split at h
  · cases h; exact Nat.le_refl _
  · split at h
    · next inner hblanks =>
      have hlen := skipBlanks_length text
      rw [hblanks] at hlen
      cases hkey : skipString inner with
      | error fault => rw [hkey] at h; cases h
      | ok after =>
        rw [hkey] at h
        have hcolon := skipColon_length h
        have hstring := skipString_length hkey
        exact Nat.le_trans hcolon (Nat.le_trans (Nat.le_of_lt hstring)
          (Nat.le_trans (Nat.le_succ _) hlen))
    · cases h
    · cases h

/-- What is left to pass, with an opened bracket counting as a little more. -/
def Position.weight : Position → Nat
  | .opened _ => 1
  | _ => 0

/-- Passes over what is left of a value inside the given brackets, innermost first. -/
def skipFrom (position : Position) (outer : List Bracket) (text : Text) : Except Fault Text :=
  match position with
  | .value =>
    match _ : skipStart (skipBlanks text) with
    | .error fault => .error fault
    | .ok (.opens bracket, rest) => skipFrom (.opened bracket) outer rest
    | .ok (.scalar, rest) => skipFrom .ended outer rest
  | .opened bracket =>
    match _ : skipBlanks text with
    | [] => .error (.peeked bracket.endProblem [])
    | c :: rest =>
      if c = bracket.closing then skipFrom .ended outer rest
      else
        match _ : skipKey bracket (c :: rest) with
        | .error fault => .error fault
        | .ok rest => skipFrom .value (bracket :: outer) rest
  | .ended =>
    match outer with
    | [] => .ok text
    | bracket :: outer =>
      match _ : skipBlanks text with
      | [] => .error (.peeked bracket.endProblem [])
      | c :: rest =>
        if c = ',' then
          match _ : skipKey bracket rest with
          | .error fault => .error fault
          | .ok rest => skipFrom .value (bracket :: outer) rest
        else if c = bracket.closing then skipFrom .ended outer rest
        else .error (.peeked bracket.separatorProblem (c :: rest))
termination_by 2 * text.length + position.weight
decreasing_by
  all_goals have hblanks := skipBlanks_length text
  · next h =>
    have := skipStart_length h
    simp only [Position.weight]; omega
  · next h =>
    have := skipStart_length h
    simp only [Position.weight]; omega
  · next h _ =>
    rw [h] at hblanks
    simp only [Position.weight, List.length_cons] at *; omega
  · next h _ hkey =>
    have := skipKey_length hkey
    rw [h] at hblanks
    simp only [Position.weight, List.length_cons] at *; omega
  · next h _ hkey =>
    have := skipKey_length hkey
    rw [h] at hblanks
    simp only [Position.weight, List.length_cons] at *; omega
  · next h _ _ =>
    rw [h] at hblanks
    simp only [Position.weight, List.length_cons] at *; omega

/-- Passes over one value. -/
def skipValue (text : Text) : Except Fault Text := skipFrom .value [] text

theorem skipFrom_length {position : Position} {outer : List Bracket} {text rest : Text}
    (h : skipFrom position outer text = .ok rest) : rest.length ≤ text.length := by
  fun_induction skipFrom position outer text with
  | case1 => cases h
  | case2 _ text _ _ hstart ih =>
    have hblanks := skipBlanks_length text
    have hlen := skipStart_length hstart
    have := ih h
    omega
  | case3 _ text _ hstart ih =>
    have hblanks := skipBlanks_length text
    have hlen := skipStart_length hstart
    have := ih h
    omega
  | case4 => cases h
  | case5 _ text _ _ heq ih =>
    have hblanks := skipBlanks_length text
    have := ih h
    rw [heq, List.length_cons] at hblanks
    omega
  | case6 => cases h
  | case7 _ text _ _ _ heq _ _ hkey ih =>
    have hblanks := skipBlanks_length text
    have hlen := skipKey_length hkey
    have := ih h
    rw [heq] at hblanks
    omega
  | case8 => cases h; exact Nat.le_refl _
  | case9 => cases h
  | case10 => cases h
  | case11 text _ _ _ _ hkey heq ih =>
    have hblanks := skipBlanks_length text
    have hlen := skipKey_length hkey
    have := ih h
    rw [heq, List.length_cons] at hblanks
    omega
  | case12 text _ _ _ heq _ ih =>
    have hblanks := skipBlanks_length text
    have := ih h
    rw [heq, List.length_cons] at hblanks
    omega
  | case13 => cases h

end ScriptEmbed.Json
