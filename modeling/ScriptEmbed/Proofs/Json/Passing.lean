import Mathlib.Data.List.DropRight
import ScriptEmbed.Proofs.Json.Strings

/-!
Passing over values. A number ends where no character follows that could belong to it, as is the
case before a blank, a comma and a closing bracket (`Stops`). Of the brackets that are open only the
innermost matters for the next step, so a value is passed over whatever is open around it, and the
items of a bracket up to its closing (`Derives.passedOver`, by induction on the derivation). At any
depth, a value by itself is therefore passed over, and no more (`skipValue_isValue`).
-/

set_option autoImplicit false
set_option relaxedAutoImplicit false

namespace ScriptEmbed.Json

variable {c : Char} {text white rest : Text}

/-! ### Blanks -/

theorem isBlank_of_isWhite (h : IsWhite white) (hc : c ∈ white) : isBlank c = true := by
  have hall : ∀ d ∈ [' ', '\t', '\n', '\r'], isBlank d = true :=
    forall_mem_of_all (by decide)
  exact hall c (h c hc)

theorem skipBlanks_white (h : IsWhite white) (text : Text) :
    skipBlanks (white ++ text) = skipBlanks text :=
  List.dropWhile_append_of_pos fun _ hc ↦ isBlank_of_isWhite h hc

theorem skipBlanks_of_visible (hc : isBlank c = false) (rest : Text) :
    skipBlanks (c :: rest) = c :: rest := by
  simp [skipBlanks, hc]

theorem skipBlanks_white_cons (h : IsWhite white) (hc : isBlank c = false) (rest : Text) :
    skipBlanks (white ++ c :: rest) = c :: rest := by
  rw [skipBlanks_white h, skipBlanks_of_visible hc]

theorem skipBlanks_skipBlanks (text : Text) : skipBlanks (skipBlanks text) = skipBlanks text :=
  List.dropWhile_idempotent isBlank text

/-! ### Numbers -/

/-- That what follows does not continue a number. -/
def Stops (rest : Text) : Prop :=
  ∀ c, rest.head? = some c → isDigit c = false ∧ c ≠ '.' ∧ c ≠ 'e' ∧ c ≠ 'E'

theorem stops_of_white (h : IsWhite white) (hc : c ∈ [',', ']', '\x7d']) (rest : Text) :
    Stops (white ++ c :: rest) := by
  have hall : ∀ d ∈ [' ', '\t', '\n', '\r', ',', ']', '\x7d'],
      isDigit d = false ∧ d ≠ '.' ∧ d ≠ 'e' ∧ d ≠ 'E' :=
    forall_mem_of_all (by decide)
  intro d hd
  refine hall d ?_
  cases white with
  | nil =>
    cases hd
    exact List.mem_append_right [' ', '\t', '\n', '\r'] hc
  | cons =>
    cases hd
    exact List.mem_append_left [',', ']', '\x7d'] (h d List.mem_cons_self)

theorem isDigit_of_mem (h : c ∈ "0123456789".toList) : isDigit c = true := by
  have hall : ∀ d ∈ "0123456789".toList, isDigit d = true :=
    forall_mem_of_all (by decide)
  exact hall c h

theorem mem_digits_of_nonzero (h : c ∈ "123456789".toList) : c ∈ "0123456789".toList :=
  List.mem_cons_of_mem '0' h

theorem skipDigits_append {digits : Text} (hdigits : ∀ d ∈ digits, d ∈ "0123456789".toList)
    (hrest : ∀ d, rest.head? = some d → isDigit d = false) :
    skipDigits (digits ++ rest) = rest := by
  rw [skipDigits, List.dropWhile_append_of_pos fun d hd ↦ isDigit_of_mem (hdigits d hd)]
  cases rest with
  | nil => rfl
  | cons d rest => simp [hrest d rfl]

theorem startsWithDigit_of_isDigits {digits : Text} (h : IsDigits digits) (rest : Text) :
    startsWithDigit (digits ++ rest) = true := by
  obtain ⟨d, digits, rfl⟩ := List.exists_cons_of_ne_nil h.1
  simpa [startsWithDigit] using isDigit_of_mem (h.2 d List.mem_cons_self)

theorem startsWithDigit_eq_false (h : ∀ d, text.head? = some d → isDigit d = false) :
    startsWithDigit text = false := by
  cases text with
  | nil => rfl
  | cons d text => simpa [startsWithDigit] using h d rfl

/-- A sign in front of digits is dropped. -/
theorem dropSign_append {sign digits : Text} (hsign : sign ∈ [[], ['+'], ['-']])
    (hdigits : IsDigits digits) (rest : Text) :
    dropSign (sign ++ digits ++ rest) = digits ++ rest := by
  have hsigns : sign = [] ∨ sign = ['+'] ∨ sign = ['-'] := by simpa using hsign
  rcases hsigns with rfl | rfl | rfl
  · obtain ⟨d, digits, rfl⟩ := List.exists_cons_of_ne_nil hdigits.1
    have hd := isDigit_of_mem (hdigits.2 d List.mem_cons_self)
    rw [List.nil_append, List.cons_append]
    unfold dropSign
    split
    · next heq =>
      cases heq
      cases hd
    · next heq =>
      cases heq
      cases hd
    · rfl
  · rfl
  · rfl

theorem skipOptionalExponent_of_isExponent {exponent : Text} (h : IsExponent exponent)
    (hrest : Stops rest) : skipOptionalExponent (exponent ++ rest) = .ok rest := by
  have hend : ∀ d, rest.head? = some d → isDigit d = false := fun d hd ↦ (hrest d hd).1
  cases h with
  | none =>
    have hstart : startsExponent rest = false := by
      cases rest with
      | nil => rfl
      | cons d rest =>
        obtain ⟨-, -, he, hE⟩ := hrest d rfl
        simp [startsExponent, he, hE]
    simp [skipOptionalExponent, hstart]
  | @digits c sign digits hc hsign hdigits =>
    have hstart : startsExponent (c :: sign ++ digits ++ rest) = true := by
      simpa [startsExponent] using hc
    have hafter : dropSign ((c :: sign ++ digits ++ rest).drop 1) = digits ++ rest :=
      dropSign_append hsign hdigits rest
    simp only [skipOptionalExponent, hstart, ↓reduceIte, skipExponent, hafter,
      startsWithDigit_of_isDigits hdigits, skipDigits_append hdigits.2 hend]

theorem head?_exponent {exponent : Text} (h : IsExponent exponent) (hrest : Stops rest) :
    ∀ d, (exponent ++ rest).head? = some d → isDigit d = false ∧ d ≠ '.' := by
  intro d hd
  cases h with
  | none => exact ⟨(hrest d hd).1, (hrest d hd).2.1⟩
  | digits hc =>
    cases hd
    rcases hc with rfl | rfl <;> decide

theorem skipFraction_of_isFraction {fraction exponent : Text} (h : IsFraction fraction)
    (hexponent : IsExponent exponent) (hrest : Stops rest) :
    skipFraction (fraction ++ (exponent ++ rest)) = .ok rest := by
  have hhead := head?_exponent hexponent hrest
  have hpass := skipOptionalExponent_of_isExponent hexponent hrest
  cases h with
  | none =>
    rw [List.nil_append]
    unfold skipFraction
    split
    · next heq => exact ((hhead '.' (by rw [heq]; rfl)).2 rfl).elim
    · exact hpass
  | digits hdigits =>
    rw [List.cons_append]
    simp only [skipFraction, startsWithDigit_of_isDigits hdigits, ↓reduceIte,
      skipDigits_append hdigits.2 fun d hd ↦ (hhead d hd).1, hpass]

theorem head?_fraction {fraction exponent : Text} (h : IsFraction fraction)
    (hexponent : IsExponent exponent) (hrest : Stops rest) :
    ∀ d, (fraction ++ (exponent ++ rest)).head? = some d → isDigit d = false := by
  intro d hd
  cases h with
  | none => exact (head?_exponent hexponent hrest d hd).1
  | digits => cases hd; rfl

theorem skipNumber_of_isInteger {integer fraction exponent : Text} (h : IsInteger integer)
    (hfraction : IsFraction fraction) (hexponent : IsExponent exponent) (hrest : Stops rest) :
    skipNumber (integer ++ (fraction ++ (exponent ++ rest))) = .ok rest := by
  have hhead := head?_fraction hfraction hexponent hrest
  have hpass := skipFraction_of_isFraction hfraction hexponent hrest
  cases h with
  | zero =>
    rw [List.singleton_append]
    simp only [skipNumber, startsWithDigit_eq_false hhead, Bool.false_eq_true, ↓reduceIte, hpass]
  | @digits c digits hc hdigits =>
    have hall : ∀ d ∈ c :: digits, d ∈ "0123456789".toList :=
      List.forall_mem_cons.mpr ⟨mem_digits_of_nonzero hc, hdigits⟩
    have hzero : c ≠ '0' := by
      rintro rfl
      exact absurd hc (by decide)
    have hstart := startsWithDigit_of_isDigits ⟨List.cons_ne_nil c digits, hall⟩
      (fraction ++ (exponent ++ rest))
    have hskip := skipDigits_append hall hhead
    unfold skipNumber
    split
    · next heq => exact (hzero (List.cons.inj heq).1).elim
    · rw [if_pos hstart, hskip, hpass]

/-! ### What a value begins with -/

theorem ne_of_isDigit {d : Char} (hc : isDigit c = true) (hd : isDigit d = false) : c ≠ d := by
  rintro rfl
  rw [hc] at hd
  cases hd

theorem skipStart_digit (hc : isDigit c = true) (text : Text) :
    skipStart (c :: text) = Prod.mk .scalar <$> skipNumber (c :: text) := by
  have hother : ∀ d, isDigit d = false → c ≠ d := fun d hd ↦ ne_of_isDigit hc hd
  simp only [skipStart, hother '[' rfl, hother '\x7b' rfl, hother 'n' rfl, hother 't' rfl,
    hother 'f' rfl, hother '"' rfl, hother '-' rfl, hc, ↓reduceIte]

theorem IsInteger.cons {integer : Text} (h : IsInteger integer) :
    ∃ d digits, integer = d :: digits ∧ d ∈ "0123456789".toList := by
  cases h with
  | zero => exact ⟨'0', [], rfl, by decide⟩
  | @digits d digits hd => exact ⟨d, digits, rfl, mem_digits_of_nonzero hd⟩

theorem skipStart_of_isNumber (h : IsNumber text) (hrest : Stops rest) :
    skipStart (text ++ rest) = .ok (.scalar, rest) := by
  cases h with
  | mk hsign hinteger hfraction hexponent =>
    have hsigns := List.mem_cons.mp hsign
    have hpass := skipNumber_of_isInteger hinteger hfraction hexponent hrest
    simp only [List.append_assoc]
    rcases hsigns with rfl | hminus
    · obtain ⟨d, digits, rfl, hd⟩ := hinteger.cons
      rw [List.cons_append] at hpass
      rw [List.nil_append, List.cons_append, skipStart_digit (isDigit_of_mem hd), hpass]
      rfl
    · rw [List.mem_singleton.mp hminus, List.singleton_append]
      change Prod.mk Start.scalar <$> skipNumber _ = _
      rw [hpass]
      rfl

theorem skipStart_of_word (h : text ∈ ["null".toList, "true".toList, "false".toList])
    (rest : Text) : skipStart (text ++ rest) = .ok (.scalar, rest) := by
  have hwords : text = "null".toList ∨ text = "true".toList ∨ text = "false".toList := by
    simpa using h
  rcases hwords with rfl | rfl | rfl <;> rfl

theorem skipStart_of_string {body : Text} (h : IsStringBody body) (rest : Text) :
    skipStart ('"' :: body ++ ['"'] ++ rest) = .ok (.scalar, rest) := by
  have hpass := skipString_body h rest
  have htext : '"' :: body ++ ['"'] ++ rest = '"' :: (body ++ '"' :: rest) := by simp
  rw [htext]
  change Prod.mk Start.scalar <$> skipString _ = _
  rw [hpass]
  rfl

theorem skipStart_opening (bracket : Bracket) (rest : Text) :
    skipStart (bracket.opening :: rest) = .ok (.opens bracket, rest) := by
  cases bracket <;> rfl

/-- A value begins with a character that is not blank and closes no bracket. -/
theorem Derives.head (h : Derives .value text) :
    ∃ c rest, text = c :: rest ∧ isBlank c = false ∧ ∀ bracket : Bracket, c ≠ bracket.closing := by
  have hvisible : ∀ c ∈ "ntf-0123456789\"[\x7b".toList,
      isBlank c = false ∧ c ≠ Bracket.list.closing ∧ c ≠ Bracket.object.closing :=
    forall_mem_of_all (by decide)
  suffices hfirst : ∃ c rest, text = c :: rest ∧ c ∈ "ntf-0123456789\"[\x7b".toList by
    obtain ⟨c, rest, htext, hc⟩ := hfirst
    obtain ⟨hblank, hlist, hobject⟩ := hvisible c hc
    exact ⟨c, rest, htext, hblank, Bracket.rec hlist hobject⟩
  cases h with
  | word h =>
    have hwords : text = "null".toList ∨ text = "true".toList ∨ text = "false".toList := by
      simpa using h
    rcases hwords with rfl | rfl | rfl <;> exact ⟨_, _, rfl, by decide⟩
  | number h =>
    cases h with
    | mk hsign hinteger =>
      obtain ⟨d, digits, rfl, hd⟩ := hinteger.cons
      rcases List.mem_cons.mp hsign with rfl | hminus
      · exact ⟨d, _, rfl, List.mem_append_left "\"[\x7b".toList
          (List.mem_append_right "ntf-".toList hd)⟩
      · rw [List.mem_singleton.mp hminus]
        exact ⟨'-', _, rfl, by decide⟩
  | string => exact ⟨'"', _, rfl, by decide⟩
  | empty bracket | @enclosed bracket =>
    exact ⟨bracket.opening, _, rfl, by cases bracket <;> decide⟩

/-! ### Steps -/

section

variable {bracket : Bracket} {outer : List Bracket} {after : Text}

theorem skipFrom_value (outer : List Bracket) (text : Text) :
    skipFrom .value outer text =
      match skipStart (skipBlanks text) with
      | .error fault => .error fault
      | .ok (.opens bracket, rest) => skipFrom (.opened bracket) outer rest
      | .ok (.scalar, rest) => skipFrom .ended outer rest := by
  rw [skipFrom]
  split <;> next heq => rw [heq]

theorem skipFrom_value_skipBlanks (outer : List Bracket) (text : Text) :
    skipFrom .value outer (skipBlanks text) = skipFrom .value outer text := by
  rw [skipFrom_value, skipFrom_value, skipBlanks_skipBlanks]

theorem skipFrom_value_white (h : IsWhite white) (outer : List Bracket) (text : Text) :
    skipFrom .value outer (white ++ text) = skipFrom .value outer text := by
  rw [skipFrom_value, skipFrom_value, skipBlanks_white h]

/-- A value that holds no other. -/
theorem skipFrom_scalar (h : skipStart text = .ok (.scalar, rest))
    (hvisible : skipBlanks text = text) :
    skipFrom .value outer text = skipFrom .ended outer rest := by
  rw [skipFrom_value, hvisible, h]

theorem skipFrom_opening (bracket : Bracket) (outer : List Bracket) (rest : Text) :
    skipFrom .value outer (bracket.opening :: rest) = skipFrom (.opened bracket) outer rest := by
  have hvisible : isBlank bracket.opening = false := by cases bracket <;> rfl
  rw [skipFrom_value, skipBlanks_of_visible hvisible, skipStart_opening]

theorem skipFrom_opened (bracket : Bracket) (outer : List Bracket) (text : Text) :
    skipFrom (.opened bracket) outer text =
      match skipBlanks text with
      | [] => .error (.peeked bracket.endProblem [])
      | c :: rest =>
        if c = bracket.closing then skipFrom .ended outer rest
        else
          match skipKey bracket (c :: rest) with
          | .error fault => .error fault
          | .ok rest => skipFrom .value (bracket :: outer) rest := by
  conv_lhs => rw [skipFrom]
  split
  · next heq => rw [heq]
  · next heq =>
    rw [heq]
    refine ite_congr rfl (fun _ ↦ rfl) fun _ ↦ ?_
    split <;> next hkey => rw [hkey]

theorem skipFrom_ended (bracket : Bracket) (outer : List Bracket) (text : Text) :
    skipFrom .ended (bracket :: outer) text =
      match skipBlanks text with
      | [] => .error (.peeked bracket.endProblem [])
      | c :: rest =>
        if c = ',' then
          match skipKey bracket rest with
          | .error fault => .error fault
          | .ok rest => skipFrom .value (bracket :: outer) rest
        else if c = bracket.closing then skipFrom .ended outer rest
        else .error (.peeked bracket.separatorProblem (c :: rest)) := by
  conv_lhs => rw [skipFrom]
  split
  · next heq => rw [heq]
  · next heq =>
    rw [heq]
    refine ite_congr rfl (fun _ ↦ ?_) fun _ ↦ rfl
    split <;> next hkey => rw [hkey]

theorem skipFrom_empty (h : skipBlanks text = bracket.closing :: rest) :
    skipFrom (.opened bracket) outer text = skipFrom .ended outer rest := by
  simp only [skipFrom_opened, h, ↓reduceIte]

theorem skipFrom_first (h : skipBlanks text = c :: rest) (hc : c ≠ bracket.closing)
    (hkey : skipKey bracket (c :: rest) = .ok after) :
    skipFrom (.opened bracket) outer text = skipFrom .value (bracket :: outer) after := by
  simp only [skipFrom_opened, h, hc, ↓reduceIte, hkey]

theorem skipFrom_comma (h : skipBlanks text = ',' :: rest)
    (hkey : skipKey bracket rest = .ok after) :
    skipFrom .ended (bracket :: outer) text = skipFrom .value (bracket :: outer) after := by
  simp only [skipFrom_ended, h, ↓reduceIte, hkey]

theorem skipFrom_closing (h : skipBlanks text = bracket.closing :: rest) :
    skipFrom .ended (bracket :: outer) text = skipFrom .ended outer rest := by
  have hcomma : bracket.closing ≠ ',' := by cases bracket <;> decide
  simp only [skipFrom_ended, h, hcomma, ↓reduceIte]

theorem skipFrom_nothing_open (text : Text) : skipFrom .ended [] text = .ok text := by
  rw [skipFrom]

end

/-! ### Items -/

section

variable {bracket : Bracket} {outer : List Bracket} {label before value items after : Text}

theorem skipColon_white (h : IsWhite white) (rest : Text) :
    skipColon (white ++ ':' :: rest) = .ok rest := by
  simp only [skipColon, skipBlanks_white_cons h (show isBlank ':' = false from rfl)]

theorem skipKey_label (h : IsLabel bracket label) (rest : Text) :
    skipKey bracket (label ++ rest) = .ok rest := by
  cases h with
  | list => rfl
  | @object before body after hbefore hbody hafter =>
    have htext : before ++ '"' :: body ++ '"' :: after ++ [':'] ++ rest =
        before ++ '"' :: (body ++ '"' :: (after ++ ':' :: rest)) := by
      simp
    have hquote : skipBlanks (before ++ '"' :: (body ++ '"' :: (after ++ ':' :: rest))) = _ :=
      skipBlanks_white_cons hbefore rfl _
    rw [htext]
    simp only [skipKey, hquote]
    rw [skipString_body hbody]
    exact skipColon_white hafter rest

/-- Blanks in front of an item make no difference. -/
theorem skipKey_skipBlanks (h : skipKey bracket text = .ok after) :
    ∃ left, skipKey bracket (skipBlanks text) = .ok left ∧
      ∀ outer, skipFrom .value outer left = skipFrom .value outer after := by
  cases bracket with
  | list =>
    cases h
    exact ⟨skipBlanks text, rfl, fun outer ↦ skipFrom_value_skipBlanks outer text⟩
  | object =>
    refine ⟨after, ?_, fun _ ↦ rfl⟩
    simp only [skipKey, skipBlanks_skipBlanks] at h ⊢
    exact h

theorem skipBlanks_item (hlabel : IsLabel bracket label) (hbefore : IsWhite before)
    (hvalue : Derives .value value) (rest : Text) :
    ∃ c left, skipBlanks (label ++ (before ++ (value ++ rest))) = c :: left ∧
      c ≠ bracket.closing := by
  cases hlabel with
  | list =>
    obtain ⟨c, inner, rfl, hblank, hclosing⟩ := hvalue.head
    exact ⟨c, _, skipBlanks_white_cons hbefore hblank _, hclosing .list⟩
  | @object front body back hwhite =>
    have hquote := skipBlanks_white_cons hwhite (show isBlank '"' = false from rfl)
      (body ++ '"' :: (back ++ ':' :: (before ++ (value ++ rest))))
    refine ⟨'"', _, Eq.trans ?_ hquote, by decide⟩
    simp

theorem Derives.skipBlanks_items (h : Derives (.items bracket) items) (rest : Text) :
    ∃ c left, skipBlanks (items ++ rest) = c :: left ∧ c ≠ bracket.closing := by
  cases h with
  | last hlabel hbefore hvalue | more hlabel hbefore hvalue =>
    simp only [List.append_assoc]
    exact skipBlanks_item hlabel hbefore hvalue _

/-- An item up to the comma or the bracket after it. -/
theorem skipFrom_item (hbefore : IsWhite before)
    (hvalue : ∀ outer rest, Stops rest →
      skipFrom .value outer (value ++ rest) = skipFrom .ended outer rest)
    (hafter : IsWhite after) (hc : c ∈ [',', ']', '\x7d']) (rest : Text) :
    skipFrom .value outer (before ++ (value ++ (after ++ c :: rest))) =
      skipFrom .ended outer (after ++ c :: rest) := by
  rw [skipFrom_value_white hbefore, hvalue outer _ (stops_of_white hafter hc rest)]

end

/-- That a part is passed over: a value whatever is open, and items as far as the bracket that
closes them. -/
def PassedOver : Part → Text → Prop
  | .value, text => ∀ outer rest, Stops rest →
    skipFrom .value outer (text ++ rest) = skipFrom .ended outer rest
  | .items bracket, text => ∀ outer rest, ∃ after,
    skipKey bracket (text ++ bracket.closing :: rest) = .ok after ∧
      skipFrom .value (bracket :: outer) after = skipFrom .ended outer rest

theorem closing_mem (bracket : Bracket) : bracket.closing ∈ [',', ']', '\x7d'] := by
  cases bracket <;> decide

theorem isBlank_closing (bracket : Bracket) : isBlank bracket.closing = false := by
  cases bracket <;> rfl

theorem passedOver_scalar (hvalue : Derives .value text)
    (h : ∀ rest, Stops rest → skipStart (text ++ rest) = .ok (.scalar, rest)) :
    PassedOver .value text := by
  intro outer rest hrest
  obtain ⟨c, inner, rfl, hblank, -⟩ := hvalue.head
  exact skipFrom_scalar (h rest hrest) (skipBlanks_of_visible hblank _)

theorem Derives.passedOver {part : Part} (h : Derives part text) : PassedOver part text := by
  induction h with
  | word hword => exact passedOver_scalar (.word hword) fun rest _ ↦ skipStart_of_word hword rest
  | number hnumber =>
    exact passedOver_scalar (.number hnumber) fun _ hrest ↦ skipStart_of_isNumber hnumber hrest
  | string hbody =>
    exact passedOver_scalar (.string hbody) fun rest _ ↦ skipStart_of_string hbody rest
  | empty bracket hwhite =>
    intro outer rest _
    rw [List.cons_append, List.cons_append, List.append_assoc, skipFrom_opening]
    exact skipFrom_empty (skipBlanks_white_cons hwhite (isBlank_closing bracket) rest)
  | @enclosed bracket items hitems ih =>
    intro outer rest _
    obtain ⟨after, hkey, hpassed⟩ := ih outer rest
    obtain ⟨c, left, hfirst, hclosing⟩ := hitems.skipBlanks_items (bracket.closing :: rest)
    obtain ⟨start, hstart, hsame⟩ := skipKey_skipBlanks hkey
    rw [hfirst] at hstart
    rw [List.cons_append, List.cons_append, List.append_assoc, skipFrom_opening,
      List.singleton_append, skipFrom_first hfirst hclosing hstart, hsame, hpassed]
  | @last bracket label before value after hlabel hbefore _ hafter ih =>
    intro outer rest
    refine ⟨_, by simpa only [List.append_assoc] using skipKey_label hlabel _, ?_⟩
    rw [skipFrom_item hbefore ih hafter (closing_mem bracket),
      skipFrom_closing (skipBlanks_white_cons hafter (isBlank_closing bracket) rest)]
  | @more bracket label before value after others hlabel hbefore _ hafter _ ih ihothers =>
    intro outer rest
    obtain ⟨next, hkey, hpassed⟩ := ihothers outer rest
    refine ⟨_, by
      simpa only [List.append_assoc, List.cons_append] using skipKey_label hlabel _, ?_⟩
    rw [skipFrom_item hbefore ih hafter (by decide),
      skipFrom_comma (skipBlanks_white_cons hafter rfl _) hkey, hpassed]

/-- A value of any kind and depth is passed over, and nothing of what follows it. -/
theorem skipValue_isValue {value : Text} (hvalue : IsValue value) (hwhite : IsWhite white)
    (hrest : Stops rest) : skipValue (white ++ (value ++ rest)) = .ok rest := by
  rw [skipValue, skipFrom_value_white hwhite, hvalue.passedOver [] rest hrest,
    skipFrom_nothing_open]

end ScriptEmbed.Json
