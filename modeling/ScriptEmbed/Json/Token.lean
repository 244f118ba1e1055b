import ScriptEmbed.Json.Fault

/-!
The parts of a JSON text that hold no other values: blanks, the words `null`, `true` and `false`,
strings and numbers. Each reader takes the text from where it is and gives what follows; a string
or a number may be read for its value or only passed over, and passing over accepts more.
-/

set_option autoImplicit false
set_option relaxedAutoImplicit false

namespace ScriptEmbed.Json

/-- Reading a value off the front of a text, with what follows it. -/
abbrev Reading (α : Type) := Except Fault (α × Text)

/-- The reading with its value changed. -/
def mapValue {α β : Type} (f : α → β) : Reading α → Reading β
  | .error fault => .error fault
  | .ok (value, rest) => .ok (f value, rest)

theorem mapValue_eq_ok {α β : Type} {f : α → β} {reading : Reading α} {result : β} {rest : Text}
    (h : mapValue f reading = .ok (result, rest)) :
    ∃ value, reading = .ok (value, rest) ∧ f value = result := by
  unfold mapValue at h
  split at h
  · cases h
  · cases h; exact ⟨_, rfl, rfl⟩

/-- The four characters that count as blank between tokens. -/
def isBlank (c : Char) : Bool := c == ' ' || c == '\n' || c == '\t' || c == '\r'

def skipBlanks (text : Text) : Text := text.dropWhile isBlank

def isDigit (c : Char) : Bool := '0' ≤ c && c ≤ '9'

def skipDigits (text : Text) : Text := text.dropWhile isDigit

def startsWithDigit (text : Text) : Bool := text.head?.any isDigit

def digitValue (c : Char) : Nat := c.toNat - '0'.toNat

/-- What follows the letters of a word. -/
def word : Text → Text → Except Fault Text
  | [], text => .ok text
  | _ :: _, [] => .error (.peeked .endInValue [])
  | letter :: letters, c :: text =>
    if c = letter then word letters text else .error (.peeked .identExpected (c :: text))

/-! ### Strings -/

def hexValue? (c : Char) : Option Nat :=
  if '0' ≤ c ∧ c ≤ '9' then some (c.toNat - '0'.toNat)
  else if 'a' ≤ c ∧ c ≤ 'f' then some (c.toNat - 'a'.toNat + 10)
  else if 'A' ≤ c ∧ c ≤ 'F' then some (c.toNat - 'A'.toNat + 10)
  else none

/-- The value of a text of hexadecimal digits. -/
def hexDigits? (digits : Text) : Option Nat :=
  digits.foldlM (fun value c ↦ (hexValue? c).map (16 * value + ·)) 0

/-- Four hexadecimal digits. Fewer than four octets are the end of the string; four octets that
are not all digits are passed before they are refused. -/
def hexFour (text : Text) : Reading Nat :=
  if (Octets.ofText (text.take 4)).length < 4 then .error ⟨.endInString, [], 0⟩
  else
    match hexDigits? (text.take 4) with
    | some value => .ok (value, text.drop 4)
    | none => .error ⟨.invalidEscape, text, 4⟩

def isLeadingSurrogate (unit : Nat) : Bool := 0xD800 ≤ unit && unit ≤ 0xDBFF

def isTrailingSurrogate (unit : Nat) : Bool := 0xDC00 ≤ unit && unit ≤ 0xDFFF

/-- The character of a surrogate pair. -/
def ofSurrogates (leading trailing : Nat) : Char :=
  Char.ofNat ((leading - 0xD800) * 1024 + (trailing - 0xDC00) + 0x10000)

/-- The escape of the second half of a pair whose first half has been read. -/
def trailingEscape (leading : Nat) : Text → Reading Char
  | [] => .error ⟨.endInString, [], 0⟩
  | '\\' :: [] => .error ⟨.endInString, [], 0⟩
  | '\\' :: 'u' :: text =>
    match hexFour text with
    | .error fault => .error fault
    | .ok (trailing, rest) =>
      if isTrailingSurrogate trailing then .ok (ofSurrogates leading trailing, rest)
      else .error ⟨.loneSurrogate, rest, 0⟩
  | '\\' :: rest => .error (.peeked .unfinishedSurrogatePair rest)
  | rest => .error (.peeked .unfinishedSurrogatePair rest)

/-- An escape by code unit; a character outside the basic plane takes two. -/
def unicodeEscape (text : Text) : Reading Char :=
  match hexFour text with
  | .error fault => .error fault
  | .ok (unit, rest) =>
    if isTrailingSurrogate unit then .error ⟨.loneSurrogate, rest, 0⟩
    else if isLeadingSurrogate unit then trailingEscape unit rest
    else .ok (Char.ofNat unit, rest)

/-- The character that a letter after a backslash stands for. -/
def simpleEscape? : Char → Option Char
  | '"' => some '"'
  | '\\' => some '\\'
  | '/' => some '/'
  | 'b' => some '\x08'
  | 'f' => some '\x0c'
  | 'n' => some '\n'
  | 'r' => some '\r'
  | 't' => some '\t'
  | _ => none

/-- What follows a backslash. -/
def escape : Text → Reading Char
  | [] => .error ⟨.endInString, [], 0⟩
  | c :: text =>
    match simpleEscape? c with
    | some value => .ok (value, text)
    | none =>
      if c = 'u' then unicodeEscape text else .error (.peeked .invalidEscape (c :: text))

/-- As `escape`, but code units are not looked at. -/
def skipEscape : Text → Except Fault Text
  | [] => .error ⟨.endInString, [], 0⟩
  | c :: text =>
    match simpleEscape? c with
    | some _ => .ok text
    | none =>
      if c = 'u' then (hexFour text).map (·.2)
      else .error (.peeked .invalidEscape (c :: text))

theorem hexFour_length {text rest : Text} {value : Nat} (h : hexFour text = .ok (value, rest)) :
    rest.length ≤ text.length := by
  simp only [hexFour] at h
  split at h
  · cases h
  · split at h
    · cases h; simp
    · cases h

theorem trailingEscape_length {leading : Nat} {text rest : Text} {c : Char}
    (h : trailingEscape leading text = .ok (c, rest)) : rest.length ≤ text.length := by
  unfold trailingEscape at h
  split at h
  · cases h
  · cases h
  · split at h
    · cases h
    · next hhex =>
      have hlen := hexFour_length hhex
      split at h
      · simp only [Except.ok.injEq, Prod.mk.injEq] at h
        exact h.2 ▸ Nat.le_add_right_of_le (Nat.le_add_right_of_le hlen)
      · cases h
  · cases h
  · cases h

theorem unicodeEscape_length {text rest : Text} {c : Char}
    (h : unicodeEscape text = .ok (c, rest)) : rest.length ≤ text.length := by
  unfold unicodeEscape at h
  split at h
  · cases h
  · next hhex =>
    have hlen := hexFour_length hhex
    split at h
    · cases h
    · split at h
      · exact Nat.le_trans (trailingEscape_length h) hlen
      · cases h; exact hlen

theorem escape_length {text rest : Text} {c : Char} (h : escape text = .ok (c, rest)) :
    rest.length < text.length := by
  unfold escape at h
  split at h
  · cases h
  · split at h
    · cases h; simp
    · split at h
      · have := unicodeEscape_length h
        simp; omega
      · cases h

theorem skipEscape_length {text rest : Text} (h : skipEscape text = .ok rest) :
    rest.length < text.length := by
  unfold skipEscape at h
  split at h
  · cases h
  · split at h
    · cases h; simp
    · split at h
      · next inner _ _ _ =>
        cases hhex : hexFour inner with
        | error e => simp [hhex, Except.map] at h
        | ok pair =>
          have := hexFour_length hhex
          simp only [hhex, Except.map] at h
          cases h; simp; omega
      · cases h

/-- The characters up to the closing quote, after those already read, which come in reverse. A
control character is passed before it is refused. -/
def stringFrom (read : Text) : Text → Reading Text
  | [] => .error ⟨.endInString, [], 0⟩
  | c :: text =>
    if c = '"' then .ok (read.reverse, text)
    else if c = '\\' then
      match _ : escape text with
      | .error fault => .error fault
      | .ok (value, rest) => stringFrom (value :: read) rest
    else if c.toNat < 0x20 then .error (.peeked .controlCharacter (c :: text))
    else stringFrom (c :: read) text
termination_by text => text.length
decreasing_by
  · next hread => exact Nat.lt_succ_of_lt (escape_length hread)
  · exact Nat.lt_succ_self _

/-- A string whose opening quote has been read. -/
def string (text : Text) : Reading Text := stringFrom [] text

/-- Passes over a string whose opening quote has been read. A control character is refused before
it is passed. -/
def skipString : Text → Except Fault Text
  | [] => .error ⟨.endInString, [], 0⟩
  | c :: text =>
    if c = '"' then .ok text
    else if c = '\\' then
      match _ : skipEscape text with
      | .error fault => .error fault
      | .ok rest => skipString rest
    else if c.toNat < 0x20 then .error ⟨.controlCharacter, c :: text, 0⟩
    else skipString text
termination_by text => text.length
decreasing_by
  · next hread => exact Nat.lt_succ_of_lt (skipEscape_length hread)
  · exact Nat.lt_succ_self _

theorem stringFrom_length {read text value rest : Text}
    (h : stringFrom read text = .ok (value, rest)) : rest.length < text.length := by
  fun_induction stringFrom read text with
  | case1 => cases h
  | case2 => cases h; exact Nat.lt_succ_self _
  | case3 => cases h
  | case4 _ _ _ _ hread _ ih =>
    exact Nat.lt_succ_of_lt (Nat.lt_trans (ih h) (escape_length hread))
  | case5 => cases h
  | case6 _ _ _ _ _ _ ih => exact Nat.lt_succ_of_lt (ih h)

theorem skipString_length {text rest : Text} (h : skipString text = .ok rest) :
    rest.length < text.length := by
  fun_induction skipString text with
  | case1 => cases h
  | case2 => cases h; exact Nat.lt_succ_self _
  | case3 => cases h
  | case4 _ _ hread _ ih =>
    exact Nat.lt_succ_of_lt (Nat.lt_trans (ih h) (skipEscape_length hread))
  | case5 => cases h
  | case6 _ _ _ _ _ ih => exact Nat.lt_succ_of_lt (ih h)

end ScriptEmbed.Json
