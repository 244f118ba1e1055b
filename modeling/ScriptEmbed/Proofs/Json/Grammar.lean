import ScriptEmbed.Json.Skip

/-!
The grammar of JSON texts. A character of a string may be written as it is, by a letter after a
backslash, or by its code unit in hexadecimal, of which a character beyond the basic plane has two;
`Spells` says which characters a spelling stands for. `IsStringBody` is what may stand between two
quotes at all, code units that are no character's included. Values of any depth come from one family
of derivations (`Derives`): a list or an object holds items, and what an item begins with, nothing
or a key and a colon, is all that tells the two apart. An object whose members are known is written
member by member (`WrittenObject`).
-/

set_option autoImplicit false
set_option relaxedAutoImplicit false

namespace ScriptEmbed.Json

/-- Something is so for each character of a text if going through the text says so. -/
theorem forall_mem_of_all {P : Char → Prop} [DecidablePred P] {text : Text}
    (h : text.all (P ·) = true) : ∀ c ∈ text, P c :=
  fun c hc ↦ of_decide_eq_true (List.all_eq_true.mp h c hc)

/-- Blanks between tokens, or none. -/
def IsWhite (text : Text) : Prop := ∀ c ∈ text, c ∈ [' ', '\t', '\n', '\r']

/-! ### Strings -/

/-- The hexadecimal digits, in either case, with their values. -/
def hexDigits : List (Char × Nat) :=
  "0123456789abcdef".toList.zipIdx ++ "0123456789ABCDEF".toList.zipIdx

/-- Four hexadecimal digits and their value. -/
inductive IsCodeUnit : Text → Nat → Prop
  | digits {a b c d : Char} {i j k l : Nat} (h : [(a, i), (b, j), (c, k), (d, l)] ⊆ hexDigits) :
      IsCodeUnit [a, b, c, d] (4096 * i + 256 * j + 16 * k + l)

/-- The letters that may follow a backslash, with what they stand for. -/
def escapes : List (Char × Char) :=
  [('"', '"'), ('\\', '\\'), ('/', '/'), ('b', '\x08'), ('f', '\x0c'), ('n', '\n'), ('r', '\r'),
    ('t', '\t')]

/-- A character that may stand for itself. -/
def IsPlain (c : Char) : Prop := 0x20 ≤ c.toNat ∧ c ≠ '"' ∧ c ≠ '\\'

instance : DecidablePred IsPlain := fun c ↦
  inferInstanceAs (Decidable (0x20 ≤ c.toNat ∧ c ≠ '"' ∧ c ≠ '\\'))

/-- The ways to write one character of a string. -/
inductive SpellsChar : Char → Text → Prop
  | plain {c : Char} (h : IsPlain c) : SpellsChar c [c]
  | escaped {letter c : Char} (h : (letter, c) ∈ escapes) : SpellsChar c ['\\', letter]
  | unit {c : Char} {digits : Text} (h : IsCodeUnit digits c.toNat) :
      SpellsChar c ('\\' :: 'u' :: digits)
  | pair {c : Char} {leading trailing : Text} (hbeyond : 0x10000 ≤ c.toNat)
      (hleading : IsCodeUnit leading (0xD800 + (c.toNat - 0x10000) / 0x400))
      (htrailing : IsCodeUnit trailing (0xDC00 + (c.toNat - 0x10000) % 0x400)) :
      SpellsChar c ('\\' :: 'u' :: leading ++ '\\' :: 'u' :: trailing)

/-- The ways to write the characters of a string. -/
inductive Spells : Text → Text → Prop
  | nil : Spells [] []
  | cons {c : Char} {value piece text : Text} (hfirst : SpellsChar c piece)
      (hrest : Spells value text) : Spells (c :: value) (piece ++ text)

theorem spells_self {value : Text} (h : value.all (IsPlain ·) = true) : Spells value value := by
  induction value with
  | nil => exact .nil
  | cons c value ih =>
    obtain ⟨hfirst, hrest⟩ := Bool.and_eq_true_iff.mp h
    exact .cons (.plain (of_decide_eq_true hfirst)) (ih hrest)

/-- A string with its quotes, and its value. -/
def WrittenString (value text : Text) : Prop :=
  ∃ body, Spells value body ∧ text = '"' :: body ++ ['"']

/-- What may stand between two quotes: also code units of which no character is made. -/
inductive IsStringBody : Text → Prop
  | nil : IsStringBody []
  | plain {c : Char} {text : Text} (h : IsPlain c) (hrest : IsStringBody text) :
      IsStringBody (c :: text)
  | escaped {letter c : Char} {text : Text} (h : (letter, c) ∈ escapes)
      (hrest : IsStringBody text) : IsStringBody ('\\' :: letter :: text)
  | unit {digits text : Text} {value : Nat} (h : IsCodeUnit digits value)
      (hrest : IsStringBody text) : IsStringBody ('\\' :: 'u' :: digits ++ text)

/-! ### Numbers -/

def IsDigits (text : Text) : Prop := text ≠ [] ∧ ∀ c ∈ text, c ∈ "0123456789".toList

/-- The digits before the point: a zero alone, or digits of which the first is not zero. -/
inductive IsInteger : Text → Prop
  | zero : IsInteger ['0']
  | digits {c : Char} {text : Text} (hc : c ∈ "123456789".toList)
      (htext : ∀ d ∈ text, d ∈ "0123456789".toList) : IsInteger (c :: text)

inductive IsFraction : Text → Prop
  | none : IsFraction []
  | digits {text : Text} (h : IsDigits text) : IsFraction ('.' :: text)

inductive IsExponent : Text → Prop
  | none : IsExponent []
  | digits {c : Char} {sign text : Text} (hc : c = 'e' ∨ c = 'E')
      (hsign : sign ∈ [[], ['+'], ['-']]) (h : IsDigits text) :
      IsExponent (c :: sign ++ text)

inductive IsNumber : Text → Prop
  | mk {sign integer fraction exponent : Text} (hsign : sign ∈ [[], ['-']])
      (hinteger : IsInteger integer) (hfraction : IsFraction fraction)
      (hexponent : IsExponent exponent) : IsNumber (sign ++ integer ++ fraction ++ exponent)

/-! ### Values -/

def Bracket.opening : Bracket → Char
  | .list => '['
  | .object => '\x7b'

/-- What an item of a list or an object begins with. -/
inductive IsLabel : Bracket → Text → Prop
  | list : IsLabel .list []
  | object {before body after : Text} (hbefore : IsWhite before) (hbody : IsStringBody body)
      (hafter : IsWhite after) : IsLabel .object (before ++ '"' :: body ++ '"' :: after ++ [':'])

inductive Part
  | value
  /-- The items inside a bracket, at least one. -/
  | items (bracket : Bracket)

inductive Derives : Part → Text → Prop
  | word {text : Text} (h : text ∈ ["null".toList, "true".toList, "false".toList]) :
      Derives .value text
  | number {text : Text} (h : IsNumber text) : Derives .value text
  | string {body : Text} (h : IsStringBody body) : Derives .value ('"' :: body ++ ['"'])
  | empty {white : Text} (bracket : Bracket) (h : IsWhite white) :
      Derives .value (bracket.opening :: white ++ [bracket.closing])
  | enclosed {bracket : Bracket} {items : Text} (h : Derives (.items bracket) items) :
      Derives .value (bracket.opening :: items ++ [bracket.closing])
  | last {bracket : Bracket} {label before value after : Text} (hlabel : IsLabel bracket label)
      (hbefore : IsWhite before) (hvalue : Derives .value value) (hafter : IsWhite after) :
      Derives (.items bracket) (label ++ before ++ value ++ after)
  | more {bracket : Bracket} {label before value after others : Text}
      (hlabel : IsLabel bracket label) (hbefore : IsWhite before) (hvalue : Derives .value value)
      (hafter : IsWhite after) (hothers : Derives (.items bracket) others) :
      Derives (.items bracket) (label ++ before ++ value ++ after ++ ',' :: others)

/-- A value of any kind and depth, without blanks around it. -/
def IsValue (text : Text) : Prop := Derives .value text

/-! ### Objects with known members -/

/-- A member of an object: a key, a colon and a value, with blanks around each of them. -/
inductive WrittenMember (key value : Text) : Text → Prop
  | mk {before body middle after last : Text} (hbefore : IsWhite before) (hbody : Spells key body)
      (hmiddle : IsWhite middle) (hafter : IsWhite after) (hlast : IsWhite last) :
      WrittenMember key value
        (before ++ '"' :: body ++ '"' :: middle ++ ':' :: after ++ value ++ last)

/-- Items with a comma between each two. -/
inductive Separated {α : Type} (Item : α → Text → Prop) : List α → Text → Prop
  | last {item : α} {text : Text} (h : Item item text) : Separated Item [item] text
  | more {item : α} {items : List α} {text others : Text} (h : Item item text)
      (hothers : Separated Item items others) :
      Separated Item (item :: items) (text ++ ',' :: others)

inductive WrittenObject {α : Type} (Item : α → Text → Prop) : List α → Text → Prop
  | empty {white : Text} (h : IsWhite white) : WrittenObject Item [] ('\x7b' :: white ++ ['\x7d'])
  | members {items : List α} {text : Text} (h : Separated Item items text) :
      WrittenObject Item items ('\x7b' :: text ++ ['\x7d'])

end ScriptEmbed.Json
