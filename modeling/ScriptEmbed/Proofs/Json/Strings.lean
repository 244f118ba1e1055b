import Mathlib.Tactic.ByContra
import ScriptEmbed.Proofs.Json.Grammar
import ScriptEmbed.Proofs.Octets.Encoding

/-!
Reading strings. Each way to write a character is read back as that character (`stringFrom_char`):
the code unit of a character is no surrogate (`escape_unit`), and the two units of a character
beyond the basic plane are a leading and a trailing one that make it up (`escape_pair`). A spelling
up to its closing quote is therefore read as what it spells (`stringFrom_spells`), and a body of any
string is passed over (`skipString_body`), both by induction on the pieces.
-/

set_option autoImplicit false
set_option relaxedAutoImplicit false

namespace ScriptEmbed.Json

variable {c : Char} {text body digits rest value : Text} {n : Nat}

/-! ### Code units -/

theorem hexValue?_of_mem {i : Nat} (h : (c, i) ∈ hexDigits) : hexValue? c = some i := by
  have hall : ∀ digit ∈ hexDigits, hexValue? digit.1 = some digit.2 := by decide
  exact hall (c, i) h

theorem IsCodeUnit.length_eq (h : IsCodeUnit digits n) : digits.length = 4 := by
  cases h
  rfl

theorem length_le_ofText (text : Text) : text.length ≤ (Octets.ofText text).length := by
  induction text with
  | nil => exact Nat.le_refl 0
  | cons c text ih =>
    have hone : 1 ≤ (Octets.encodeChar c).length := by
      simp only [Octets.encodeChar]
      split <;> [skip; split <;> [skip; split]] <;> simp
    rw [Octets.ofText_cons, List.length_append, List.length_cons]
    omega

theorem IsCodeUnit.hexDigits?_eq (h : IsCodeUnit digits n) : hexDigits? digits = some n := by
  cases h with
  | digits hdigits =>
    simp only [List.cons_subset] at hdigits
    obtain ⟨ha, hb, hc, hd, -⟩ := hdigits
    simp only [hexDigits?, List.foldlM_cons, List.foldlM_nil, hexValue?_of_mem ha,
      hexValue?_of_mem hb, hexValue?_of_mem hc, hexValue?_of_mem hd, Option.map_some,
      Option.bind_eq_bind, Option.bind_some, Option.pure_def]
    congr 1
    omega

theorem hexFour_of_isCodeUnit (h : IsCodeUnit digits n) (rest : Text) :
    hexFour (digits ++ rest) = .ok (n, rest) := by
  have htake : (digits ++ rest).take 4 = digits := by
    rw [← h.length_eq, List.take_left]
  have hdrop : (digits ++ rest).drop 4 = rest := by
    rw [← h.length_eq, List.drop_left]
  have hlong : ¬ (Octets.ofText digits).length < 4 := by
    have hlength := length_le_ofText digits
    rw [h.length_eq] at hlength
    omega
  simp only [hexFour, htake, hdrop, hlong, ↓reduceIte, h.hexDigits?_eq]

/-! ### One character -/

theorem simpleEscape?_of_mem {letter : Char} (h : (letter, c) ∈ escapes) :
    simpleEscape? letter = some c := by
  have hall : ∀ pair ∈ escapes, simpleEscape? pair.1 = some pair.2 := by decide
  exact hall (letter, c) h

theorem simpleEscape?_u : simpleEscape? 'u' = none := rfl

theorem escape_letter {letter : Char} (h : (letter, c) ∈ escapes) (rest : Text) :
    escape (letter :: rest) = .ok (c, rest) := by
  simp only [escape, simpleEscape?_of_mem h]

theorem escape_unit (h : IsCodeUnit digits c.toNat) (rest : Text) :
    escape ('u' :: digits ++ rest) = .ok (c, rest) := by
  have htrailing : isTrailingSurrogate c.toNat = false := by
    simp only [isTrailingSurrogate, Bool.and_eq_false_iff, decide_eq_false_iff_not]
    rcases Octets.isValidChar_toNat c with hbefore | ⟨hafter, -⟩ <;> omega
  have hleading : isLeadingSurrogate c.toNat = false := by
    simp only [isLeadingSurrogate, Bool.and_eq_false_iff, decide_eq_false_iff_not]
    rcases Octets.isValidChar_toNat c with hbefore | ⟨hafter, -⟩ <;> omega
  simp [escape, simpleEscape?_u, unicodeEscape, hexFour_of_isCodeUnit h, htrailing, hleading,
    Char.ofNat_toNat]

/-- The two units of a character beyond the basic plane. -/
theorem escape_pair {leading trailing : Text} (hbeyond : 0x10000 ≤ c.toNat)
    (hleading : IsCodeUnit leading (0xD800 + (c.toNat - 0x10000) / 0x400))
    (htrailing : IsCodeUnit trailing (0xDC00 + (c.toNat - 0x10000) % 0x400)) (rest : Text) :
    escape ('u' :: leading ++ '\\' :: 'u' :: trailing ++ rest) = .ok (c, rest) := by
  have hrange := Octets.toNat_lt c
  have hnotTrailing :
      isTrailingSurrogate (0xD800 + (c.toNat - 0x10000) / 0x400) = false := by
    simp only [isTrailingSurrogate, Bool.and_eq_false_iff, decide_eq_false_iff_not]
    omega
  have hfirst : isLeadingSurrogate (0xD800 + (c.toNat - 0x10000) / 0x400) = true := by
    simp only [isLeadingSurrogate, Bool.and_eq_true, decide_eq_true_eq]
    omega
  have hsecond : isTrailingSurrogate (0xDC00 + (c.toNat - 0x10000) % 0x400) = true := by
    simp only [isTrailingSurrogate, Bool.and_eq_true, decide_eq_true_eq]
    omega
  have hmade : ofSurrogates (0xD800 + (c.toNat - 0x10000) / 0x400)
      (0xDC00 + (c.toNat - 0x10000) % 0x400) = c := by
    have hvalue : (0xD800 + (c.toNat - 0x10000) / 0x400 - 0xD800) * 1024 +
        (0xDC00 + (c.toNat - 0x10000) % 0x400 - 0xDC00) + 0x10000 = c.toNat := by
      omega
    rw [ofSurrogates, hvalue, Char.ofNat_toNat]
  have hunits : 'u' :: leading ++ '\\' :: 'u' :: trailing ++ rest =
      'u' :: (leading ++ '\\' :: 'u' :: (trailing ++ rest)) := by
    simp
  rw [hunits]
  simp [escape, simpleEscape?_u, unicodeEscape, hexFour_of_isCodeUnit hleading, hnotTrailing, hfirst,
    trailingEscape, hexFour_of_isCodeUnit htrailing, hsecond, hmade]

/-! ### A string that is read -/

theorem stringFrom_quote (read rest : Text) :
    stringFrom read ('"' :: rest) = .ok (read.reverse, rest) := by
  rw [stringFrom, if_pos rfl]

theorem stringFrom_plain (h : IsPlain c) (read rest : Text) :
    stringFrom read (c :: rest) = stringFrom (c :: read) rest := by
  obtain ⟨hvisible, hquote, hbackslash⟩ := h
  rw [stringFrom, if_neg hquote, if_neg hbackslash, if_neg (Nat.not_lt.mpr hvisible)]

theorem stringFrom_escape (h : escape text = .ok (c, rest)) (read : Text) :
    stringFrom read ('\\' :: text) = stringFrom (c :: read) rest := by
  rw [stringFrom, if_neg (by decide), if_pos rfl]
  split
  · next heq =>
    rw [h] at heq
    cases heq
  · next heq =>
    rw [h] at heq
    cases heq
    rfl

theorem stringFrom_char (h : SpellsChar c body) (read rest : Text) :
    stringFrom read (body ++ rest) = stringFrom (c :: read) rest := by
  cases h with
  | plain hplain => exact stringFrom_plain hplain read rest
  | escaped hletter => exact stringFrom_escape (escape_letter hletter rest) read
  | unit hunit => exact stringFrom_escape (escape_unit hunit rest) read
  | pair hbeyond hleading htrailing =>
    exact stringFrom_escape (escape_pair hbeyond hleading htrailing rest) read

theorem stringFrom_spells (h : Spells value body) (read rest : Text) :
    stringFrom read (body ++ '"' :: rest) = .ok (read.reverse ++ value, rest) := by
  induction h generalizing read with
  | nil => rw [List.nil_append, stringFrom_quote, List.append_nil]
  | cons hfirst _ ih =>
    rw [List.append_assoc, stringFrom_char hfirst, ih, List.reverse_cons, List.append_assoc,
      List.singleton_append]

/-- A written string, from its opening quote on, is read as its value. -/
theorem string_spells (h : Spells value body) (rest : Text) :
    string (body ++ '"' :: rest) = .ok (value, rest) :=
  stringFrom_spells h [] rest

/-! ### A string that is passed over -/

theorem skipString_quote (rest : Text) : skipString ('"' :: rest) = .ok rest := by
  rw [skipString, if_pos rfl]

theorem skipString_plain (h : IsPlain c) (rest : Text) :
    skipString (c :: rest) = skipString rest := by
  obtain ⟨hvisible, hquote, hbackslash⟩ := h
  rw [skipString, if_neg hquote, if_neg hbackslash, if_neg (Nat.not_lt.mpr hvisible)]

theorem skipString_escape (h : skipEscape text = .ok rest) :
    skipString ('\\' :: text) = skipString rest := by
  rw [skipString, if_neg (by decide), if_pos rfl]
  split
  · next heq =>
    rw [h] at heq
    cases heq
  · next heq =>
    rw [h] at heq
    cases heq
    rfl

theorem skipEscape_letter {letter : Char} (h : (letter, c) ∈ escapes) (rest : Text) :
    skipEscape (letter :: rest) = .ok rest := by
  simp only [skipEscape, simpleEscape?_of_mem h]

theorem skipEscape_unit (h : IsCodeUnit digits n) (rest : Text) :
    skipEscape ('u' :: digits ++ rest) = .ok rest := by
  simp [skipEscape, simpleEscape?_u, hexFour_of_isCodeUnit h, Except.map]

theorem skipString_body (h : IsStringBody body) (rest : Text) :
    skipString (body ++ '"' :: rest) = .ok rest := by
  induction h with
  | nil => exact skipString_quote rest
  | plain hplain _ ih => rw [List.cons_append, skipString_plain hplain, ih]
  | escaped hletter _ ih =>
    rw [List.cons_append, List.cons_append, skipString_escape (skipEscape_letter hletter _), ih]
  | unit hunit _ ih =>
    rw [List.append_assoc, List.cons_append, skipString_escape (skipEscape_unit hunit _), ih]

end ScriptEmbed.Json
