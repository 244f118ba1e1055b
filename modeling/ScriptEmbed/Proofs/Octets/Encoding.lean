import ScriptEmbed.Proofs.Octets.Newlines

/-!
Reading back what was encoded. The first octet of a character's encoding says how many follow and
bounds the next one, and the code points that these bounds leave out are those that a shorter
encoding has or that are surrogates (`exists_first_three`, `exists_first_four`). So the encoding of
a character is read as that character (`readOnto_encodeChar`), and by induction a text is read back
from its encoding, lossily (`toTextLossy_ofText`) or strictly (`toText?_ofText`).
-/

set_option autoImplicit false
set_option relaxedAutoImplicit false

namespace ScriptEmbed.Octets

/-! ### One character -/

theorem toNat_toUInt8 {n : Nat} (h : n < 256) : n.toUInt8.toNat = n :=
  UInt8.toNat_ofNat_of_lt' h

theorem isValidChar_toNat (c : Char) : c.toNat.isValidChar := c.valid

theorem toNat_lt (c : Char) : c.toNat < 0x110000 := by
  rcases isValidChar_toNat c with hbefore | ⟨-, hafter⟩ <;> omega

/-- An octet that is due. -/
theorem step_within {value owed low high n : Nat} (hlow : low ≤ n) (hhigh : n ≤ high)
    (hn : n < 256) :
    step (.within value owed low high) n.toUInt8 =
      if owed = 1 then (.start, [some (Char.ofNat (value * 64 + (n - 0x80)))])
      else (.within (value * 64 + (n - 0x80)) (owed - 1) 0x80 0xBF, []) := by
  simp only [step, toNat_toUInt8 hn, if_pos (And.intro hlow hhigh)]

theorem readOnto_last {value low high n : Nat} (hlow : low ≤ n) (hhigh : n ≤ high) (hn : n < 256)
    (rest : Octets) :
    readOnto (.within value 1 low high) [] (n.toUInt8 :: rest) =
      some (Char.ofNat (value * 64 + (n - 0x80))) :: pieces rest := by
  rw [readOnto_cons, step_within hlow hhigh hn]
  rfl

theorem readOnto_within {value owed low high n : Nat} (howed : owed ≠ 1) (hlow : low ≤ n)
    (hhigh : n ≤ high) (hn : n < 256) (rest : Octets) :
    readOnto (.within value owed low high) [] (n.toUInt8 :: rest) =
      readOnto (.within (value * 64 + (n - 0x80)) (owed - 1) 0x80 0xBF) [] rest := by
  rw [readOnto_cons, step_within hlow hhigh hn, if_neg howed]
  rfl

theorem first_two {n : Nat} (hlow : 0x80 ≤ n) (hhigh : n < 0x800) :
    first (0xC0 + n / 64).toUInt8 = (.within (n / 64) 1 0x80 0xBF, []) := by
  have hoctet : (0xC0 + n / 64).toUInt8.toNat = 0xC0 + n / 64 := toNat_toUInt8 (by omega)
  simp only [first, hoctet]
  rw [if_neg (by omega), if_neg (by omega), if_pos (by omega), Nat.add_sub_cancel_left]

theorem exists_first_three {n : Nat} (hlow : 0x800 ≤ n) (hhigh : n < 0x10000)
    (hvalid : n.isValidChar) :
    ∃ low high, first (0xE0 + n / 4096).toUInt8 = (.within (n / 4096) 2 low high, []) ∧
      low ≤ 0x80 + n / 64 % 64 ∧ 0x80 + n / 64 % 64 ≤ high := by
  have hoctet : (0xE0 + n / 4096).toUInt8.toNat = 0xE0 + n / 4096 := toNat_toUInt8 (by omega)
  simp only [first, hoctet]
  rw [if_neg (by omega), if_neg (by omega), if_neg (by omega), Nat.add_sub_cancel_left]
  by_cases hleast : n / 4096 = 0
  · refine ⟨0xA0, 0xBF, ?_, by omega, by omega⟩
    rw [if_pos (by omega), hleast]
  · by_cases hsurrogates : n / 4096 = 0xD
    · have hbefore : n < 0xD800 := by
        rcases hvalid with hbefore | ⟨hafter, -⟩ <;> omega
      refine ⟨0x80, 0x9F, ?_, by omega, by omega⟩
      rw [if_neg (by omega), if_pos (by omega), hsurrogates]
    · refine ⟨0x80, 0xBF, ?_, by omega, by omega⟩
      rw [if_neg (by omega), if_neg (by omega), if_pos (by omega)]

theorem exists_first_four {n : Nat} (hlow : 0x10000 ≤ n) (hhigh : n < 0x110000) :
    ∃ low high, first (0xF0 + n / 262144).toUInt8 = (.within (n / 262144) 3 low high, []) ∧
      low ≤ 0x80 + n / 4096 % 64 ∧ 0x80 + n / 4096 % 64 ≤ high := by
  have hoctet : (0xF0 + n / 262144).toUInt8.toNat = 0xF0 + n / 262144 := toNat_toUInt8 (by omega)
  simp only [first, hoctet]
  rw [if_neg (by omega), if_neg (by omega), if_neg (by omega), if_neg (by omega),
    if_neg (by omega), if_neg (by omega), Nat.add_sub_cancel_left]
  by_cases hleast : n / 262144 = 0
  · refine ⟨0x90, 0xBF, ?_, by omega, by omega⟩
    rw [if_pos (by omega), hleast]
  · by_cases hgreatest : n / 262144 = 4
    · refine ⟨0x80, 0x8F, ?_, by omega, by omega⟩
      rw [if_neg (by omega), if_neg (by omega), if_pos (by omega), hgreatest]
    · refine ⟨0x80, 0xBF, ?_, by omega, by omega⟩
      rw [if_neg (by omega), if_pos (by omega)]

/-- The encoding of a character is read as that character. -/
theorem readOnto_encodeChar (c : Char) (rest : Octets) :
    pieces (encodeChar c ++ rest) = some c :: pieces rest := by
  have hvalid := isValidChar_toNat c
  have hrange := toNat_lt c
  have hchar : ∀ n, n = c.toNat → some (Char.ofNat n) :: pieces rest = some c :: pieces rest := by
    rintro n rfl
    rw [Char.ofNat_toNat]
  simp only [encodeChar]
  by_cases hone : c.toNat < 0x80
  · have hoctet := toNat_toUInt8 (n := c.toNat) (by omega)
    rw [if_pos hone, List.singleton_append, pieces, readOnto_cons, step]
    simp only [first, hoctet, if_pos hone]
    exact hchar _ rfl
  · rw [if_neg hone]
    by_cases htwo : c.toNat < 0x800
    · rw [if_pos htwo, List.cons_append, List.singleton_append, pieces, readOnto_cons, step,
        first_two (by omega) htwo]
      refine (readOnto_last (by omega) (by omega) (by omega) rest).trans (hchar _ ?_)
      omega
    · rw [if_neg htwo]
      by_cases hthree : c.toNat < 0x10000
      · obtain ⟨low, high, hfirst, hlow, hhigh⟩ :=
          exists_first_three (by omega) hthree hvalid
        rw [if_pos hthree, List.cons_append, List.cons_append, List.singleton_append, pieces,
          readOnto_cons, step, hfirst]
        refine (readOnto_within (by decide) hlow hhigh (by omega) _).trans ?_
        refine (readOnto_last (by omega) (by omega) (by omega) rest).trans (hchar _ ?_)
        omega
      · obtain ⟨low, high, hfirst, hlow, hhigh⟩ := exists_first_four (by omega) hrange
        rw [if_neg hthree, List.cons_append, List.cons_append, List.cons_append,
          List.singleton_append, pieces, readOnto_cons, step, hfirst]
        refine (readOnto_within (by decide) hlow hhigh (by omega) _).trans ?_
        refine (readOnto_within (by decide) (by omega) (by omega) (by omega) _).trans ?_
        refine (readOnto_last (by omega) (by omega) (by omega) rest).trans (hchar _ ?_)
        omega

theorem newline_notMem_encodeChar {c : Char} (hc : c ≠ '\n') : newline ∉ encodeChar c := by
  have hother : ∀ n, n < 256 → n ≠ 10 → newline ≠ n.toUInt8 := by
    intro n hn hten heq
    exact hten ((toNat_toUInt8 hn).symm.trans (congrArg UInt8.toNat heq).symm)
  have hten : c.toNat ≠ 10 := fun heq ↦ hc (Char.toNat_inj.mp heq)
  have hrange := toNat_lt c
  simp only [encodeChar]
  split_ifs <;> simp only [List.mem_cons, List.not_mem_nil, or_false, not_or]
  · exact hother _ (by omega) hten
  · exact ⟨hother _ (by omega) (by omega), hother _ (by omega) (by omega)⟩
  · exact ⟨hother _ (by omega) (by omega), hother _ (by omega) (by omega),
      hother _ (by omega) (by omega)⟩
  · exact ⟨hother _ (by omega) (by omega), hother _ (by omega) (by omega),
      hother _ (by omega) (by omega), hother _ (by omega) (by omega)⟩

/-! ### A text -/

@[simp] theorem ofText_nil : ofText [] = [] := rfl

theorem ofText_cons (c : Char) (text : Text) : ofText (c :: text) = encodeChar c ++ ofText text :=
  List.flatMap_cons

theorem ofText_append (front back : Text) : ofText (front ++ back) = ofText front ++ ofText back :=
  List.flatMap_append

theorem pieces_ofText (text : Text) : pieces (ofText text) = text.map some := by
  induction text with
  | nil => rfl
  | cons c text ih => rw [ofText_cons, readOnto_encodeChar, ih, List.map_cons]

theorem toTextLossy_ofText (text : Text) : toTextLossy (ofText text) = text := by
  rw [toTextLossy, pieces_ofText, List.map_map]
  exact List.map_id text

theorem toText?_ofText (text : Text) : toText? (ofText text) = some text := by
  rw [toText?, pieces_ofText]
  induction text with
  | nil => rfl
  | cons c text ih => simp [List.mapM_cons, ih]

theorem newline_notMem_ofText {text : Text} (h : '\n' ∉ text) : newline ∉ ofText text := by
  intro hmem
  obtain ⟨c, hc, hoctet⟩ := List.mem_flatMap.mp hmem
  exact newline_notMem_encodeChar (fun heq ↦ h (heq ▸ hc)) hoctet

/-- Octets that encode some text. -/
def IsUtf8 (octets : Octets) : Prop := ∃ text, octets = ofText text

theorem isUtf8_iff {octets : Octets} : IsUtf8 octets ↔ ofText (toTextLossy octets) = octets := by
  constructor
  · rintro ⟨text, rfl⟩
    rw [toTextLossy_ofText]
  · intro h
    exact ⟨toTextLossy octets, h.symm⟩

end ScriptEmbed.Octets
