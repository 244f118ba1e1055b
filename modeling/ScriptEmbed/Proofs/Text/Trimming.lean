import Mathlib.Data.List.DropRight
import ScriptEmbed.Text.Blank

/-!
Trimming as a way to write a text: its trimmed part with blanks on either side. The trimmed part has
no blank at either end (`trimmed_trim`), and there is only one way to write a text so
(`trim_surrounded`). Only blanks are dropped, so the other characters are as many as before
(`visibleCount_trim`), and a text has at most one of them exactly if at most one character is left
(`length_trim_le_one_iff`).
-/

set_option autoImplicit false
set_option relaxedAutoImplicit false

namespace ScriptEmbed.Text

variable {text body front back : Text} {c : Char}

/-- No blank at the end. -/
def EndTrimmed (text : Text) : Prop := ∀ c, text.getLast? = some c → isBlank c = false

/-- No blank at either end. -/
def Trimmed (text : Text) : Prop :=
  (∀ c, text.head? = some c → isBlank c = false) ∧ EndTrimmed text

/-- How many characters of a text are not blank. -/
def visibleCount (text : Text) : Nat := text.countP (!isBlank ·)

theorem isBlank_of_mem (h : allBlank text = true) (hc : c ∈ text) : isBlank c = true :=
  List.all_eq_true.mp h c hc

/-! ### One end -/

theorem exists_trimEnd (text : Text) :
    ∃ back, allBlank back = true ∧ text = trimEnd text ++ back := by
  refine ⟨text.rtakeWhile isBlank, ?_, ?_⟩
  · exact List.all_eq_true.mpr fun _ ↦ List.mem_rtakeWhile_imp
  · exact List.rdropWhile_append_rtakeWhile.symm

theorem endTrimmed_trimEnd (text : Text) : EndTrimmed (trimEnd text) := by
  intro c hc
  have hne : trimEnd text ≠ [] := by
    intro hnil
    simp [hnil] at hc
  have hlast := List.rdropWhile_last_not isBlank text hne
  rw [List.getLast?_eq_some_getLast hne, Option.some.injEq] at hc
  subst hc
  exact Bool.eq_false_iff.mpr hlast

theorem trimEnd_append_blank (hbody : EndTrimmed body) (hback : allBlank back = true) :
    trimEnd (body ++ back) = body := by
  have hblank : ∀ c ∈ back.reverse, isBlank c = true :=
    fun c hc ↦ isBlank_of_mem hback (List.mem_reverse.mp hc)
  have hdrop : trimEnd (body ++ back) = body.rdropWhile isBlank := by
    rw [trimEnd, dropEndWhile, List.reverse_append, List.dropWhile_append_of_pos hblank]
    rfl
  rw [hdrop, List.rdropWhile_eq_self_iff]
  intro hne
  simpa using hbody _ (List.getLast?_eq_some_getLast hne)

theorem trimEnd_eq_self (h : EndTrimmed text) : trimEnd text = text := by
  have hnothing : allBlank [] = true := rfl
  simpa using trimEnd_append_blank h hnothing

theorem trimEnd_cons_of_visible (hc : isBlank c = false) (rest : Text) :
    trimEnd (c :: rest) = c :: trimEnd rest := by
  obtain ⟨back, hback, hrest⟩ := exists_trimEnd rest
  have hbody : EndTrimmed (c :: trimEnd rest) := by
    intro d hd
    rw [List.getLast?_cons, Option.some.injEq] at hd
    cases hlast : (trimEnd rest).getLast? with
    | none => simpa [hlast, ← hd] using hc
    | some last =>
      have hvisible := endTrimmed_trimEnd rest last hlast
      simpa [hlast, ← hd] using hvisible
  calc trimEnd (c :: rest) = trimEnd (c :: trimEnd rest ++ back) := by
        rw [List.cons_append, ← hrest]
    _ = c :: trimEnd rest := trimEnd_append_blank hbody hback

/-! ### Both ends -/

/-- What is surrounded by blanks and has none at its ends is what trimming leaves. -/
theorem trim_surrounded (hfront : allBlank front = true) (hbody : Trimmed body)
    (hback : allBlank back = true) : trim (front ++ body ++ back) = body := by
  have hblank : ∀ c ∈ front, isBlank c = true := fun c hc ↦ isBlank_of_mem hfront hc
  have hstart : trimStart (front ++ body ++ back) = trimStart (body ++ back) := by
    rw [trimStart, List.append_assoc, List.dropWhile_append_of_pos hblank]
    rfl
  rw [trim, hstart]
  cases body with
  | nil =>
    have hnone : trimStart back = [] :=
      List.dropWhile_eq_nil_iff.mpr fun c hc ↦ isBlank_of_mem hback hc
    rw [List.nil_append, hnone]
    rfl
  | cons c rest =>
    have hkept : trimStart (c :: rest ++ back) = c :: rest ++ back := by
      rw [trimStart, List.cons_append, List.dropWhile_cons_of_neg]
      simpa using hbody.1 c rfl
    rw [hkept, trimEnd_append_blank hbody.2 hback]

theorem exists_trimStart (text : Text) :
    ∃ front, allBlank front = true ∧ text = front ++ trimStart text := by
  refine ⟨text.takeWhile isBlank, ?_, List.takeWhile_append_dropWhile.symm⟩
  exact List.all_eq_true.mpr fun _ ↦ List.mem_takeWhile_imp

theorem head?_trimStart (hc : (trimStart text).head? = some c) : isBlank c = false := by
  have hhead := List.head?_dropWhile_not isBlank text
  rw [trimStart] at hc
  simpa [hc] using hhead

theorem trimmed_trim (text : Text) : Trimmed (trim text) := by
  refine ⟨?_, endTrimmed_trimEnd (trimStart text)⟩
  intro c hc
  cases hstart : trimStart text with
  | nil =>
    rw [trim, hstart] at hc
    cases hc
  | cons d rest =>
    have hd : isBlank d = false := head?_trimStart (by rw [hstart]; rfl)
    rw [trim, hstart, trimEnd_cons_of_visible hd, List.head?_cons, Option.some.injEq] at hc
    exact hc ▸ hd

theorem exists_trim (text : Text) : ∃ front back, allBlank front = true ∧ allBlank back = true ∧
    text = front ++ trim text ++ back := by
  obtain ⟨front, hfront, hstart⟩ := exists_trimStart text
  obtain ⟨back, hback, hend⟩ := exists_trimEnd (trimStart text)
  refine ⟨front, back, hfront, hback, ?_⟩
  rw [List.append_assoc, trim, ← hend, ← hstart]

/-! ### Characters that are not blank -/

theorem visibleCount_append (front back : Text) :
    visibleCount (front ++ back) = visibleCount front + visibleCount back := List.countP_append

theorem visibleCount_of_allBlank (h : allBlank text = true) : visibleCount text = 0 :=
  List.countP_eq_zero.mpr fun c hc ↦ by simp [isBlank_of_mem h hc]

theorem visibleCount_trim (text : Text) : visibleCount (trim text) = visibleCount text := by
  obtain ⟨front, back, hfront, hback, htext⟩ := exists_trim text
  calc visibleCount (trim text) = visibleCount (front ++ trim text ++ back) := by
        rw [visibleCount_append, visibleCount_append, visibleCount_of_allBlank hfront,
          visibleCount_of_allBlank hback, Nat.zero_add, Nat.add_zero]
    _ = visibleCount text := by rw [← htext]

/-- The characters at the two ends of a trimmed text are not blank. -/
theorem two_le_visibleCount (h : Trimmed text) (hlength : 2 ≤ text.length) :
    2 ≤ visibleCount text := by
  cases text with
  | nil => simp at hlength
  | cons c rest =>
    have hrest : rest ≠ [] := by
      rintro rfl
      simp at hlength
    have hc : isBlank c = false := h.1 c rfl
    have hlast : isBlank (rest.getLast hrest) = false :=
      h.2 _ (by rw [List.getLast?_cons, List.getLast?_eq_some_getLast hrest]; rfl)
    have hpos : 0 < visibleCount rest :=
      List.countP_pos_iff.mpr ⟨_, List.getLast_mem hrest, by simp [hlast]⟩
    have hsum : visibleCount (c :: rest) = visibleCount rest + 1 := by
      simp [visibleCount, hc]
    omega

theorem length_trim_le_one_iff : (trim text).length ≤ 1 ↔ visibleCount text ≤ 1 := by
  rw [← visibleCount_trim]
  constructor
  · intro hshort
    exact Nat.le_trans List.countP_le_length hshort
  · intro hfew
    by_contra hlong
    have htwo := two_le_visibleCount (trimmed_trim text) (by omega)
    omega

end ScriptEmbed.Text
