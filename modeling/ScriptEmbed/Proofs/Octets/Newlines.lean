import Mathlib.Tactic.ByContra
import Mathlib.Tactic.SplitIfs
import ScriptEmbed.Octets.Utf8
import ScriptEmbed.Proofs.Text.Segments

/-!
Reading octets as UTF-8 and cutting them at newlines. An octet of ASCII, such as a newline or a
carriage return, is a character of its own and never continues another one, so whatever was begun
before it is malformed and ends there (`step_ascii`); and no other octet completes a newline
(`newline_notMem_step`), since an octet beyond ASCII leads to characters beyond ASCII only. Hence
what comes before a newline is read on its own, whatever is malformed (`toTextLossy_append_newline`),
and a law of whole streams follows by induction on their lines (`induction_on_lines`).
-/

set_option autoImplicit false
set_option relaxedAutoImplicit false

namespace ScriptEmbed.Octets

/-! ### One octet -/

/-- What holds of every state that reading comes to: inside a character, the octet that is due is
beyond ASCII, and so will be the character. -/
def State.IsReached : State → Prop
  | .start => True
  | .within value owed low _ =>
    0x80 ≤ low ∧ (2 ≤ value ∨ (owed ≠ 1 ∧ 2 ≤ value * 64 + (low - 0x80)))

theorem isReached_start : State.start.IsReached := trivial

theorem ofNat_ne_newline {n : Nat} (h : n ≠ 10) : Char.ofNat n ≠ '\n' := by
  intro heq
  by_cases hvalid : n.isValidChar
  · rw [Char.ofNat, dif_pos hvalid] at heq
    exact h (congrArg Char.toNat heq)
  · rw [Char.ofNat, dif_neg hvalid] at heq
    cases heq

/-- What an octet between two characters leads to. -/
inductive Begins (octet : UInt8) : State × List Piece → Prop
  | ascii : Begins octet (.start, [some (Char.ofNat octet.toNat)])
  | malformed : Begins octet (.start, [none])
  | inside {value owed low high : Nat} (reached : (State.within value owed low high).IsReached) :
    Begins octet (.within value owed low high, [])

theorem begins_first (octet : UInt8) : Begins octet (first octet) := by
  have hinside : ∀ value owed low high : Nat, 0x80 ≤ low →
      (2 ≤ value ∨ (owed ≠ 1 ∧ 2 ≤ value * 64 + (low - 0x80))) →
      Begins octet (.within value owed low high, []) :=
    fun _ _ _ _ hlow hvalue ↦ .inside ⟨hlow, hvalue⟩
  unfold first
  refine iteInduction (fun _ ↦ .ascii) fun _ ↦ ?_
  refine iteInduction (fun _ ↦ .malformed) fun _ ↦ ?_
  refine iteInduction (fun _ ↦ hinside _ _ _ _ (by omega) (by omega)) fun _ ↦ ?_
  refine iteInduction (fun _ ↦ hinside _ _ _ _ (by omega) (by omega)) fun _ ↦ ?_
  refine iteInduction (fun _ ↦ hinside _ _ _ _ (by omega) (by omega)) fun _ ↦ ?_
  refine iteInduction (fun _ ↦ hinside _ _ _ _ (by omega) (by omega)) fun _ ↦ ?_
  refine iteInduction (fun _ ↦ hinside _ _ _ _ (by omega) (by omega)) fun _ ↦ ?_
  refine iteInduction (fun _ ↦ hinside _ _ _ _ (by omega) (by omega)) fun _ ↦ ?_
  exact iteInduction (fun _ ↦ hinside _ _ _ _ (by omega) (by omega)) fun _ ↦ .malformed

theorem Begins.isReached {octet : UInt8} {outcome : State × List Piece}
    (h : Begins octet outcome) : outcome.1.IsReached := by
  cases h with
  | ascii | malformed => exact isReached_start
  | inside hreached => exact hreached

theorem Begins.newline_notMem {octet : UInt8} {outcome : State × List Piece}
    (h : Begins octet outcome) (hoctet : octet ≠ newline) : some '\n' ∉ outcome.2 := by
  cases h with
  | ascii =>
    have hten : octet.toNat ≠ 10 := fun heq ↦ hoctet (UInt8.toNat_inj.mp heq)
    simpa using (ofNat_ne_newline hten).symm
  | malformed | inside => simp

theorem Begins.ne_nil {octet : UInt8} {outcome : State × List Piece}
    (h : Begins octet outcome) (hstart : outcome.1 = .start) : outcome.2 ≠ [] := by
  cases h with
  | ascii | malformed => simp
  | inside => cases hstart

theorem isReached_step {state : State} (h : state.IsReached) (octet : UInt8) :
    (step state octet).1.IsReached := by
  cases state with
  | start => exact (begins_first octet).isReached
  | within value owed low high =>
    obtain ⟨hlow, hvalue⟩ := h
    simp only [step]
    split_ifs with hdue hlast
    · exact isReached_start
    · simp only [State.IsReached]
      omega
    · exact (begins_first octet).isReached

/-- An octet of ASCII ends whatever was begun, as the end of the octets does. -/
theorem step_ascii {state : State} (h : state.IsReached) {octet : UInt8}
    (hascii : octet.toNat < 0x80) :
    step state octet = (.start, finish state ++ [some (Char.ofNat octet.toNat)]) := by
  cases state with
  | start => simp [step, first, finish, hascii]
  | within value owed low high =>
    have hdue : ¬ (low ≤ octet.toNat ∧ octet.toNat ≤ high) := by
      have hlow := h.1
      omega
    simp [step, first, finish, hdue, hascii]

/-- Only a newline is read as one. -/
theorem newline_notMem_step {state : State} (h : state.IsReached) {octet : UInt8}
    (hoctet : octet ≠ newline) : some '\n' ∉ (step state octet).2 := by
  cases state with
  | start => exact (begins_first octet).newline_notMem hoctet
  | within value owed low high =>
    obtain ⟨hlow, hvalue⟩ := h
    simp only [step]
    split_ifs with hdue hlast
    · have hbeyond : value * 64 + (octet.toNat - 0x80) ≠ 10 := by omega
      simpa using (ofNat_ne_newline hbeyond).symm
    · simp
    · simpa using (begins_first octet).newline_notMem hoctet

/-- An octet after which reading is between characters has been read as something. -/
theorem step_ne_nil {state : State} {octet : UInt8} (h : (step state octet).1 = .start) :
    (step state octet).2 ≠ [] := by
  cases state with
  | start => exact (begins_first octet).ne_nil h
  | within value owed low high =>
    simp only [step] at h ⊢
    split_ifs at h ⊢ with hdue hlast <;> simp

/-! ### A stream -/

theorem readOnto_append_ascii {state : State} (h : state.IsReached) {octet : UInt8}
    (hascii : octet.toNat < 0x80) (body rest : Octets) :
    readOnto state [] (body ++ octet :: rest) =
      readOnto state [] body ++ some (Char.ofNat octet.toNat) :: pieces rest := by
  induction body generalizing state with
  | nil =>
    rw [List.nil_append, readOnto_cons, step_ascii h hascii]
    simp [readOnto, pieces]
  | cons front body ih =>
    rw [List.cons_append, readOnto_cons, ih (isReached_step h front), readOnto_cons,
      List.append_assoc]

theorem newline_notMem_readOnto {state : State} (h : state.IsReached) {body : Octets}
    (hbody : newline ∉ body) : some '\n' ∉ readOnto state [] body := by
  induction body generalizing state with
  | nil => cases state <;> simp [readOnto, finish]
  | cons octet body ih =>
    rw [List.mem_cons, not_or] at hbody
    rw [readOnto_cons, List.mem_append, not_or]
    exact ⟨newline_notMem_step h (Ne.symm hbody.1), ih (isReached_step h octet) hbody.2⟩

theorem readOnto_ne_nil {state : State} {octets : Octets} (h : state ≠ .start ∨ octets ≠ []) :
    readOnto state [] octets ≠ [] := by
  induction octets generalizing state with
  | nil =>
    cases state with
    | start => simp at h
    | within => simp [readOnto, finish]
  | cons octet rest ih =>
    rw [readOnto_cons]
    by_cases hstart : (step state octet).1 = .start
    · exact List.append_ne_nil_of_left_ne_nil (step_ne_nil hstart) _
    · exact List.append_ne_nil_of_right_ne_nil _ (ih (Or.inl hstart))

theorem toTextLossy_append_ascii {octet : UInt8} (hascii : octet.toNat < 0x80)
    (body rest : Octets) :
    toTextLossy (body ++ octet :: rest) =
      toTextLossy body ++ Char.ofNat octet.toNat :: toTextLossy rest := by
  simp [toTextLossy, pieces, readOnto_append_ascii isReached_start hascii]

theorem toTextLossy_append_newline (body rest : Octets) :
    toTextLossy (body ++ newline :: rest) = toTextLossy body ++ '\n' :: toTextLossy rest :=
  toTextLossy_append_ascii (by decide) body rest

theorem newline_notMem_toTextLossy {body : Octets} (hbody : newline ∉ body) :
    '\n' ∉ toTextLossy body := by
  intro hmem
  obtain ⟨piece, hpiece, hchar⟩ := List.mem_map.mp hmem
  cases piece with
  | none => cases hchar
  | some c =>
    obtain rfl : c = '\n' := hchar
    exact newline_notMem_readOnto isReached_start hbody hpiece

theorem toTextLossy_eq_nil_iff {octets : Octets} : toTextLossy octets = [] ↔ octets = [] := by
  constructor
  · intro h
    by_contra hne
    exact readOnto_ne_nil (Or.inr hne) (List.map_eq_nil_iff.mp h)
  · rintro rfl
    rfl

/-! ### Lines -/

/-- A stream is one line without a newline, or such a line, a newline and another stream. -/
theorem induction_on_lines {motive : Octets → Prop}
    (last : ∀ body, newline ∉ body → motive body)
    (line : ∀ body rest, newline ∉ body → motive rest → motive (body ++ newline :: rest))
    (octets : Octets) : motive octets := by
  by_cases hmem : newline ∈ octets
  · obtain ⟨body, rest, hcut, hbody⟩ := List.eq_append_cons_of_mem hmem
    have hshorter : rest.length < octets.length := by
      rw [hcut, List.length_append, List.length_cons]
      omega
    rw [hcut]
    exact line body rest hbody (induction_on_lines last line rest)
  · exact last octets hmem
termination_by octets.length

theorem lines_of_newline_notMem {body : Octets} (hbody : newline ∉ body) :
    lines body = if body = [] then [] else [body] := by
  induction body with
  | nil => rfl
  | cons octet body ih =>
    rw [List.mem_cons, not_or] at hbody
    rw [lines_cons, if_neg (Ne.symm hbody.1), ih hbody.2]
    cases body <;> simp [consLine]

theorem lines_append_newline {body : Octets} (hbody : newline ∉ body) (rest : Octets) :
    lines (body ++ newline :: rest) = (body ++ [newline]) :: lines rest := by
  induction body with
  | nil => rw [List.nil_append, lines_cons, if_pos rfl, List.nil_append]
  | cons octet body ih =>
    rw [List.mem_cons, not_or] at hbody
    rw [List.cons_append, lines_cons, if_neg (Ne.symm hbody.1), ih hbody.2]
    rfl

end ScriptEmbed.Octets
