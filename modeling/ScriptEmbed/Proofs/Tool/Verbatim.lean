import Mathlib.Data.List.DropRight
import ScriptEmbed.Proofs.Octets.Encoding
import ScriptEmbed.Proofs.Tool.LineEndings

/-!
When a program's standard error is passed on as it is. Where no line is a header line, every line is
echoed (`relayLines_of_plain`), but not its octets: what is malformed has become U+FFFD, the
carriage returns at its end are gone and a newline is put after it. Line by line, the echo is the
same exactly if the line is UTF-8 and has no carriage return at its end (`ofText_decodeLine_iff`);
only the last line may lack a newline, and then the echo has one more octet. All three conditions on
a stream come apart at its newlines, so the law of a stream follows by induction on its lines
(`echo_eq_iff`). The echo never has more lines or fewer (`length_lines_echo`).
-/

set_option autoImplicit false
set_option relaxedAutoImplicit false

namespace ScriptEmbed

namespace Octets

variable {body rest : Octets}

theorem isUtf8_append_newline_iff (hbody : newline ∉ body) :
    IsUtf8 (body ++ newline :: rest) ↔ IsUtf8 body ∧ IsUtf8 rest := by
  have hread : newline ∉ ofText (toTextLossy body) :=
    newline_notMem_ofText (newline_notMem_toTextLossy hbody)
  have hnewline : encodeChar '\n' = [newline] := rfl
  rw [isUtf8_iff, isUtf8_iff, isUtf8_iff, toTextLossy_append_newline, ofText_append, ofText_cons,
    hnewline, List.singleton_append, Text.append_cons_inj_of_notMem hread hbody]

theorem ends_append_newline_iff :
    (body ++ newline :: rest = [] ∨ (body ++ newline :: rest).getLast? = some newline) ↔
      (rest = [] ∨ rest.getLast? = some newline) := by
  rcases List.eq_nil_or_concat rest with rfl | ⟨front, last, rfl⟩
  · simp
  · simp [List.getLast?_cons]

theorem infix_append_newline_iff (hbody : newline ∉ body) :
    [carriageReturn, newline] <:+: body ++ newline :: rest ↔
      body.getLast? = some carriageReturn ∨ [carriageReturn, newline] <:+: rest := by
  have hdistinct : carriageReturn ≠ newline := by decide
  induction body with
  | nil => simp [List.infix_cons_iff, hdistinct]
  | cons octet body ih =>
    rw [List.mem_cons, not_or] at hbody
    rw [List.cons_append, List.infix_cons_iff]
    refine (or_congr_right (ih hbody.2)).trans ?_
    rw [← or_assoc]
    refine or_congr_left ?_
    cases body with
    | nil => simp [eq_comm]
    | cons second body =>
      have hsecond : newline ≠ second := fun heq ↦ hbody.2 (heq ▸ List.mem_cons_self)
      simp [hsecond, List.getLast?_cons_cons]

end Octets

namespace Diagnostic

open Octets

/-! ### One line -/

theorem notMem_dropEndWhile {drop : Char → Bool} {text : Text} {c : Char} (h : c ∉ text) :
    c ∉ Text.dropEndWhile drop text :=
  fun hmem ↦ h ((List.rdropWhile_prefix drop text).mem hmem)

theorem newline_notMem_decodeLine {body : Octets} (hbody : newline ∉ body) :
    '\n' ∉ decodeLine body :=
  notMem_dropEndWhile (newline_notMem_toTextLossy hbody)

theorem getLast?_decodeLine (body : Octets) : (decodeLine body).getLast? ≠ some '\r' := by
  intro hlast
  obtain ⟨front, hline⟩ := List.getLast?_eq_some_iff.mp hlast
  have hne : List.rdropWhile isLineEnd body.toTextLossy ≠ [] := by
    change decodeLine body ≠ []
    simp [hline]
  have hkept := List.rdropWhile_last_not isLineEnd body.toTextLossy hne
  have hreturn : (List.rdropWhile isLineEnd body.toTextLossy).getLast hne = '\r' :=
    Option.some.inj ((List.getLast?_eq_some_getLast hne).symm.trans hlast)
  rw [hreturn] at hkept
  exact hkept rfl

/-- A line comes out as it went in exactly if it is UTF-8 and has no carriage return at its end. -/
theorem ofText_decodeLine_iff {body : Octets} (hbody : newline ∉ body) :
    ofText (decodeLine body) = body ↔
      IsUtf8 body ∧ body.getLast? ≠ some carriageReturn := by
  have hascii : carriageReturn.toNat < 0x80 := by decide
  constructor
  · intro hsame
    refine ⟨⟨_, hsame.symm⟩, ?_⟩
    intro hlast
    obtain ⟨front, hfront⟩ := List.getLast?_eq_some_iff.mp hlast
    have hread : decodeLine body = toTextLossy front ++ ['\r'] := by
      calc decodeLine body = toTextLossy (ofText (decodeLine body)) :=
            (toTextLossy_ofText _).symm
        _ = toTextLossy (front ++ [carriageReturn]) := by rw [hsame, hfront]
        _ = toTextLossy front ++ ['\r'] := by
          rw [toTextLossy_append_ascii hascii]
          rfl
    exact getLast?_decodeLine body (by rw [hread, List.getLast?_concat])
  · rintro ⟨hutf8, hlast⟩
    have hkept : decodeLine body = body.toTextLossy := by
      rcases List.eq_nil_or_concat body.toTextLossy with hnil | ⟨front, c, htext⟩
      · rw [decodeLine, hnil]
        rfl
      · have hnewline : c ≠ '\n' := by
          rintro rfl
          exact newline_notMem_toTextLossy hbody (by simp [htext])
        have hcarriage : c ≠ '\r' := by
          rintro rfl
          have hoctets : body = ofText front ++ [carriageReturn] := by
            rw [← isUtf8_iff.mp hutf8, htext, List.concat_eq_append, ofText_append]
            rfl
          exact hlast (by rw [hoctets, List.getLast?_concat])
        have hend : isLineEnd c = false := by simp [isLineEnd, hnewline, hcarriage]
        rw [decodeLine, htext, List.concat_eq_append, Text.dropEndWhile_append_singleton, hend]
        rfl
    rw [hkept, isUtf8_iff.mp hutf8]

/-! ### A stream -/

/-- The lines of a stream as they are written when all of them are echoed. -/
def echo (stream : Octets) : Octets := ofText (Text.terminated (stream.lines.map decodeLine))

theorem echo_append_newline {body : Octets} (hbody : newline ∉ body) (rest : Octets) :
    echo (body ++ newline :: rest) = ofText (decodeLine body) ++ newline :: echo rest := by
  have hline : decodeLine (body ++ [newline]) = decodeLine body := decodeLine_append_newline body
  rw [echo, lines_append_newline hbody, List.map_cons, Text.terminated_cons, hline, ofText_append,
    ofText_cons]
  rfl

theorem echo_of_newline_notMem {body : Octets} (hbody : newline ∉ body) (hne : body ≠ []) :
    echo body = ofText (decodeLine body) ++ [newline] := by
  rw [echo, lines_of_newline_notMem hbody, if_neg hne, List.map_singleton, Text.terminated_cons,
    ofText_append, ofText_cons]
  rfl

/-- The echo of a stream is the stream exactly if the stream is UTF-8, does not break off inside a
line and has no carriage return before a newline. -/
theorem echo_eq_iff (stream : Octets) :
    echo stream = stream ↔
      IsUtf8 stream ∧ (stream = [] ∨ stream.getLast? = some newline) ∧
        ¬ [carriageReturn, newline] <:+: stream := by
  induction stream using Octets.induction_on_lines with
  | last body hbody =>
    by_cases hempty : body = []
    · subst hempty
      exact iff_of_true rfl ⟨⟨[], rfl⟩, Or.inl rfl, by simp⟩
    · refine iff_of_false ?_ ?_
      · intro hsame
        rw [echo_of_newline_notMem hbody hempty] at hsame
        exact hbody (hsame ▸ List.mem_append_right _ List.mem_cons_self)
      · rintro ⟨-, hends, -⟩
        rcases hends with hnil | hlast
        · exact hempty hnil
        · exact hbody (List.mem_of_getLast? hlast)
  | line body rest hbody ih =>
    have hwritten : newline ∉ ofText (decodeLine body) :=
      newline_notMem_ofText (newline_notMem_decodeLine hbody)
    rw [echo_append_newline hbody, Text.append_cons_inj_of_notMem hwritten hbody, ih,
      ofText_decodeLine_iff hbody, isUtf8_append_newline_iff hbody, ends_append_newline_iff,
      infix_append_newline_iff hbody, not_or]
    tauto

theorem length_lines_echo (stream : Octets) : (echo stream).lines.length = stream.lines.length := by
  induction stream using Octets.induction_on_lines with
  | last body hbody =>
    by_cases hempty : body = []
    · subst hempty
      rfl
    · have hwritten : newline ∉ ofText (decodeLine body) :=
        newline_notMem_ofText (newline_notMem_decodeLine hbody)
      rw [echo_of_newline_notMem hbody hempty, lines_append_newline hwritten,
        lines_of_newline_notMem hbody, if_neg hempty]
      rfl
  | line body rest hbody ih =>
    have hwritten : newline ∉ ofText (decodeLine body) :=
      newline_notMem_ofText (newline_notMem_decodeLine hbody)
    rw [echo_append_newline hbody, lines_append_newline hwritten, lines_append_newline hbody,
      List.length_cons, List.length_cons, ih]

/-! ### Lines that are no header lines -/

theorem relayLines_of_plain {lines : List Text} (hplain : ∀ line ∈ lines, header? line = none) :
    relayLines lines = lines.map .echoed := by
  rw [relayLines_eq_relayFrom]
  induction lines with
  | nil => rfl
  | cons line rest ih =>
    rw [List.forall_mem_cons] at hplain
    have hfeed : Reader.feed none line = (⟨none, true⟩, none) := by
      simp [Reader.feed, hplain.1]
    rw [relayFrom, hfeed, ih hplain.2]
    rfl

end Diagnostic

namespace Tool

open Files Diagnostic Octets

variable {machine : Machine} {command : Command} {session spawned : Session} {conduct : Conduct}

/-- Where no line of a program's standard error is a header line, its run reports nothing and echoes
every line. The octets of the echo are those of the standard error exactly if these are UTF-8, are
none or end in a newline, and have no carriage return directly before a newline; the lines are as
many in any case. -/
theorem runDiagnosed_verbatim_iff
    (hspawn : (spawn machine command).result session = (.ok conduct, spawned))
    (hplain : ∀ line ∈ stderrLines conduct, header? line = none) :
    (runDiagnosed machine command).result session =
      (.ok ⟨conduct.status == .code 0, []⟩,
        (spawned.noting [.shared .stdout conduct.stdout]).noting
          ((stderrLines conduct).map .echoed)) ∧
    ∃ echoed : Octets,
      (∀ color, ((runDiagnosed machine command).result session).2.stderr color =
        spawned.stderr color ++ echoed) ∧
      (echoed = conduct.stderr ↔
        IsUtf8 conduct.stderr ∧
          (conduct.stderr = [] ∨ conduct.stderr.getLast? = some newline) ∧
          ¬ [carriageReturn, newline] <:+: conduct.stderr) ∧
      echoed.lines.length = conduct.stderr.lines.length := by
  have hrelay : relay conduct.stderr = (stderrLines conduct).map .echoed :=
    relayLines_of_plain hplain
  have hresult : resultOf conduct = ⟨conduct.status == .code 0, []⟩ := by
    have hrecords : ((stderrLines conduct).map Relay.echoed).filterMap Relay.record? = [] := by
      rw [List.filterMap_map]
      exact List.filterMap_eq_nil_iff.mpr fun _ _ ↦ rfl
    simp only [resultOf, hrelay, hrecords]
    rfl
  refine ⟨?_, echo conduct.stderr, ?_, echo_eq_iff conduct.stderr, length_lines_echo conduct.stderr⟩
  · rw [result_runDiagnosed hspawn, hresult, hrelay, List.map_map]
    rfl
  · intro color
    have hall : ((stderrLines conduct).map Relay.echoed).filter (·.line?.isSome) =
        (stderrLines conduct).map Relay.echoed :=
      List.filter_eq_self.mpr (by simp [Relay.line?])
    have hlines : ((stderrLines conduct).map Relay.echoed).filterMap Relay.line? =
        stderrLines conduct := by
      rw [List.filterMap_map]
      exact List.filterMap_some
    have hechoes := stderr_echoes color ((stderrLines conduct).map Relay.echoed)
    rw [hall, hlines] at hechoes
    rw [stderr_runDiagnosed hspawn, hrelay, List.flatMap_map, hechoes]
    rfl

/-- Lines that hold a carriage return, blanks and a character beyond ASCII, and an empty line. -/
def plainLines : Conduct where
  stderr := Octets.ofText "a\rb\n\n  ✘ \n".toList

theorem runDiagnosed_verbatim_iff_plain :
    (spawn ⟨[], fun _ ↦ .present ⟨plainLines, none⟩⟩ ⟨"e".toList, [], none⟩).result ⟨.empty, []⟩ =
        (.ok plainLines, ⟨.empty, [.started "e".toList [] []]⟩) ∧
      (∀ line ∈ stderrLines plainLines, header? line = none) ∧
      ((runDiagnosed ⟨[], fun _ ↦ .present ⟨plainLines, none⟩⟩ ⟨"e".toList, [], none⟩).result
        ⟨.empty, []⟩).2.stderr false = plainLines.stderr := by
  have hspawn : (spawn ⟨[], fun _ ↦ .present ⟨plainLines, none⟩⟩ ⟨"e".toList, [], none⟩).result
      ⟨.empty, []⟩ = (.ok plainLines, ⟨.empty, [.started "e".toList [] []]⟩) := rfl
  have hplain : ∀ line ∈ stderrLines plainLines, header? line = none := by decide
  have hoctets : plainLines.stderr =
      [97, carriageReturn, 98, newline, newline, 32, 32, 0xE2, 0x9C, 0x98, 32, newline] := by
    decide
  have hreturns : ¬ [carriageReturn, newline] <:+: plainLines.stderr := by
    rw [hoctets]
    simp [List.infix_cons_iff, carriageReturn, newline]
  obtain ⟨-, echoed, hstderr, hverbatim, -⟩ := runDiagnosed_verbatim_iff hspawn hplain
  refine ⟨hspawn, hplain, ?_⟩
  rw [hstderr, hverbatim.mpr ⟨⟨_, rfl⟩, Or.inr (by decide), hreturns⟩]
  rfl

end Tool

end ScriptEmbed
