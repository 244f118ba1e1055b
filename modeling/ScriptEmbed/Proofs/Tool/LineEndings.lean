import ScriptEmbed.Proofs.Tool.Diagnosed

/-!
Line endings on a program's standard error. A carriage return is a character of its own even after
octets that are malformed, so one more before a newline adds one character to the end of the line's
text, which is dropped with the others there. Line by line nothing else changes
(`map_decodeLine_withCarriageReturns`), and the reading of records starts from the lines.
-/

set_option autoImplicit false
set_option relaxedAutoImplicit false

namespace ScriptEmbed

namespace Octets

/-- The octet of a carriage return. -/
def carriageReturn : UInt8 := 13

/-- The octets with a carriage return put before every newline. -/
def withCarriageReturns (octets : Octets) : Octets :=
  octets.flatMap fun octet ↦ if octet = newline then [carriageReturn, newline] else [octet]

theorem withCarriageReturns_of_newline_notMem {body : Octets} (hbody : newline ∉ body) :
    withCarriageReturns body = body := by
  induction body with
  | nil => rfl
  | cons octet body ih =>
    rw [List.mem_cons, not_or] at hbody
    rw [withCarriageReturns, List.flatMap_cons, if_neg (Ne.symm hbody.1), ← withCarriageReturns,
      ih hbody.2, List.singleton_append]

theorem withCarriageReturns_append_newline {body : Octets} (hbody : newline ∉ body)
    (rest : Octets) :
    withCarriageReturns (body ++ newline :: rest) =
      (body ++ [carriageReturn]) ++ newline :: withCarriageReturns rest := by
  have hfront := withCarriageReturns_of_newline_notMem hbody
  unfold withCarriageReturns at hfront ⊢
  rw [List.flatMap_append, hfront, List.flatMap_cons, if_pos rfl]
  simp

end Octets

namespace Diagnostic

open Octets

/-- A carriage return at the end of a line's octets is dropped. -/
theorem dropLineEnds_append_carriageReturn (body : Octets) :
    Text.dropEndWhile isLineEnd (body ++ [carriageReturn]).toTextLossy =
      Text.dropEndWhile isLineEnd body.toTextLossy := by
  have hnothing : Octets.toTextLossy [] = [] := rfl
  have hreturn : isLineEnd (Char.ofNat carriageReturn.toNat) = true := rfl
  rw [toTextLossy_append_ascii (by decide), hnothing, Text.dropEndWhile_append_singleton,
    if_pos hreturn]

theorem map_decodeLine_withCarriageReturns (stream : Octets) :
    stream.withCarriageReturns.lines.map decodeLine = stream.lines.map decodeLine := by
  induction stream using Octets.induction_on_lines with
  | last body hbody => rw [withCarriageReturns_of_newline_notMem hbody]
  | line body rest hbody ih =>
    have hreturn : newline ∉ body ++ [carriageReturn] := by
      rw [List.mem_append, not_or]
      exact ⟨hbody, by decide⟩
    rw [withCarriageReturns_append_newline hbody, lines_append_newline hreturn,
      lines_append_newline hbody, List.map_cons, List.map_cons, ih, decodeLine_append_newline,
      decodeLine_append_newline, dropLineEnds_append_carriageReturn]

theorem relay_withCarriageReturns (stream : Octets) :
    relay stream.withCarriageReturns = relay stream := by
  rw [relay, relay, map_decodeLine_withCarriageReturns]

end Diagnostic

namespace Tool

open Files Diagnostic

/-- What a program does, with another line ending on its standard error. -/
def withCarriageReturns (conduct : Conduct) : Conduct :=
  { conduct with stderr := conduct.stderr.withCarriageReturns }

variable {machine machine' : Machine} {command command' : Command}
variable {session session' spawned spawned' : Session} {conduct : Conduct}

/-- Two programs that do the same, but that one ends the lines of its standard error by a newline
and the other by a carriage return and a newline: their runs give the same result, report the same
records and echo the same lines, all in the same order, whatever octets the lines hold. -/
theorem runDiagnosed_line_endings
    (hspawn : (spawn machine command).result session = (.ok conduct, spawned))
    (hspawn' : (spawn machine' command').result session' =
      (.ok (withCarriageReturns conduct), spawned')) :
    ∃ (result : ToolResult) (shown : List Relay),
      (runDiagnosed machine command).result session =
        (.ok result, (spawned.noting [.shared .stdout conduct.stdout]).noting
          (shown.map Relay.event)) ∧
      (runDiagnosed machine' command').result session' =
        (.ok result, (spawned'.noting [.shared .stdout conduct.stdout]).noting
          (shown.map Relay.event)) ∧
      ∀ color, ∃ echo : Octets,
        ((runDiagnosed machine command).result session).2.stderr color =
          spawned.stderr color ++ echo ∧
        ((runDiagnosed machine' command').result session').2.stderr color =
          spawned'.stderr color ++ echo := by
  have hresult : resultOf (withCarriageReturns conduct) = resultOf conduct := by
    simp only [resultOf, withCarriageReturns, relay_withCarriageReturns]
  have hrelay : relay (withCarriageReturns conduct).stderr = relay conduct.stderr :=
    relay_withCarriageReturns conduct.stderr
  refine ⟨resultOf conduct, relay conduct.stderr, result_runDiagnosed hspawn, ?_, ?_⟩
  · rw [result_runDiagnosed hspawn', hresult, hrelay]
    rfl
  · intro color
    refine ⟨_, stderr_runDiagnosed hspawn color, ?_⟩
    rw [stderr_runDiagnosed hspawn', hrelay]

/-- A record, a character cut off by a newline, a blank line, and carriage returns of the program's
own. -/
def mixedEndings : Conduct where
  stderr := Octets.ofText "✘ [ERROR] a\n  b\r\r\n\n".toList ++ [0xE2, 0x96, 10] ++
    Octets.ofText "c\rd".toList
  status := .code 1

theorem runDiagnosed_line_endings_mixed :
    (spawn ⟨[], fun _ ↦ .present ⟨mixedEndings, none⟩⟩ ⟨"e".toList, [], none⟩).result
        ⟨.empty, []⟩ = (.ok mixedEndings, ⟨.empty, [.started "e".toList [] []]⟩) ∧
      (spawn ⟨[], fun _ ↦ .present ⟨withCarriageReturns mixedEndings, none⟩⟩
        ⟨"e".toList, [], none⟩).result ⟨.empty, []⟩ =
        (.ok (withCarriageReturns mixedEndings), ⟨.empty, [.started "e".toList [] []]⟩) ∧
      mixedEndings.stderr.withCarriageReturns ≠ mixedEndings.stderr ∧
      ((runDiagnosed ⟨[], fun _ ↦ .present ⟨withCarriageReturns mixedEndings, none⟩⟩
        ⟨"e".toList, [], none⟩).result ⟨.empty, []⟩).1 =
          .ok ⟨false, [⟨.error, "a".toList, ["  b".toList]⟩]⟩ := by
  have hspawn : (spawn ⟨[], fun _ ↦ .present ⟨mixedEndings, none⟩⟩
      ⟨"e".toList, [], none⟩).result ⟨.empty, []⟩ =
        (.ok mixedEndings, ⟨.empty, [.started "e".toList [] []]⟩) := rfl
  have hspawn' : (spawn ⟨[], fun _ ↦ .present ⟨withCarriageReturns mixedEndings, none⟩⟩
      ⟨"e".toList, [], none⟩).result ⟨.empty, []⟩ =
        (.ok (withCarriageReturns mixedEndings), ⟨.empty, [.started "e".toList [] []]⟩) := rfl
  obtain ⟨result, shown, hfirst, hsecond, -⟩ := runDiagnosed_line_endings hspawn hspawn'
  have hresult : .ok (resultOf mixedEndings) = Except.ok result :=
    congrArg Prod.fst ((result_runDiagnosed hspawn).symm.trans hfirst)
  have hrecords : resultOf mixedEndings = ⟨false, [⟨.error, "a".toList, ["  b".toList]⟩]⟩ := by
    decide
  refine ⟨hspawn, hspawn', by decide, ?_⟩
  rw [hsecond, ← hresult, hrecords]

end Tool

end ScriptEmbed
