import ScriptEmbed.Proofs.Diagnostic.Sendings
import ScriptEmbed.Proofs.Tool.Diagnosed

/-!
The order in which a program's lines and records come out on standard error. What a run shows are
the sendings of the program's whole standard error, in their order. A line stands before a record
not only if it came before the record's header line, but also if it is what ended the record: then
it is shown first. So the order is that of the program exactly if no record is ended by a line that
is shown.
-/

set_option autoImplicit false
set_option relaxedAutoImplicit false

namespace ScriptEmbed.Tool

open Files Diagnostic

theorem relay_eq_sendings (stream : Octets) :
    relay stream = (sendings (offlineOperations stream)).map (·.sent) := by
  rw [offlineOperations, map_sent_sendings, relay, map_decodeLine_lines]

variable {machine : Machine} {command : Command} {session spawned : Session} {conduct : Conduct}

/-- What a run shows of its program's standard error, in which order and why. It shows each line
that is passed on and the record of each block; an earlier operation's before a later one's, and a
line before the record of a block that the line ends. So a line is shown before a record exactly if
it comes before the header line of the record or ends its block, and every line is shown before
exactly those records whose header lines come after it if and only if no block is ended by a line
but by the header line of the next. -/
theorem runDiagnosed_shows_in_order
    (hspawn : (spawn machine command).result session = (.ok conduct, spawned)) :
    ∃ shown : List Sending,
      (runDiagnosed machine command).result session =
        (.ok (resultOf conduct),
          (spawned.noting [.shared .stdout conduct.stdout]).noting
            (shown.map (·.sent.event))) ∧
      (∀ color, ((runDiagnosed machine command).result session).2.stderr color =
        spawned.stderr color ++ shown.flatMap (·.sent.event.stderr color)) ∧
      (∀ sending, sending ∈ shown ↔ sending.IsDue (offlineOperations conduct.stderr)) ∧
      shown.Pairwise Sending.Before ∧
      (∀ (p q : Nat) (echo report : Sending), shown[p]? = some echo → shown[q]? = some report →
        echo.sent.line?.isSome = true → report.sent.record?.isSome = true →
          (p < q ↔ echo.origin < report.origin ∨ echo.origin = report.time)) ∧
      (KeepsOrder shown ↔
        ∀ start stop record, BlockAt (offlineOperations conduct.stderr) start stop record →
          ∀ line, (offlineOperations conduct.stderr)[stop]? = some (.line line) →
            (header? line).isSome = true) := by
  have hresult := result_runDiagnosed hspawn
  rw [relay_eq_sendings, List.map_map] at hresult
  refine ⟨sendings (offlineOperations conduct.stderr), hresult, ?_, mem_sendings_iff _,
    pairwise_sendings _, ?_, keepsOrder_iff _⟩
  · intro color
    have hshared : [Event.shared .stdout conduct.stdout].flatMap (Event.stderr color) = [] := rfl
    rw [hresult, Session.stderr_noting, Session.stderr_noting, hshared, List.append_nil,
      List.flatMap_map]
    rfl
  · intro p q echo report hecho hreport hline hrecord
    exact lt_iff_origin hecho hreport hline hrecord

/-- A line, and then records that are ended by the next header line and by the end. -/
def orderly : Conduct where
  stderr := .ofText "x\n▲ [WARNING] w\n  at\n✘ [ERROR] e\n".toList

theorem runDiagnosed_shows_in_order_orderly :
    (spawn ⟨[], fun _ ↦ .present ⟨orderly, none⟩⟩ ⟨"e".toList, [], none⟩).result ⟨.empty, []⟩ =
        (.ok orderly, ⟨.empty, [.started "e".toList [] []]⟩) ∧
      ∃ shown : List Sending, KeepsOrder shown ∧
        ((runDiagnosed ⟨[], fun _ ↦ .present ⟨orderly, none⟩⟩ ⟨"e".toList, [], none⟩).result
          ⟨.empty, []⟩).2.stderr false = shown.flatMap (·.sent.event.stderr false) := by
  have hspawn : (spawn ⟨[], fun _ ↦ .present ⟨orderly, none⟩⟩ ⟨"e".toList, [], none⟩).result
      ⟨.empty, []⟩ = (.ok orderly, ⟨.empty, [.started "e".toList [] []]⟩) := rfl
  obtain ⟨shown, -, hstderr, -, -, -, hkeeps⟩ := runDiagnosed_shows_in_order hspawn
  have hended : ∀ operation ∈ (offlineOperations orderly.stderr).drop 1,
      operation.ends = true → operation.opens?.isSome = true ∨ operation = .finish := by
    decide
  refine ⟨hspawn, shown, hkeeps.mpr ?_, hstderr false⟩
  intro start stop record hblock line hstop
  have hlater : 1 ≤ stop := Nat.lt_of_le_of_lt (Nat.zero_le start) hblock.start_lt
  have hmem : Operation.line line ∈ (offlineOperations orderly.stderr).drop 1 := by
    rw [List.mem_iff_getElem?]
    exact ⟨stop - 1, by rw [List.getElem?_drop, Nat.add_sub_cancel' hlater, hstop]⟩
  obtain ⟨-, operation, hget, hends⟩ := hblock
  obtain rfl : operation = .line line := Option.some.inj (hget.symm.trans hstop)
  exact (hended _ hmem hends).resolve_right Operation.noConfusion

/-- A record that is ended by a line which is no header line. -/
def summarized : Conduct where
  stderr := .ofText "✘ [ERROR] a\n1 error\n".toList

/-- The line comes after the header line of the record and is shown before the record. -/
theorem order_lost_at_summary :
    ((runDiagnosed ⟨[], fun _ ↦ .present ⟨summarized, none⟩⟩ ⟨"e".toList, [], none⟩).result
        ⟨.empty, []⟩).2.events =
      [.started "e".toList [] [], .shared .stdout [], .echoed "1 error".toList,
        .reported ⟨.error, "a".toList, []⟩] ∧
    (sendings (offlineOperations summarized.stderr) =
      [⟨1, 1, .echoed "1 error".toList⟩, ⟨1, 0, .reported ⟨.error, "a".toList, []⟩⟩]) ∧
    ¬ KeepsOrder (sendings (offlineOperations summarized.stderr)) := by
  have hsendings : sendings (offlineOperations summarized.stderr) =
      [⟨1, 1, .echoed "1 error".toList⟩, ⟨1, 0, .reported ⟨.error, "a".toList, []⟩⟩] := by
    decide
  refine ⟨rfl, hsendings, ?_⟩
  rw [hsendings]
  intro hkeeps
  have hearlier : (1 : Nat) < 0 := (hkeeps 0 1 _ _ rfl rfl rfl rfl).mp Nat.zero_lt_one
  cases hearlier

end ScriptEmbed.Tool
