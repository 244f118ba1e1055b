import ScriptEmbed.Proofs.Diagnostic.Offline

/-!
When each thing goes out while lines are read, and which line it comes from. A line that is passed
on goes out at its own operation; a record comes from its header line and goes out at the operation
that ends its block. `sendings` keeps both numbers beside what is sent out; apart from them it is
what the reader sends out (`map_sent_sendings`), and it has exactly the passed lines and the blocks
(`mem_sendings_iff`, by induction on the operations). The list is in the order of the operations,
and an operation that sends out both a line and a record sends out the line first
(`pairwise_sendings`).

A line that is passed on lies in no block, and it opens none; so of a block it comes before the
header, or after the end, or is the end itself (`passed_le_iff`). In the last case the line has gone
out before a record that began earlier, and in no other case is the order of the lines lost
(`keepsOrder_iff`).
-/

set_option autoImplicit false
set_option relaxedAutoImplicit false

namespace ScriptEmbed.Diagnostic

/-- One thing that goes out: at the operation with the number `time`, and from the line with the
number `origin`. -/
structure Sending where
  time : Nat
  origin : Nat
  sent : Relay
  deriving DecidableEq

namespace Operation

/-- The line of an operation, if there is one. -/
def text : Operation → Text
  | .line text => text
  | .finish => []

/-- What an operation sends out, with its own number and the number of the last header line. -/
def sends (number since : Nat) (reader : Reader) (operation : Operation) : List Sending :=
  (if (reader.operate operation).1.passthrough then [⟨number, number, .echoed operation.text⟩]
    else []) ++
  ((reader.operate operation).1.completed.map fun record ↦
    Sending.mk number since (.reported record)).toList

end Operation

/-- What operations send out from a reader on, of which the first has the given number. -/
def sendingsFrom (number since : Nat) (reader : Reader) : List Operation → List Sending
  | [] => []
  | operation :: rest =>
    operation.sends number since reader ++
      sendingsFrom (number + 1) (if operation.opens?.isSome then number else since)
        (reader.operate operation).2 rest

/-- All that operations send out. -/
def sendings (operations : List Operation) : List Sending := sendingsFrom 0 0 none operations

/-! ### What is sent out -/

theorem map_sent_sends_line (number since : Nat) (reader : Reader) (line : Text) :
    ((Operation.line line).sends number since reader).map (·.sent) =
      (reader.feed line).1.relays line := by
  change (Operation.sends number since reader (.line line)).map (·.sent) =
    (reader.operate (.line line)).1.relays line
  cases hfeed : (reader.operate (.line line)).1 with
  | mk completed passthrough =>
    cases completed <;> cases passthrough <;>
      simp [Operation.sends, hfeed, Feed.relays, Operation.text]

theorem map_sent_sendingsFrom (number since : Nat) (reader : Reader) (lines : List Text) :
    (sendingsFrom number since reader (lines.map .line ++ [.finish])).map (·.sent) =
      relayFrom reader lines := by
  induction lines generalizing number since reader with
  | nil => cases reader <;> rfl
  | cons line rest ih =>
    rw [List.map_cons, List.cons_append, sendingsFrom, List.map_append, map_sent_sends_line, ih]
    rfl

/-- Apart from when and whence, this is what the lines send out. -/
theorem map_sent_sendings (lines : List Text) :
    (sendings (lines.map .line ++ [.finish])).map (·.sent) = relayLines lines := by
  rw [relayLines_eq_relayFrom]
  exact map_sent_sendingsFrom 0 0 none lines

/-! ### When and whence -/

/-- There is a block with this record, from its header line to the operation that ends it. -/
def BlockAt (operations : List Operation) (start stop : Nat) (record : Diagnostic) : Prop :=
  (∃ header, OpenAt (operations.take stop) start header ∧
    record = { header with notes := notesOf ((operations.take stop).drop (start + 1)) }) ∧
  ∃ operation, operations[stop]? = some operation ∧ operation.ends = true

/-- There is a line at this number, and it is passed on. -/
def PassedAt (operations : List Operation) (number : Nat) (line : Text) : Prop :=
  operations[number]? = some (.line line) ∧ isPassed (operations.take number) line = true

/-- What goes out, and when, is a passed line at once or a record at the end of its block. -/
def Sending.IsDue (operations : List Operation) : Sending → Prop
  | ⟨time, origin, .echoed line⟩ => time = origin ∧ PassedAt operations origin line
  | ⟨time, origin, .reported record⟩ => BlockAt operations origin time record

theorem BlockAt.start_lt {operations : List Operation} {start stop : Nat} {record : Diagnostic}
    (h : BlockAt operations start stop record) : start < stop := by
  obtain ⟨⟨header, hopen, -⟩, -⟩ := h
  have hlength := hopen.start_lt
  rw [List.length_take] at hlength
  exact (Nat.lt_min.mp hlength).1

/-- Only the operation with this number can have opened the block that is open. -/
def OpenOnlyAt (before : List Operation) (since : Nat) : Prop :=
  ∀ start header, OpenAt before start header → start = since

theorem openOnlyAt_append_singleton {before : List Operation} {since : Nat}
    (h : OpenOnlyAt before since) (operation : Operation) :
    OpenOnlyAt (before ++ [operation])
      (if operation.opens?.isSome then before.length else since) := by
  intro start header hopen
  rw [openAt_append_singleton] at hopen
  rcases hopen with ⟨hstart, hopens⟩ | ⟨hopen, hends⟩
  · simp [hstart, hopens]
  · simp [Operation.opens?_of_not_ends hends, h start header hopen]

variable {before rest operations : List Operation} {operation : Operation} {since : Nat}

theorem passes_iff_passedAt (rest : List Operation) (line : Text) :
    (operation.passes (Reader.after none before) = true ∧ line = operation.text) ↔
      PassedAt (before ++ operation :: rest) before.length line := by
  cases operation with
  | finish => simp [Operation.passes, PassedAt]
  | line text =>
    simp only [PassedAt, List.getElem?_append_right (Nat.le_refl _), Nat.sub_self,
      List.getElem?_cons_zero, List.take_left, Option.some.injEq, Operation.line.injEq,
      Operation.text, isPassed_eq_passes]
    constructor
    · rintro ⟨hpassed, rfl⟩
      exact ⟨rfl, hpassed⟩
    · rintro ⟨rfl, hpassed⟩
      exact ⟨hpassed, rfl⟩

theorem ends_iff_blockAt (rest : List Operation) (hsince : OpenOnlyAt before since) (origin : Nat)
    (record : Diagnostic) :
    (operation.ends = true ∧ Reader.after none before = some record ∧ origin = since) ↔
      BlockAt (before ++ operation :: rest) origin before.length record := by
  simp only [BlockAt, List.getElem?_append_right (Nat.le_refl _), Nat.sub_self,
    List.getElem?_cons_zero, List.take_left, Option.some.injEq, exists_eq_left',
    Reader.after_eq_some_iff]
  constructor
  · rintro ⟨hends, ⟨start, header, hopen, rfl⟩, rfl⟩
    obtain rfl := hsince start header hopen
    exact ⟨⟨header, hopen, rfl⟩, hends⟩
  · rintro ⟨⟨header, hopen, rfl⟩, hends⟩
    exact ⟨hends, ⟨origin, header, hopen, rfl⟩, hsince origin header hopen⟩

theorem echoed_mem_sends_iff {number time origin : Nat} {reader : Reader} {line : Text} :
    ⟨time, origin, .echoed line⟩ ∈ operation.sends number since reader ↔
      (operation.passes reader = true ∧ line = operation.text) ∧
        time = number ∧ origin = number := by
  rw [Operation.sends, Reader.operate_eq]
  cases hpasses : operation.passes reader with
  | false => simp
  | true => simp [and_comm, and_assoc]

theorem reported_mem_sends_iff {number time origin : Nat} {reader : Reader}
    {record : Diagnostic} :
    ⟨time, origin, .reported record⟩ ∈ operation.sends number since reader ↔
      (operation.ends = true ∧ reader = some record ∧ origin = since) ∧ time = number := by
  rw [Operation.sends, Reader.operate_eq]
  cases hends : operation.ends with
  | false => simp
  | true =>
    cases reader with
    | none => simp
    | some held =>
      simp only [↓reduceIte, Option.map_some, Option.toList_some, List.mem_append,
        List.mem_singleton, Sending.mk.injEq, Relay.reported.injEq, Option.some.injEq,
        true_and]
      constructor
      · rintro (hline | ⟨rfl, rfl, rfl⟩)
        · split_ifs at hline <;> simp at hline
        · exact ⟨⟨rfl, rfl⟩, rfl⟩
      · rintro ⟨⟨rfl, rfl⟩, rfl⟩
        exact Or.inr ⟨rfl, rfl, rfl⟩

/-- One operation sends out what is due at it. -/
theorem mem_sends_iff (hsince : OpenOnlyAt before since) (sending : Sending) :
    sending ∈ operation.sends before.length since (Reader.after none before) ↔
      sending.time = before.length ∧ sending.IsDue (before ++ operation :: rest) := by
  obtain ⟨time, origin, line | record⟩ := sending
  · rw [echoed_mem_sends_iff, passes_iff_passedAt rest]
    constructor
    · rintro ⟨hpassed, rfl, rfl⟩
      exact ⟨rfl, rfl, hpassed⟩
    · rintro ⟨rfl, rfl, hpassed⟩
      exact ⟨hpassed, rfl, rfl⟩
  · rw [reported_mem_sends_iff, ends_iff_blockAt rest hsince]
    constructor
    · rintro ⟨hblock, rfl⟩
      exact ⟨rfl, hblock⟩
    · rintro ⟨rfl, hblock⟩
      exact ⟨hblock, rfl⟩

/-- What is due is due at one of the operations. -/
theorem Sending.IsDue.time_lt {sending : Sending} (h : sending.IsDue operations) :
    sending.time < operations.length := by
  obtain ⟨time, origin, line | record⟩ := sending
  · obtain ⟨rfl, hline, -⟩ := h
    exact (List.getElem?_eq_some_iff.mp hline).1
  · obtain ⟨-, operation, hstop, -⟩ := h
    exact (List.getElem?_eq_some_iff.mp hstop).1

theorem Sending.IsDue.passedAt {sending : Sending} (h : sending.IsDue operations)
    (hline : sending.sent.line?.isSome = true) :
    sending.time = sending.origin ∧ ∃ line, PassedAt operations sending.origin line := by
  obtain ⟨time, origin, line | record⟩ := sending
  · exact ⟨h.1, line, h.2⟩
  · cases hline

theorem Sending.IsDue.blockAt {sending : Sending} (h : sending.IsDue operations)
    (hrecord : sending.sent.record?.isSome = true) :
    ∃ record, BlockAt operations sending.origin sending.time record := by
  obtain ⟨time, origin, line | record⟩ := sending
  · cases hrecord
  · exact ⟨record, h⟩

theorem mem_sendingsFrom_iff (hsince : OpenOnlyAt before since) (operations : List Operation)
    (sending : Sending) :
    sending ∈ sendingsFrom before.length since (Reader.after none before) operations ↔
      before.length ≤ sending.time ∧ sending.IsDue (before ++ operations) := by
  induction operations generalizing before since with
  | nil =>
    simp only [sendingsFrom, List.not_mem_nil, List.append_nil, false_iff, not_and]
    intro hlate hdue
    exact Nat.not_le.mpr hdue.time_lt hlate
  | cons operation rest ih =>
    have hrest := ih (openOnlyAt_append_singleton hsince operation)
    rw [List.length_append, List.length_singleton, Reader.after_append_singleton,
      List.append_assoc, List.singleton_append] at hrest
    have hcases : sending.time = before.length ∨ before.length + 1 ≤ sending.time ↔
        before.length ≤ sending.time := by omega
    rw [sendingsFrom, List.mem_append, mem_sends_iff hsince, hrest, ← or_and_right, hcases]

/-- What is sent out is what is due. -/
theorem mem_sendings_iff (operations : List Operation) (sending : Sending) :
    sending ∈ sendings operations ↔ sending.IsDue operations := by
  have hnone : OpenOnlyAt [] 0 := by
    intro start header hopen
    exact absurd hopen.start_lt (Nat.not_lt_zero _)
  have hmem := mem_sendingsFrom_iff hnone operations sending
  rw [List.nil_append] at hmem
  exact hmem.trans (and_iff_right (Nat.zero_le _))

theorem isDue_of_getElem? {number : Nat} {sending : Sending}
    (h : (sendings operations)[number]? = some sending) : sending.IsDue operations :=
  (mem_sendings_iff operations sending).mp (List.mem_of_getElem? h)

/-! ### The order of the operations -/

/-- Earlier, or at the same operation and a line before a record. -/
def Sending.Before (first second : Sending) : Prop :=
  first.time < second.time ∨
    (first.time = second.time ∧ first.sent.line?.isSome ∧ second.sent.record?.isSome)

theorem time_of_mem_sends {number : Nat} {reader : Reader} {sending : Sending}
    (h : sending ∈ operation.sends number since reader) : sending.time = number := by
  rcases List.mem_append.mp h with hline | hrecord
  · split_ifs at hline with hpasses
    · rw [List.mem_singleton.mp hline]
    · cases hline
  · obtain ⟨record, -, rfl⟩ := Option.map_eq_some_iff.mp (Option.mem_toList.mp hrecord)
    rfl

theorem le_time_of_mem_sendingsFrom {number : Nat} {reader : Reader} {sending : Sending}
    (h : sending ∈ sendingsFrom number since reader operations) : number ≤ sending.time := by
  induction operations generalizing number since reader with
  | nil => cases h
  | cons operation rest ih =>
    rcases List.mem_append.mp h with hfirst | hrest
    · exact Nat.le_of_eq (time_of_mem_sends hfirst).symm
    · exact Nat.le_of_succ_le (ih hrest)

theorem pairwise_sends (number since : Nat) (reader : Reader) (operation : Operation) :
    (operation.sends number since reader).Pairwise Sending.Before := by
  rw [Operation.sends]
  cases (reader.operate operation).1.completed <;>
    cases (reader.operate operation).1.passthrough <;>
      simp [Sending.Before, Relay.line?, Relay.record?]

theorem pairwise_sendingsFrom (number since : Nat) (reader : Reader)
    (operations : List Operation) :
    (sendingsFrom number since reader operations).Pairwise Sending.Before := by
  induction operations generalizing number since reader with
  | nil => exact List.Pairwise.nil
  | cons operation rest ih =>
    refine List.pairwise_append.mpr ⟨pairwise_sends number since reader operation, ih _ _ _, ?_⟩
    intro first hfirst second hsecond
    have hnow := time_of_mem_sends hfirst
    have hlater := le_time_of_mem_sendingsFrom hsecond
    exact Or.inl (by omega)

theorem pairwise_sendings (operations : List Operation) :
    (sendings operations).Pairwise Sending.Before := pairwise_sendingsFrom 0 0 none operations

/-- In a list that is in order, a line stands before a record exactly if it goes out no later. -/
theorem lt_iff_time_le {shown : List Sending} (hshown : shown.Pairwise Sending.Before)
    {p q : Nat} {echo report : Sending} (hecho : shown[p]? = some echo)
    (hreport : shown[q]? = some report) (hline : echo.sent.line?.isSome = true)
    (hrecord : report.sent.record?.isSome = true) : p < q ↔ echo.time ≤ report.time := by
  have hkind : ∀ sent : Relay, sent.line?.isSome = true → sent.record?.isSome = true → False := by
    rintro (line | record) hline hrecord
    · cases hrecord
    · cases hline
  obtain ⟨hp, rfl⟩ := List.getElem?_eq_some_iff.mp hecho
  obtain ⟨hq, rfl⟩ := List.getElem?_eq_some_iff.mp hreport
  have hordered := List.pairwise_iff_getElem.mp hshown
  constructor
  · intro hlt
    rcases hordered p q hp hq hlt with hearlier | ⟨hsame, -⟩
    · exact Nat.le_of_lt hearlier
    · exact Nat.le_of_eq hsame
  · intro hle
    rcases Nat.lt_trichotomy p q with hlt | rfl | hgt
    · exact hlt
    · exact (hkind _ hline hrecord).elim
    · -- the record would stand first, so it would be earlier, or at the same operation a line
      rcases hordered q p hq hp hgt with hearlier | ⟨-, hother, -⟩
      · exact absurd hearlier (Nat.not_lt.mpr hle)
      · exact (hkind _ hother hrecord).elim

/-! ### The order of the lines -/

/-- Every line that is echoed stands before exactly those records whose header lines come after
it. -/
def KeepsOrder (shown : List Sending) : Prop :=
  ∀ (p q : Nat) (echo report : Sending), shown[p]? = some echo → shown[q]? = some report →
    echo.sent.line?.isSome = true → report.sent.record?.isSome = true →
      (p < q ↔ echo.origin < report.origin)

theorem OpenAt.of_take {stop number start : Nat} {header : Diagnostic}
    (h : OpenAt (operations.take stop) start header) (hstart : start < number)
    (hnumber : number ≤ stop) : OpenAt (operations.take number) start header := by
  obtain ⟨hopens, hrest⟩ := h
  refine ⟨?_, ?_⟩
  · rw [List.getElem?_take_of_lt (Nat.lt_of_lt_of_le hstart hnumber)] at hopens
    rwa [List.getElem?_take_of_lt hstart]
  · intro operation hmem
    refine hrest operation ?_
    rw [List.drop_take] at hmem ⊢
    exact (List.take_prefix_take_left (Nat.sub_le_sub_right hnumber _)).mem hmem

theorem blockOpen_of_openAt {start : Nat} {header : Diagnostic} (h : OpenAt before start header) :
    blockOpen before = true := by
  rw [blockOpen_eq, (Reader.after_eq_some_iff before _).mpr ⟨start, header, h, rfl⟩]
  rfl

theorem PassedAt.header?_eq_none {number : Nat} {line : Text}
    (h : PassedAt operations number line) : header? line = none := by
  have hpassed := h.2
  simp only [isPassed, Bool.and_eq_true, Option.isNone_iff_eq_none] at hpassed
  exact hpassed.1

/-- A line that is passed on comes no later than the end of a block exactly if it comes before the
header line of the block or is itself the end. -/
theorem passed_le_iff {number start stop : Nat} {line : Text} {record : Diagnostic}
    (hpassed : PassedAt operations number line) (hblock : BlockAt operations start stop record) :
    number ≤ stop ↔ number < start ∨ number = stop := by
  have hstart := hblock.start_lt
  obtain ⟨⟨header, hopen, -⟩, -⟩ := hblock
  constructor
  · intro hle
    by_contra hinside
    rw [not_or, Nat.not_lt] at hinside
    obtain ⟨hafter, hstop⟩ := hinside
    have hbefore : number < stop := Nat.lt_of_le_of_ne hle hstop
    have hget : (operations.take stop)[number]? = some (.line line) := by
      rw [List.getElem?_take_of_lt hbefore]
      exact hpassed.1
    rcases Nat.eq_or_lt_of_le hafter with rfl | hlater
    · -- the header line of a block is not passed on
      have hopens := hopen.1
      rw [hget] at hopens
      have hheader : header? line = some header := hopens
      rw [hpassed.header?_eq_none] at hheader
      cases hheader
    · -- a line inside a block does not end it, and while it is open no other line is passed on
      have hmem : Operation.line line ∈ (operations.take stop).drop (start + 1) := by
        rw [List.mem_iff_getElem?]
        refine ⟨number - (start + 1), ?_⟩
        rw [List.getElem?_drop, Nat.add_sub_cancel' hlater, hget]
      have hends := hopen.2 _ hmem
      have hline := hpassed.2
      rw [isPassed, blockOpen_of_openAt (hopen.of_take hlater hle)] at hline
      simp_all [Operation.ends]
  · rintro (hlt | rfl)
    · omega
    · exact Nat.le_refl _

/-- A line that ends a block and opens none is passed on. -/
theorem BlockAt.passedAt {start stop : Nat} {line : Text} {record : Diagnostic}
    (hblock : BlockAt operations start stop record)
    (hstop : operations[stop]? = some (.line line)) (hheader : header? line = none) :
    PassedAt operations stop line := by
  obtain ⟨-, operation, hget, hends⟩ := hblock
  obtain rfl : operation = .line line := Option.some.inj (hget.symm.trans hstop)
  refine ⟨hstop, ?_⟩
  have hvisible : Text.allBlank line = false ∧ isIndented line = false := by
    simpa [Operation.ends, hheader] using hends
  simp [isPassed, hheader, hvisible]

/-- Where a line stands beside a record in what is sent out. -/
theorem lt_iff_origin {p q : Nat} {echo report : Sending}
    (hecho : (sendings operations)[p]? = some echo)
    (hreport : (sendings operations)[q]? = some report)
    (hline : echo.sent.line?.isSome = true) (hrecord : report.sent.record?.isSome = true) :
    p < q ↔ echo.origin < report.origin ∨ echo.origin = report.time := by
  obtain ⟨htime, line, hpassed⟩ := (isDue_of_getElem? hecho).passedAt hline
  obtain ⟨record, hblock⟩ := (isDue_of_getElem? hreport).blockAt hrecord
  rw [lt_iff_time_le (pairwise_sendings operations) hecho hreport hline hrecord, htime]
  exact passed_le_iff hpassed hblock

/-- The order of the lines is kept exactly if every block that a line ends is ended by a header
line. -/
theorem keepsOrder_iff (operations : List Operation) :
    KeepsOrder (sendings operations) ↔
      ∀ start stop record, BlockAt operations start stop record →
        ∀ line, operations[stop]? = some (.line line) → (header? line).isSome = true := by
  constructor
  · intro hkeeps start stop record hblock line hstop
    cases hheader : header? line with
    | some next => rfl
    | none =>
      -- the line goes out just before the record, although it comes after its header line
      have hpassed := hblock.passedAt hstop hheader
      obtain ⟨p, hp⟩ := List.mem_iff_getElem?.mp ((mem_sendings_iff operations
        ⟨stop, stop, .echoed line⟩).mpr ⟨rfl, hpassed⟩)
      obtain ⟨q, hq⟩ := List.mem_iff_getElem?.mp ((mem_sendings_iff operations
        ⟨stop, start, .reported record⟩).mpr hblock)
      have hfirst : p < q := (lt_iff_origin hp hq rfl rfl).mpr (Or.inr rfl)
      have hearlier : stop < start := (hkeeps p q _ _ hp hq rfl rfl).mp hfirst
      exact absurd hblock.start_lt (Nat.lt_asymm hearlier)
  · intro hended p q echo report hecho hreport hline hrecord
    rw [lt_iff_origin hecho hreport hline hrecord, or_iff_left]
    intro hend
    obtain ⟨-, line, hpassed⟩ := (isDue_of_getElem? hecho).passedAt hline
    obtain ⟨record, hblock⟩ := (isDue_of_getElem? hreport).blockAt hrecord
    have hheader := hended _ _ record hblock line (hend ▸ hpassed.1)
    rw [hpassed.header?_eq_none] at hheader
    cases hheader

end ScriptEmbed.Diagnostic
