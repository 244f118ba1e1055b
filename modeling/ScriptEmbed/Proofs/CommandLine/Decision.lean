import Mathlib.Data.List.Induction
import Mathlib.Tactic.SplitIfs
import ScriptEmbed.CommandLine.Messages

/-!
Which arguments are accepted, and what decides about the others. Taking one argument either goes on,
which only the first release flag can do, or decides (`parseArgument_eq_ok_iff`); by induction over
the arguments, few are accepted (`parse_eq_ok_iff`), and what has been decided is not revised by
further arguments (`parseFrom_append_of_error`). So the shortest front of the arguments that is not
accepted has the answer of all of them (`exists_deciding_front`).
-/

set_option autoImplicit false
set_option relaxedAutoImplicit false

namespace ScriptEmbed

namespace CommandLine

/-! ### One argument -/

theorem Flag.ofName?_eq_some_iff {name : Text} {flag : Flag} :
    Flag.ofName? name = some flag ↔ flag.name = name := by
  constructor
  · intro h
    simpa using List.find?_some h
  · rintro rfl
    cases flag <;> rfl

/-- A flag without a value is all name. -/
theorem eq_of_splitFlag_eq_none {flag name : Text} (h : splitFlag flag = (name, none)) :
    name = flag := by
  unfold splitFlag at h
  split at h
  · exact (congrArg Prod.fst h).symm
  · cases congrArg Prod.snd h

/-- A flag lets the parsing go on only if it is the release flag, which is taken once. -/
theorem parseFlag_eq_ok_iff {release again : Bool} {flag : Text} :
    parseFlag release flag = .ok again ↔
      flag = Flag.release.name ∧ release = false ∧ again = true := by
  constructor
  · intro h
    unfold parseFlag at h
    rcases hsplit : splitFlag flag with ⟨name, value⟩
    rw [hsplit] at h
    dsimp only at h
    split at h
    case h_5 hname =>
      split_ifs at h with hrelease
      cases h
      rw [← eq_of_splitFlag_eq_none hsplit, Flag.ofName?_eq_some_iff.mp hname]
      exact ⟨rfl, by simpa using hrelease, rfl⟩
    all_goals cases h
  · rintro ⟨rfl, rfl, rfl⟩
    rfl

/-- An argument that is no flag written out does not let it go on either. -/
theorem parseArgument_eq_ok_iff {release again : Bool} {argument : Text} :
    parseArgument release argument = .ok again ↔
      argument = Flag.release.text ∧ release = false ∧ again = true := by
  constructor
  · intro h
    unfold parseArgument at h
    split at h
    case h_1 flag =>
      obtain ⟨rfl, hrest⟩ := parseFlag_eq_ok_iff.mp h
      exact ⟨rfl, hrest⟩
    all_goals cases h
  · rintro ⟨rfl, hrest⟩
    exact parseFlag_eq_ok_iff.mpr ⟨rfl, hrest⟩

/-! ### The arguments that are accepted -/

/-- The release flag or nothing, and the two dashes that end the flags or nothing. -/
def choosing (release ended : Bool) : List Text :=
  (if release then ["--release".toList] else []) ++ if ended then ["--".toList] else []

theorem parseFrom_eq_ok_iff {release : Bool} {arguments : List Text} {options : Options} :
    parseFrom release arguments = .ok options ↔
      ∃ again ended, (release && again) = false ∧ arguments = choosing again ended ∧
        options = ⟨release || again⟩ := by
  constructor
  · intro h
    induction arguments generalizing release with
    | nil =>
      cases h
      exact ⟨false, false, by simp [choosing]⟩
    | cons argument rest ih =>
      unfold parseFrom at h
      split_ifs at h with hend
      · subst hend
        cases rest with
        | nil =>
          cases h
          exact ⟨false, true, by simp [choosing]⟩
        | cons next rest => cases h
      · cases hargument : parseArgument release argument with
        | error stop =>
          rw [hargument] at h
          cases h
        | ok released =>
          rw [hargument] at h
          -- The release flag has been taken, so the rest does not take it again.
          obtain ⟨rfl, rfl, rfl⟩ := parseArgument_eq_ok_iff.mp hargument
          obtain ⟨again, ended, hagain, rfl, rfl⟩ := ih h
          obtain rfl : again = false := by simpa using hagain
          exact ⟨true, ended, rfl, rfl, rfl⟩
  · rintro ⟨again, ended, hagain, rfl, rfl⟩
    cases release <;> cases again <;> cases ended <;> first | rfl | cases hagain

theorem parse_eq_ok_iff {argv : List Text} {options : Options} :
    parse argv = .ok options ↔ ∃ ended, argv.tail = choosing options.release ended := by
  unfold parse
  rw [parseFrom_eq_ok_iff]
  constructor
  · rintro ⟨again, ended, -, harguments, rfl⟩
    exact ⟨ended, harguments⟩
  · rintro ⟨ended, harguments⟩
    exact ⟨options.release, ended, rfl, harguments, rfl⟩

theorem release_mem_choosing_iff {release ended : Bool} :
    "--release".toList ∈ choosing release ended ↔ release = true := by
  cases release <;> cases ended <;> decide

theorem profile_eq_release_iff {options : Options} :
    options.profile = .release ↔ options.release = true := by
  obtain ⟨release⟩ := options
  cases release <;> decide

/-! ### The argument that decides -/

/-- What is answered to arguments that choose nothing. -/
structure Refusal where
  stop : Stop
  message : Styled
  exitCode : Nat
  stream : Stream

/-- The options that the arguments choose, or the answer to them. -/
def answer (argv : List Text) : Except Refusal Options :=
  match parse argv with
  | .ok options => .ok options
  | .error stop => .error
    { stop := stop
      message := stop.message (shownName argv)
      exitCode := stop.exitCode
      stream := stop.stream }

/-- Once an argument has decided, further arguments are not looked at. -/
theorem parseFrom_append_of_error {release : Bool} {arguments : List Text} {stop : Stop}
    (h : parseFrom release arguments = .error stop) (further : List Text) :
    parseFrom release (arguments ++ further) = .error stop := by
  induction arguments generalizing release with
  | nil => cases h
  | cons argument rest ih =>
    rw [List.cons_append]
    unfold parseFrom at h ⊢
    split_ifs at h ⊢ with hend
    · cases rest with
      | nil => cases h
      | cons next rest => exact h
    · cases hargument : parseArgument release argument with
      | error decided => simpa only [hargument] using h
      | ok released =>
        simp only [hargument] at h ⊢
        exact ih h

theorem answer_eq_ok_iff {argv : List Text} {options : Options} :
    answer argv = .ok options ↔ parse argv = .ok options := by
  unfold answer
  split
  case h_1 chosen hparse => simp [hparse]
  case h_2 stop hparse => simp [hparse]

theorem answer_eq_error_iff {argv : List Text} {refusal : Refusal} :
    answer argv = .error refusal ↔
      ∃ stop, parse argv = .error stop ∧
        refusal = ⟨stop, stop.message (shownName argv), stop.exitCode, stop.stream⟩ := by
  unfold answer
  split
  case h_1 options hparse => simp [hparse]
  case h_2 stop hparse => simp [hparse, eq_comm]

/-- The answer does not depend on them either: the program's name, which it shows, has been read. -/
theorem answer_append_of_error {argv : List Text} {refusal : Refusal}
    (h : answer argv = .error refusal) (further : List Text) :
    answer (argv ++ further) = .error refusal := by
  obtain ⟨stop, hparse, rfl⟩ := answer_eq_error_iff.mp h
  cases argv with
  | nil => cases hparse
  | cons program arguments =>
    exact answer_eq_error_iff.mpr ⟨stop, parseFrom_append_of_error hparse further, rfl⟩

/-- Of the fronts of the arguments, which are tried from the shortest on, the first that is not
accepted has the answer of all arguments. -/
theorem exists_deciding_front {argv : List Text} {refusal : Refusal}
    (h : answer argv = .error refusal) :
    ∃ front, front <+: argv ∧ answer front = .error refusal ∧
      ∀ shorter, shorter <+: front → shorter ≠ front → ∃ options, answer shorter = .ok options := by
  induction argv using List.reverseRecOn with
  | nil => cases h
  | append_singleton before argument ih =>
    cases hbefore : answer before with
    | error earlier =>
      cases (answer_append_of_error hbefore [argument]).symm.trans h
      obtain ⟨front, hfront, hanswer, hshortest⟩ := ih hbefore
      exact ⟨front, hfront.trans (List.prefix_append before [argument]), hanswer, hshortest⟩
    | ok options =>
      refine ⟨before ++ [argument], List.prefix_rfl, h, fun shorter hshorter hne ↦ ?_⟩
      obtain ⟨after, rfl⟩ := (List.prefix_concat_iff.mp hshorter).resolve_left hne
      cases hanswer : answer shorter with
      | ok options => exact ⟨options, rfl⟩
      | error earlier =>
        cases (answer_append_of_error hanswer after).symm.trans hbefore

/-- The command line is decided from left to right. Accepted are no arguments or the release flag,
and after it the two dashes that end the flags or nothing; the profile is then the one that the flag
chooses. The answer to all other arguments, the whole message with its exit code, is the answer to
the shortest front of them that is not accepted, and stays so whatever comes after that front. -/
theorem answer_decided_by_front (argv : List Text) :
    (∀ options, answer argv = .ok options ↔
      ∃ ended, argv.tail = choosing options.release ended) ∧
    (∀ options, answer argv = .ok options →
      (options.profile = .release ↔ "--release".toList ∈ argv.tail)) ∧
    ∀ refusal, answer argv = .error refusal →
      ∃ front, front <+: argv ∧
        (∀ shorter, shorter <+: front → shorter ≠ front →
          ∃ options, answer shorter = .ok options) ∧
        ∀ further, answer (front ++ further) = .error refusal := by
  refine ⟨fun options ↦ ?_, fun options h ↦ ?_, fun refusal h ↦ ?_⟩
  · rw [answer_eq_ok_iff, parse_eq_ok_iff]
  · obtain ⟨ended, harguments⟩ := parse_eq_ok_iff.mp (answer_eq_ok_iff.mp h)
    rw [harguments, release_mem_choosing_iff, profile_eq_release_iff]
  · obtain ⟨front, hfront, hanswer, hshortest⟩ := exists_deciding_front h
    exact ⟨front, hfront, hshortest, answer_append_of_error hanswer⟩

/-- The release flag twice, before a flag that asks for help. -/
theorem answer_decided_by_front_twice :
    ∃ refusal, refusal.stop = .misuse .repeatedRelease ∧ refusal.exitCode = 2 ∧
      answer ["eslint-embed".toList, "--release".toList, "--release".toList, "--help".toList] =
        .error refusal ∧
      ∃ front, front <+: ["eslint-embed".toList, "--release".toList, "--release".toList,
        "--help".toList] ∧ ∀ further, answer (front ++ further) = .error refusal := by
  have hparse : parse ["eslint-embed".toList, "--release".toList, "--release".toList,
      "--help".toList] = .error (.misuse .repeatedRelease) := rfl
  have hrefused := answer_eq_error_iff.mpr ⟨_, hparse, rfl⟩
  obtain ⟨-, -, hdecided⟩ := answer_decided_by_front
    ["eslint-embed".toList, "--release".toList, "--release".toList, "--help".toList]
  obtain ⟨front, hfront, -, hfixed⟩ := hdecided _ hrefused
  exact ⟨_, rfl, rfl, hrefused, front, hfront, hfixed⟩

end CommandLine

end ScriptEmbed
