import ScriptEmbed.Json.Skip
import ScriptEmbed.Manifest.Basic

/-!
Reading a manifest from a JSON text. It is an object, whose unknown members are passed over, or a
list of the four fields in their order. A field may be given once; in the maps of requirements the
last value of a repeated name counts.
-/

set_option autoImplicit false
set_option relaxedAutoImplicit false

namespace ScriptEmbed.Manifest

open Json

/-! ### Values -/

/-- The fault of a value of the wrong kind; a scalar is read first and may be at fault itself. -/
def wrongKind (expected : Expected) : Text → Fault
  | [] => .peeked .endInValue []
  | c :: text =>
    let scalar (found : Found) (result : Except Fault Text) : Fault :=
      match result with
      | .error fault => fault
      | .ok rest => ⟨.invalidType found expected, rest, 0⟩
    let numeric (result : Reading Found) : Fault :=
      match result with
      | .error fault => fault
      | .ok (found, rest) => ⟨.invalidType found expected, rest, 0⟩
    if c = 'n' then scalar .null (word "ull".toList text)
    else if c = 't' then scalar (.boolean true) (word "rue".toList text)
    else if c = 'f' then scalar (.boolean false) (word "alse".toList text)
    else if c = '-' then numeric (number true text)
    else if isDigit c then numeric (number false (c :: text))
    else if c = '"' then numeric (mapValue .string (string text))
    else if c = '[' then ⟨.invalidType .sequence expected, c :: text, 0⟩
    else if c = '\x7b' then ⟨.invalidType .map expected, c :: text, 0⟩
    else .peeked .valueExpected (c :: text)

def readString (text : Text) : Reading Text :=
  match skipBlanks text with
  | '"' :: rest => string rest
  | rest => .error (wrongKind .string rest)

/-- A string, or nothing where the text has `null`. -/
def readOptionalString (text : Text) : Reading (Option Text) :=
  match skipBlanks text with
  | 'n' :: rest => (word "ull".toList rest).map fun rest ↦ (none, rest)
  | rest => mapValue some (readString rest)

/-- The next key of an object whose opening brace, or whose last value, has been read; or nothing,
with the closing brace still ahead. -/
def nextKey (first : Bool) (text : Text) : Reading (Option Text) :=
  let key : Text → Reading (Option Text)
    | '"' :: rest => mapValue some (string rest)
    | [] => .error (.peeked .endInValue [])
    | c :: rest =>
      .error (.peeked (if c = '\x7d' then .trailingComma else .keyNotString) (c :: rest))
  match skipBlanks text with
  | [] => .error (.peeked .endInObject [])
  | c :: rest =>
    if c = '\x7d' then .ok (none, c :: rest)
    else if first then key (c :: rest)
    else if c = ',' then key (skipBlanks rest)
    else .error (.peeked .objectCommaOrEndExpected (c :: rest))

theorem readString_length {text rest value : Text} (h : readString text = .ok (value, rest)) :
    rest.length < text.length := by
  have hblanks := skipBlanks_length text
  unfold readString at h
  split at h
  · next heq =>
    have := stringFrom_length h
    rw [heq, List.length_cons] at hblanks
    omega
  · cases h

theorem nextKey_length {first : Bool} {text rest key : Text}
    (h : nextKey first text = .ok (some key, rest)) : rest.length < text.length := by
  have hblanks := skipBlanks_length text
  have of_string {inner : Text} (h : mapValue some (string inner) = .ok (some key, rest)) :
      rest.length < inner.length := by
    obtain ⟨_, hstring, _⟩ := mapValue_eq_ok h
    exact stringFrom_length hstring
  unfold nextKey at h
  dsimp only at h
  split at h
  · cases h
  · next c after heq =>
    rw [heq] at hblanks
    split at h
    · cases h
    split at h
    · split at h
      · next hcons =>
        cases hcons
        have := of_string h
        simp only [List.length_cons] at hblanks
        omega
      · cases h
      · cases h
    split at h
    · split at h
      · next hcons =>
        have hinner := skipBlanks_length after
        rw [hcons] at hinner
        have := of_string h
        simp only [List.length_cons] at hblanks hinner
        omega
      · cases h
      · cases h
    · cases h

theorem nextKey_none {first : Bool} {text rest : Text} (h : nextKey first text = .ok (none, rest)) :
    rest = skipBlanks text := by
  have not_string {inner : Text} (h : mapValue some (string inner) = .ok (none, rest)) : False := by
    obtain ⟨_, _, hsome⟩ := mapValue_eq_ok h
    cases hsome
  unfold nextKey at h
  dsimp only at h
  split at h
  · cases h
  · next heq =>
    split at h
    · cases h; exact heq.symm
    split at h
    · split at h
      · exact (not_string h).elim
      · cases h
      · cases h
    split at h
    · split at h
      · exact (not_string h).elim
      · cases h
      · cases h
    · cases h

/-- The members of a map of requirements, after those read so far. -/
def requirementsFrom (first : Bool) (read : Requirements) (text : Text) : Reading Requirements :=
  match _ : nextKey first text with
  | .error fault => .error fault
  | .ok (none, rest) => .ok (read, rest.drop 1)
  | .ok (some key, rest) =>
    match _ : skipColon rest with
    | .error fault => .error fault
    | .ok rest =>
      match _ : readString rest with
      | .error fault => .error fault
      | .ok (value, rest) => requirementsFrom false (read.insert key value) rest
termination_by text.length
decreasing_by
  next hkey _ hcolon hvalue =>
  have := nextKey_length hkey
  have := skipColon_length hcolon
  have := readString_length hvalue
  omega

def readRequirements (text : Text) : Reading Requirements :=
  match skipBlanks text with
  | '\x7b' :: rest => requirementsFrom true [] rest
  | rest => .error (wrongKind .map rest)

/-! ### The manifest -/

/-- The fields read so far. -/
structure Draft where
  name : Option (Option Text) := none
  version : Option (Option Text) := none
  dependencies : Option Requirements := none
  devDependencies : Option Requirements := none

/-- Fields that were not given are empty. -/
def Draft.manifest (draft : Draft) : Manifest where
  name := draft.name.getD none
  version := draft.version.getD none
  dependencies := draft.dependencies.getD []
  devDependencies := draft.devDependencies.getD []

/-- The fault of a field given twice. The blanks after its name, and a closing brace there, count
as passed. -/
def repeated (name rest : Text) : Fault :=
  match skipBlanks rest with
  | '\x7d' :: rest => ⟨.duplicateField name, rest, 0⟩
  | rest => ⟨.duplicateField name, rest, 0⟩

/-- Reads the value of a field that must not have been given before. -/
def readField {α : Type} (name : Text) (before : Option α) (read : Text → Reading α)
    (rest : Text) : Reading α :=
  match before with
  | some _ => .error (repeated name rest)
  | none =>
    match skipColon rest with
    | .error fault => .error fault
    | .ok rest => read rest

def nameField : Text := "name".toList
def versionField : Text := "version".toList
def dependenciesField : Text := "dependencies".toList
def devDependenciesField : Text := "devDependencies".toList

/-- One member of the object, from the end of its key on. -/
def readMember (draft : Draft) (key rest : Text) : Reading Draft :=
  if key = nameField then
    mapValue (fun value ↦ { draft with name := some value })
      (readField key draft.name readOptionalString rest)
  else if key = versionField then
    mapValue (fun value ↦ { draft with version := some value })
      (readField key draft.version readOptionalString rest)
  else if key = dependenciesField then
    mapValue (fun value ↦ { draft with dependencies := some value })
      (readField key draft.dependencies readRequirements rest)
  else if key = devDependenciesField then
    mapValue (fun value ↦ { draft with devDependencies := some value })
      (readField key draft.devDependencies readRequirements rest)
  else
    match skipColon rest with
    | .error fault => .error fault
    | .ok rest => (skipValue rest).map fun rest ↦ (draft, rest)

theorem requirementsFrom_length {first : Bool} {read value : Requirements} {text rest : Text}
    (h : requirementsFrom first read text = .ok (value, rest)) : rest.length ≤ text.length := by
  fun_induction requirementsFrom first read text with
  | case1 => cases h
  | case2 first _ text rest hkey =>
    cases h
    have hblanks := skipBlanks_length text
    rw [nextKey_none hkey, List.length_drop]
    omega
  | case3 => cases h
  | case4 => cases h
  | case5 _ _ _ _ _ hkey _ hcolon _ _ hvalue ih =>
    have := nextKey_length hkey
    have := skipColon_length hcolon
    have := readString_length hvalue
    have := ih h
    omega

theorem readRequirements_length {text rest : Text} {value : Requirements}
    (h : readRequirements text = .ok (value, rest)) : rest.length ≤ text.length := by
  have hblanks := skipBlanks_length text
  unfold readRequirements at h
  split at h
  · next heq =>
    have := requirementsFrom_length h
    rw [heq, List.length_cons] at hblanks
    omega
  · cases h

theorem readOptionalString_length {text rest : Text} {value : Option Text}
    (h : readOptionalString text = .ok (value, rest)) : rest.length ≤ text.length := by
  have hblanks := skipBlanks_length text
  unfold readOptionalString at h
  split at h
  · next after heq =>
    cases hword : word "ull".toList after with
    | error fault => rw [hword] at h; cases h
    | ok result =>
      rw [hword] at h
      cases h
      have := word_length hword
      rw [heq, List.length_cons] at hblanks
      omega
  · obtain ⟨_, hstring, _⟩ := mapValue_eq_ok h
    have := readString_length hstring
    omega

theorem readField_length {α : Type} {name rest after : Text} {before : Option α} {value : α}
    {read : Text → Reading α}
    (hread : ∀ text rest value, read text = .ok (value, rest) → rest.length ≤ text.length)
    (h : readField name before read rest = .ok (value, after)) : after.length ≤ rest.length := by
  unfold readField at h
  split at h
  · cases h
  · split at h
    · cases h
    · next hcolon => exact Nat.le_trans (hread _ _ _ h) (skipColon_length hcolon)

theorem readMember_length {draft result : Draft} {key rest after : Text}
    (h : readMember draft key rest = .ok (result, after)) : after.length ≤ rest.length := by
  have of_field {α : Type} {name : Text} {before : Option α} {read : Text → Reading α}
      {build : α → Draft}
      (hread : ∀ text rest value, read text = .ok (value, rest) → rest.length ≤ text.length)
      (h : mapValue build (readField name before read rest) = .ok (result, after)) :
      after.length ≤ rest.length := by
    obtain ⟨_, hfield, _⟩ := mapValue_eq_ok h
    exact readField_length hread hfield
  unfold readMember at h
  split at h
  · exact of_field (fun _ _ _ ↦ readOptionalString_length) h
  split at h
  · exact of_field (fun _ _ _ ↦ readOptionalString_length) h
  split at h
  · exact of_field (fun _ _ _ ↦ readRequirements_length) h
  split at h
  · exact of_field (fun _ _ _ ↦ readRequirements_length) h
  · split at h
    · cases h
    · next inner hcolon =>
      cases hvalue : skipValue inner with
      | error fault => rw [hvalue] at h; cases h
      | ok left =>
        rw [hvalue] at h
        cases h
        exact Nat.le_trans (skipFrom_length hvalue) (skipColon_length hcolon)

/-- The members of the object, after those read so far. -/
def membersFrom (first : Bool) (draft : Draft) (text : Text) : Reading Draft :=
  match _ : nextKey first text with
  | .error fault => .error fault
  | .ok (none, rest) => .ok (draft, rest.drop 1)
  | .ok (some key, rest) =>
    match _ : readMember draft key rest with
    | .error fault => .error fault
    | .ok (draft, rest) => membersFrom false draft rest
termination_by text.length
decreasing_by
  next hkey hmember =>
  have := nextKey_length hkey
  have := readMember_length hmember
  omega

/-- Whether a list whose opening bracket, or whose last element, has been read has one more. -/
def nextElement (first : Bool) (text : Text) : Reading Bool :=
  match skipBlanks text with
  | [] => .error (.peeked .endInList [])
  | c :: rest =>
    if c = ']' then .ok (false, c :: rest)
    else if first then .ok (true, c :: rest)
    else if c = ',' then
      match skipBlanks rest with
      | [] => .error (.peeked .endInValue [])
      | ']' :: rest => .error (.peeked .trailingComma (']' :: rest))
      | rest => .ok (true, rest)
    else .error (.peeked .listCommaOrEndExpected (c :: rest))

/-- An element of the list; a list that is too short is at fault if the element has no default. -/
def readElement {α : Type} (index : Nat) (default : Option α) (read : Text → Reading α)
    (text : Text) : Reading α :=
  match nextElement (index = 0) text with
  | .error fault => .error fault
  | .ok (true, rest) => read rest
  | .ok (false, rest) =>
    match default with
    | some value => .ok (value, rest)
    | none => .error ⟨.invalidLength index, rest.drop 1, 0⟩

/-- The end of the list, which has no fifth element. -/
def endList (text : Text) : Except Fault Text :=
  match skipBlanks text with
  | [] => .error (.peeked .endInList [])
  | ']' :: rest => .ok rest
  | ',' :: rest =>
    match skipBlanks rest with
    | ']' :: rest => .error (.peeked .trailingComma (']' :: rest))
    | rest => .error (.peeked .trailingCharacters rest)
  | rest => .error (.peeked .trailingCharacters rest)

/-- The four fields in their order; the two maps may be left out. -/
def readList (text : Text) : Except Fault (Manifest × Text) := do
  let (name, rest) ← readElement 0 none readOptionalString text
  let (version, rest) ← readElement 1 none readOptionalString rest
  let (dependencies, rest) ← readElement 2 (some []) readRequirements rest
  let (devDependencies, rest) ← readElement 3 (some []) readRequirements rest
  let rest ← endList rest
  return (⟨name, version, dependencies, devDependencies⟩, rest)

def readValue (text : Text) : Reading Manifest :=
  match skipBlanks text with
  | '{' :: rest => mapValue Draft.manifest (membersFrom true {} rest)
  | '[' :: rest => readList rest
  | rest => .error (wrongKind .manifest rest)

/-- The manifest that a text holds, with nothing but blanks around it. -/
def parse (text : Text) : Except Fault Manifest :=
  match readValue text with
  | .error fault => .error fault
  | .ok (manifest, rest) =>
    match skipBlanks rest with
    | [] => .ok manifest
    | rest => .error (.peeked .trailingCharacters rest)

end ScriptEmbed.Manifest
