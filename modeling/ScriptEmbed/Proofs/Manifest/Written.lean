import ScriptEmbed.Manifest.Reader
import ScriptEmbed.Proofs.Json.Passing

/-!
Manifests as they may be written, and what reading makes of them. A manifest is written as an object
whose members give a field each or are of another key and hold any value. The reader takes members
one at a time, and each of them moves it on to the blanks before the comma or the brace that follows
(`membersFrom_takesItems`); so does each entry of a map of requirements
(`requirementsFrom_takesItems`). What any such loop makes of an object follows by one induction on
the items between the commas (`TakesItems.separated`). No field may be given twice, which is what
the members are required to respect as they are taken (`Allowed`).
-/

set_option autoImplicit false
set_option relaxedAutoImplicit false

namespace ScriptEmbed

open Json

/-- The requirements that entries make, one after another. -/
def Requirements.ofEntries (entries : List (Text × Text)) : Requirements :=
  entries.foldl (fun requirements entry ↦ requirements.insert entry.1 entry.2) []

namespace Manifest

/-! ### The written form -/

def fieldNames : List Text := [nameField, versionField, dependenciesField, devDependenciesField]

/-- A member of the object that a manifest is written as. -/
inductive Member
  | name (value : Option Text)
  | version (value : Option Text)
  | dependencies (entries : List (Text × Text))
  | devDependencies (entries : List (Text × Text))
  | other (key : Text) (unknown : key ∉ fieldNames)

def Member.key : Member → Text
  | .name _ => nameField
  | .version _ => versionField
  | .dependencies _ => dependenciesField
  | .devDependencies _ => devDependenciesField
  | .other key _ => key

inductive WrittenOptional : Option Text → Text → Prop
  | null : WrittenOptional none "null".toList
  | string {value text : Text} (h : WrittenString value text) : WrittenOptional (some value) text

def WrittenEntry (entry : Text × Text) (text : Text) : Prop :=
  ∃ value, WrittenString entry.2 value ∧ WrittenMember entry.1 value text

/-- What a member's value may be written as. -/
def Member.WrittenValue : Member → Text → Prop
  | .name value => WrittenOptional value
  | .version value => WrittenOptional value
  | .dependencies entries => WrittenObject WrittenEntry entries
  | .devDependencies entries => WrittenObject WrittenEntry entries
  | .other _ _ => IsValue

def Member.Written (member : Member) (text : Text) : Prop :=
  ∃ value, member.WrittenValue value ∧ WrittenMember member.key value text

/-- A text that is an object of these members, with blanks around it. -/
inductive Document (members : List Member) : Text → Prop
  | mk {before object after : Text} (hbefore : IsWhite before)
      (hobject : WrittenObject Member.Written members object) (hafter : IsWhite after) :
      Document members (before ++ object ++ after)

/-! ### Tokens -/

section

variable {white rest text value key body before : Text} {first : Bool}

theorem readString_written (hvalue : WrittenString value text) (hwhite : IsWhite white)
    (rest : Text) : readString (white ++ (text ++ rest)) = .ok (value, rest) := by
  obtain ⟨body, hbody, rfl⟩ := hvalue
  have hquote : skipBlanks (white ++ ('"' :: body ++ ['"'] ++ rest)) =
      '"' :: (body ++ '"' :: rest) := by
    simpa using skipBlanks_white_cons hwhite (show isBlank '"' = false from rfl)
      (body ++ '"' :: rest)
  simp only [readString, hquote, string_spells hbody]

theorem readOptionalString_written {value : Option Text} (hvalue : WrittenOptional value text)
    (hwhite : IsWhite white) (rest : Text) :
    readOptionalString (white ++ (text ++ rest)) = .ok (value, rest) := by
  cases hvalue with
  | null =>
    have hnull : skipBlanks (white ++ ("null".toList ++ rest)) = 'n' :: ("ull".toList ++ rest) :=
      skipBlanks_white_cons hwhite rfl _
    simp only [readOptionalString, hnull]
    rfl
  | string hstring =>
    have hread := readString_written hstring hwhite rest
    obtain ⟨body, -, rfl⟩ := hstring
    have hquote : skipBlanks (white ++ ('"' :: body ++ ['"'] ++ rest)) =
        '"' :: (body ++ ['"'] ++ rest) :=
      skipBlanks_white_cons hwhite rfl _
    have hagain : readString ('"' :: (body ++ ['"'] ++ rest)) =
        readString (white ++ ('"' :: body ++ ['"'] ++ rest)) := by
      rw [readString, readString, hquote, skipBlanks_of_visible rfl]
    simp only [readOptionalString, hquote]
    change mapValue some (readString ('"' :: (body ++ ['"'] ++ rest))) = _
    rw [hagain, hread]
    rfl

/-- What stands before a member: nothing before the first, and a comma before any other. -/
def lead (first : Bool) : Text := if first then [] else [',']

theorem nextKey_member (hwhite : IsWhite white) (hbefore : IsWhite before)
    (hbody : Spells key body) (first : Bool) (rest : Text) :
    nextKey first (white ++ (lead first ++ (before ++ '"' :: (body ++ '"' :: rest)))) =
      .ok (some key, rest) := by
  have hquote : skipBlanks (before ++ '"' :: (body ++ '"' :: rest)) =
      '"' :: (body ++ '"' :: rest) := skipBlanks_white_cons hbefore rfl _
  have hread := string_spells hbody rest
  cases first with
  | true =>
    have hstart : skipBlanks (white ++ (lead true ++ (before ++ '"' :: (body ++ '"' :: rest)))) =
        '"' :: (body ++ '"' :: rest) := (skipBlanks_white hwhite _).trans hquote
    simp [nextKey, hstart, hread, mapValue]
  | false =>
    have hcomma : skipBlanks (white ++ (lead false ++ (before ++ '"' :: (body ++ '"' :: rest)))) =
        ',' :: (before ++ '"' :: (body ++ '"' :: rest)) := skipBlanks_white_cons hwhite rfl _
    simp [nextKey, hcomma, hquote, hread, mapValue]

theorem nextKey_closing (hwhite : IsWhite white) (first : Bool) (rest : Text) :
    nextKey first (white ++ '\x7d' :: rest) = .ok (none, '\x7d' :: rest) := by
  have hbrace : skipBlanks (white ++ '\x7d' :: rest) = '\x7d' :: rest :=
    skipBlanks_white_cons hwhite rfl rest
  simp [nextKey, hbrace]

end

/-! ### Loops over members -/

section

variable {σ α : Type} {loop : Bool → σ → Text → Reading σ} {take : σ → α → σ}
variable {Fits : σ → α → Prop} {Item : α → Text → Prop} {items : List α} {text white : Text}

/-- A loop that reads up to a closing brace, and that takes a fitting item and stops at the blanks
behind it. -/
structure TakesItems (loop : Bool → σ → Text → Reading σ) (take : σ → α → σ)
    (Fits : σ → α → Prop) (Item : α → Text → Prop) : Prop where
  closing : ∀ first state {white} rest, IsWhite white →
    loop first state (white ++ '\x7d' :: rest) = .ok (state, rest)
  item : ∀ first {state item text white} c rest, Fits state item → Item item text →
    IsWhite white → c ∈ [',', ']', '\x7d'] → ∃ last, IsWhite last ∧
      loop first state (white ++ (lead first ++ (text ++ c :: rest))) =
        loop false (take state item) (last ++ c :: rest)

/-- That each item fits what those before it have led to. -/
def Allowed (Fits : σ → α → Prop) (take : σ → α → σ) : σ → List α → Prop
  | _, [] => True
  | state, item :: items => Fits state item ∧ Allowed Fits take (take state item) items

theorem TakesItems.separated (hloop : TakesItems loop take Fits Item)
    (hitems : Separated Item items text) (first : Bool) (state : σ) (hwhite : IsWhite white)
    (hallowed : Allowed Fits take state items) (rest : Text) :
    loop first state (white ++ (lead first ++ (text ++ '\x7d' :: rest))) =
      .ok (items.foldl take state, rest) := by
  induction hitems generalizing first state white with
  | last htext =>
    obtain ⟨last, hlast, hread⟩ :=
      hloop.item first '\x7d' rest hallowed.1 htext hwhite (by decide)
    rw [hread, hloop.closing _ _ _ hlast]
    rfl
  | @more item items text others htext _ ih =>
    obtain ⟨last, hlast, hread⟩ :=
      hloop.item first ',' (others ++ '\x7d' :: rest) hallowed.1 htext hwhite (by decide)
    rw [List.append_assoc, List.cons_append, hread]
    exact ih false (take state item) hlast hallowed.2

theorem allowed_of_forall (h : ∀ state item, Fits state item) (state : σ) (items : List α) :
    Allowed Fits take state items := by
  induction items generalizing state with
  | nil => trivial
  | cons item items ih => exact ⟨h state item, ih _⟩

/-- Such a loop reads an object from its opening brace on. -/
theorem TakesItems.object (hloop : TakesItems loop take Fits Item)
    (hobject : WrittenObject Item items text) (state : σ)
    (hallowed : Allowed Fits take state items) (rest : Text) :
    ∃ inner, text ++ rest = '\x7b' :: inner ∧
      loop true state inner = .ok (items.foldl take state, rest) := by
  cases hobject with
  | @empty white hwhite =>
    exact ⟨white ++ '\x7d' :: rest, by simp, hloop.closing true state rest hwhite⟩
  | @members _ text hitems =>
    have hnothing : IsWhite [] := by simp [IsWhite]
    exact ⟨text ++ '\x7d' :: rest, by simp,
      hloop.separated hitems true state hnothing hallowed rest⟩

end

/-! ### Maps of requirements -/

section

variable {first : Bool} {read : Requirements} {text white rest key after value left : Text}

theorem requirementsFrom_eq (first : Bool) (read : Requirements) (text : Text) :
    requirementsFrom first read text =
      match nextKey first text with
      | .error fault => .error fault
      | .ok (none, rest) => .ok (read, rest.drop 1)
      | .ok (some key, rest) =>
        match skipColon rest with
        | .error fault => .error fault
        | .ok rest =>
          match readString rest with
          | .error fault => .error fault
          | .ok (value, rest) => requirementsFrom false (read.insert key value) rest := by
  conv_lhs => rw [requirementsFrom]
  split
  · next hkey => rw [hkey]
  · next hkey => rw [hkey]
  · next hkey =>
    simp only [hkey]
    split
    · next hcolon => rw [hcolon]
    · next hcolon =>
      simp only [hcolon]
      split <;> next hvalue => rw [hvalue]

theorem requirementsFrom_key (hkey : nextKey first text = .ok (some key, rest))
    (hcolon : skipColon rest = .ok after) (hvalue : readString after = .ok (value, left)) :
    requirementsFrom first read text = requirementsFrom false (read.insert key value) left := by
  rw [requirementsFrom_eq, hkey]
  simp only [hcolon, hvalue]

end

theorem requirementsFrom_takesItems :
    TakesItems requirementsFrom (fun read entry ↦ read.insert entry.1 entry.2) (fun _ _ ↦ True)
      WrittenEntry where
  closing first read white rest hwhite := by
    rw [requirementsFrom_eq, nextKey_closing hwhite]
    rfl
  item first read entry text white c rest _ hentry hwhite _ := by
    obtain ⟨value, hvalue, hmember⟩ := hentry
    cases hmember with
    | @mk before body middle after last hbefore hbody hmiddle hafter hlast =>
      refine ⟨last, hlast, ?_⟩
      have hread := readString_written hvalue hafter (last ++ c :: rest)
      refine Eq.trans (congrArg _ ?_) (requirementsFrom_key
        (nextKey_member hwhite hbefore hbody first _) (skipColon_white hmiddle _) hread)
      simp

theorem readRequirements_written {entries : List (Text × Text)} {text white : Text}
    (h : WrittenObject WrittenEntry entries text) (hwhite : IsWhite white) (rest : Text) :
    readRequirements (white ++ (text ++ rest)) = .ok (Requirements.ofEntries entries, rest) := by
  obtain ⟨inner, htext, hread⟩ := requirementsFrom_takesItems.object h []
    (allowed_of_forall (fun _ _ ↦ trivial) [] entries) rest
  have hbrace : skipBlanks (white ++ '\x7b' :: inner) = '\x7b' :: inner :=
    skipBlanks_white_cons hwhite rfl inner
  rw [htext]
  simp only [readRequirements, hbrace]
  exact hread

/-! ### The members of a manifest -/

/-- The draft with what a member gives. -/
def Draft.take (draft : Draft) : Member → Draft
  | .name value => { draft with name := some value }
  | .version value => { draft with version := some value }
  | .dependencies entries => { draft with dependencies := some (.ofEntries entries) }
  | .devDependencies entries => { draft with devDependencies := some (.ofEntries entries) }
  | .other _ _ => draft

/-- The field that a member gives has not been given before. -/
def Draft.Lacks (draft : Draft) : Member → Prop
  | .name _ => draft.name = none
  | .version _ => draft.version = none
  | .dependencies _ => draft.dependencies = none
  | .devDependencies _ => draft.devDependencies = none
  | .other _ _ => True

section

variable {draft next : Draft} {member : Member} {first : Bool}
variable {text value key middle after white rest left : Text}

theorem readField_none {α : Type} (name : Text) (read : Text → Reading α)
    (hmiddle : IsWhite middle) (rest : Text) :
    readField name none read (middle ++ ':' :: rest) = read rest := by
  simp only [readField, skipColon_white hmiddle]

theorem readMember_written (hvalue : member.WrittenValue value) (hlacks : draft.Lacks member)
    (hmiddle : IsWhite middle) (hafter : IsWhite after) (hrest : Stops rest) :
    readMember draft member.key (middle ++ ':' :: (after ++ (value ++ rest))) =
      .ok (draft.take member, rest) := by
  cases member with
  | name given =>
    have hnone : draft.name = none := hlacks
    rw [readMember, Member.key, if_pos rfl, hnone, readField_none _ _ hmiddle,
      readOptionalString_written hvalue hafter]
    rfl
  | version given =>
    have hnone : draft.version = none := hlacks
    rw [readMember, Member.key, if_neg (by decide), if_pos rfl, hnone, readField_none _ _ hmiddle,
      readOptionalString_written hvalue hafter]
    rfl
  | dependencies entries =>
    have hnone : draft.dependencies = none := hlacks
    rw [readMember, Member.key, if_neg (by decide), if_neg (by decide), if_pos rfl, hnone,
      readField_none _ _ hmiddle, readRequirements_written hvalue hafter]
    rfl
  | devDependencies entries =>
    have hnone : draft.devDependencies = none := hlacks
    rw [readMember, Member.key, if_neg (by decide), if_neg (by decide), if_neg (by decide),
      if_pos rfl, hnone, readField_none _ _ hmiddle, readRequirements_written hvalue hafter]
    rfl
  | other key unknown =>
    simp only [fieldNames, List.mem_cons, List.not_mem_nil, or_false, not_or] at unknown
    obtain ⟨hname, hversion, hdependencies, hdevDependencies⟩ := unknown
    simp only [readMember, Member.key, hname, hversion, hdependencies, hdevDependencies, ↓reduceIte,
      skipColon_white hmiddle, skipValue_isValue hvalue hafter hrest]
    rfl

theorem membersFrom_eq (first : Bool) (draft : Draft) (text : Text) :
    membersFrom first draft text =
      match nextKey first text with
      | .error fault => .error fault
      | .ok (none, rest) => .ok (draft, rest.drop 1)
      | .ok (some key, rest) =>
        match readMember draft key rest with
        | .error fault => .error fault
        | .ok (next, rest) => membersFrom false next rest := by
  conv_lhs => rw [membersFrom]
  split
  · next hkey => rw [hkey]
  · next hkey => rw [hkey]
  · next hkey =>
    simp only [hkey]
    split <;> next hmember => rw [hmember]

theorem membersFrom_key (hkey : nextKey first text = .ok (some key, rest))
    (hmember : readMember draft key rest = .ok (next, left)) :
    membersFrom first draft text = membersFrom false next left := by
  rw [membersFrom_eq, hkey]
  simp only [hmember]

end

theorem membersFrom_takesItems :
    TakesItems membersFrom Draft.take Draft.Lacks Member.Written where
  closing first draft white rest hwhite := by
    rw [membersFrom_eq, nextKey_closing hwhite]
    rfl
  item first draft member text white c rest hlacks hmember hwhite hc := by
    obtain ⟨value, hvalue, hwritten⟩ := hmember
    cases hwritten with
    | @mk before body middle after last hbefore hbody hmiddle hafter hlast =>
      refine ⟨last, hlast, ?_⟩
      have hread := readMember_written hvalue hlacks hmiddle hafter (stops_of_white hlast hc rest)
      refine Eq.trans (congrArg _ ?_)
        (membersFrom_key (nextKey_member hwhite hbefore hbody first _) hread)
      simp

/-- A written manifest is read as the draft that its members lead to. -/
theorem parse_document {members : List Member} {text : Text} (h : Document members text)
    (hallowed : Allowed Draft.Lacks Draft.take {} members) :
    parse text = .ok (members.foldl Draft.take {}).manifest := by
  cases h with
  | @mk before object after hbefore hobject hafter =>
    obtain ⟨inner, htext, hread⟩ := membersFrom_takesItems.object hobject {} hallowed after
    have hbrace : skipBlanks (before ++ object ++ after) = '\x7b' :: inner := by
      rw [List.append_assoc, htext]
      exact skipBlanks_white_cons hbefore rfl inner
    have hend : skipBlanks after = [] := by
      simpa [skipBlanks] using skipBlanks_white hafter []
    simp only [parse, readValue, hbrace, hread, mapValue, hend]

end Manifest

end ScriptEmbed
