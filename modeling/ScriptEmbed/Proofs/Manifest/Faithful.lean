import ScriptEmbed.Manifest.Loading
import ScriptEmbed.Proofs.Files.Lookup
import ScriptEmbed.Proofs.Manifest.Written
import ScriptEmbed.Proofs.Octets.Encoding

/-!
Loading gives back the manifest that a text denotes. Members denote a manifest if they give each
field once at most, and if what they give, or else the field's default, is what the manifest has
there (`Denotes`). No field being given twice, every member can be taken (`allowed_of_apart`), and
each of the four fields of the draft that they lead to holds what one of them gave, or nothing if
none gave it (`held_foldl_take`). In the maps the last value of a repeated name counts
(`get?_ofEntries`), so maps are compared by what they have for each name.
-/

set_option autoImplicit false
set_option relaxedAutoImplicit false

namespace ScriptEmbed

open Files Json

/-! ### Maps of requirements -/

namespace Requirements

variable {requirements : Requirements} {package requirement other : Text}

theorem get?_cons (package requirement : Text) (requirements : Requirements) (other : Text) :
    get? ((package, requirement) :: requirements) other =
      if other = package then some requirement else requirements.get? other := by
  rw [get?, List.lookup_cons]
  by_cases h : other = package
  · simp [h]
  · simp [h, beq_eq_false_iff_ne.mpr h, get?]

theorem get?_filter_ne (h : other ≠ package) :
    get? (requirements.filter (·.1 ≠ package)) other = requirements.get? other := by
  induction requirements with
  | nil => rfl
  | cons entry requirements ih =>
    obtain ⟨name, value⟩ := entry
    rw [List.filter_cons, get?_cons]
    split
    · rw [get?_cons, ih]
    · next hdropped =>
      have hname : name = package := by simpa using hdropped
      rw [ih, if_neg (hname ▸ h)]

theorem get?_insert (requirements : Requirements) (package requirement other : Text) :
    (requirements.insert package requirement).get? other =
      if other = package then some requirement else requirements.get? other := by
  split
  · next h => rw [h, get?_insert_self]
  · next h =>
    have hlast : get? [(package, requirement)] other = none := by
      rw [get?_cons, if_neg h]
      rfl
    rw [get?] at hlast
    rw [insert, get?, List.lookup_append, hlast, Option.or_none]
    exact get?_filter_ne h

/-- What was entered last for a name is what it has. -/
theorem get?_ofEntries (entries : List (Text × Text)) (package : Text) :
    (ofEntries entries).get? package = get? entries.reverse package := by
  induction entries using List.reverseRecOn with
  | nil => rfl
  | append_singleton entries entry ih =>
    rw [ofEntries, List.foldl_append, List.reverse_append, List.reverse_singleton,
      List.singleton_append, get?_cons, ← ih]
    exact get?_insert _ _ _ _

def NamesOnce (requirements : Requirements) : Prop := (requirements.map Prod.fst).Nodup

theorem namesOnce_insert (h : requirements.NamesOnce) :
    (requirements.insert package requirement).NamesOnce := by
  have hkept : ((requirements.filter (·.1 ≠ package)).map Prod.fst).Nodup :=
    h.sublist (List.filter_sublist.map Prod.fst)
  rw [NamesOnce, insert, List.map_append, List.nodup_append]
  refine ⟨hkept, by simp, ?_⟩
  intro name hname last hlast
  obtain ⟨entry, hentry, rfl⟩ := List.mem_map.mp hname
  rw [List.mem_singleton.mp hlast]
  simpa using (List.mem_filter.mp hentry).2

theorem namesOnce_ofEntries (entries : List (Text × Text)) : (ofEntries entries).NamesOnce := by
  induction entries using List.reverseRecOn with
  | nil => exact List.nodup_nil
  | append_singleton entries entry ih =>
    rw [ofEntries, List.foldl_append]
    exact namesOnce_insert ih

end Requirements

namespace Manifest

variable {members : List Member} {draft : Draft} {manifest : Manifest}

/-! ### What members give -/

/-- That what members give for a field, or else its default, is fit. -/
structure Gives {α : Type} (field : α → Member) (default : α) (members : List Member)
    (Fit : α → Prop) : Prop where
  given : ∀ value, field value ∈ members → Fit value
  absent : (∀ value, field value ∉ members) → Fit default

/-- A map that has for each name what entries give it last. -/
def Records (requirements : Requirements) (entries : List (Text × Text)) : Prop :=
  ∀ package, requirements.get? package = Requirements.get? entries.reverse package

/-- Two members that do not give one field. -/
def Member.Apart (first second : Member) : Prop :=
  first.key = second.key → first.key ∉ fieldNames

instance : DecidableRel Member.Apart := fun first second ↦
  inferInstanceAs (Decidable (first.key = second.key → first.key ∉ fieldNames))

/-- Members that give no field twice, and that give the fields of a manifest. -/
structure Denotes (members : List Member) (manifest : Manifest) : Prop where
  once : members.Pairwise Member.Apart
  name : Gives .name none members (manifest.name = ·)
  version : Gives .version none members (manifest.version = ·)
  dependencies : Gives .dependencies [] members (Records manifest.dependencies)
  devDependencies : Gives .devDependencies [] members (Records manifest.devDependencies)

/-- Manifests with the same name and version, and the same requirement for each package. -/
structure SameAs (first second : Manifest) : Prop where
  name : first.name = second.name
  version : first.version = second.version
  dependencies : ∀ package,
    first.dependencies.get? package = second.dependencies.get? package
  devDependencies : ∀ package,
    first.devDependencies.get? package = second.devDependencies.get? package

theorem lacks_take {first second : Member} (hlacks : draft.Lacks second)
    (hapart : first.Apart second) : (draft.take first).Lacks second := by
  cases first <;> cases second <;> first
    | exact hlacks
    | exact (hapart rfl (by simp [Member.key, fieldNames])).elim

/-- No member finds its field given before. -/
theorem allowed_of_apart (hlacks : ∀ member ∈ members, draft.Lacks member)
    (honce : members.Pairwise Member.Apart) :
    Allowed Draft.Lacks Draft.take draft members := by
  induction honce generalizing draft with
  | nil => trivial
  | @cons member members hmember _ ih =>
    obtain ⟨hfirst, hrest⟩ := List.forall_mem_cons.mp hlacks
    exact ⟨hfirst, ih fun other hother ↦ lacks_take (hrest other hother) (hmember other hother)⟩

theorem lacks_empty (member : Member) : ({} : Draft).Lacks member := by
  cases member <;> trivial

/-! ### What a draft holds -/

/-- A field of drafts with the members that give it. -/
structure Draft.Field (α β : Type) where
  member : α → Member
  held : Draft → Option β
  made : α → β
  held_take : ∀ (draft : Draft) value, held (draft.take (member value)) = some (made value)
  held_take_other : ∀ (draft : Draft) other, (∀ value, other ≠ member value) →
    held (draft.take other) = held draft

namespace Draft.Field

def name : Draft.Field (Option Text) (Option Text) where
  member := .name
  held := Draft.name
  made := id
  held_take _ _ := rfl
  held_take_other draft other h := by
    cases other with
    | name value => exact (h value rfl).elim
    | _ => rfl

def version : Draft.Field (Option Text) (Option Text) where
  member := .version
  held := Draft.version
  made := id
  held_take _ _ := rfl
  held_take_other draft other h := by
    cases other with
    | version value => exact (h value rfl).elim
    | _ => rfl

def dependencies : Draft.Field (List (Text × Text)) Requirements where
  member := .dependencies
  held := Draft.dependencies
  made := .ofEntries
  held_take _ _ := rfl
  held_take_other draft other h := by
    cases other with
    | dependencies value => exact (h value rfl).elim
    | _ => rfl

def devDependencies : Draft.Field (List (Text × Text)) Requirements where
  member := .devDependencies
  held := Draft.devDependencies
  made := .ofEntries
  held_take _ _ := rfl
  held_take_other draft other h := by
    cases other with
    | devDependencies value => exact (h value rfl).elim
    | _ => rfl

variable {α β : Type} (field : Draft.Field α β)

/-- After members, a field holds what one of them gave, or what it held before them. -/
theorem held_foldl_take (draft : Draft) (members : List Member) :
    (∃ value, field.member value ∈ members ∧
        field.held (members.foldl Draft.take draft) = some (field.made value)) ∨
      ((∀ value, field.member value ∉ members) ∧
        field.held (members.foldl Draft.take draft) = field.held draft) := by
  induction members using List.reverseRecOn with
  | nil => exact .inr ⟨fun _ ↦ List.not_mem_nil, rfl⟩
  | append_singleton members last ih =>
    rw [List.foldl_append, List.foldl_cons, List.foldl_nil]
    by_cases hlast : ∃ value, last = field.member value
    · obtain ⟨value, rfl⟩ := hlast
      exact .inl ⟨value, by simp, field.held_take _ value⟩
    · have hother : ∀ value, last ≠ field.member value := not_exists.mp hlast
      rw [field.held_take_other _ last hother]
      rcases ih with ⟨value, hvalue, hheld⟩ | ⟨hnone, hheld⟩
      · exact .inl ⟨value, List.mem_append_left _ hvalue, hheld⟩
      · refine .inr ⟨fun value hvalue ↦ ?_, hheld⟩
        rcases List.mem_append.mp hvalue with hbefore | hnow
        · exact hnone value hbefore
        · exact hother value (List.mem_singleton.mp hnow).symm

/-- What the draft holds after members is made from what they give, or from the default. -/
theorem exists_made {default : α} {Fit : α → Prop}
    (h : Gives field.member default members Fit) (hempty : field.held {} = none) :
    ∃ value, Fit value ∧
      (field.held (members.foldl Draft.take {})).getD (field.made default) = field.made value := by
  rcases field.held_foldl_take {} members with ⟨value, hvalue, hheld⟩ | ⟨hnone, hheld⟩
  · exact ⟨value, h.given value hvalue, by rw [hheld, Option.getD_some]⟩
  · exact ⟨default, h.absent hnone, by rw [hheld, hempty, Option.getD_none]⟩

end Draft.Field

theorem sameAs_of_denotes (h : Denotes members manifest) :
    (members.foldl Draft.take {}).manifest.SameAs manifest ∧
      (members.foldl Draft.take {}).manifest.dependencies.NamesOnce ∧
      (members.foldl Draft.take {}).manifest.devDependencies.NamesOnce := by
  obtain ⟨_, rfl, hname⟩ := Draft.Field.name.exists_made h.name rfl
  obtain ⟨_, rfl, hversion⟩ := Draft.Field.version.exists_made h.version rfl
  obtain ⟨entries, hentries, hdependencies⟩ :=
    Draft.Field.dependencies.exists_made h.dependencies rfl
  obtain ⟨devEntries, hdevEntries, hdevDependencies⟩ :=
    Draft.Field.devDependencies.exists_made h.devDependencies rfl
  change (members.foldl Draft.take {}).manifest.dependencies = .ofEntries entries at hdependencies
  change (members.foldl Draft.take {}).manifest.devDependencies = .ofEntries devEntries
    at hdevDependencies
  refine ⟨⟨hname, hversion, ?_, ?_⟩, ?_, ?_⟩
  · intro package
    rw [hdependencies, Requirements.get?_ofEntries, hentries package]
  · intro package
    rw [hdevDependencies, Requirements.get?_ofEntries, hdevEntries package]
  · rw [hdependencies]
    exact Requirements.namesOnce_ofEntries entries
  · rw [hdevDependencies]
    exact Requirements.namesOnce_ofEntries devEntries

/-! ### Loading -/

section

variable {files : FileTree} {working : Place} {directory : Path} {text : Text}

theorem load_of_read (hread : files.read working (Path.join directory fileName) =
    .ok (Octets.ofText text)) (hparse : parse text = .ok manifest) :
    load files working directory = .ok manifest := by
  obtain ⟨place, program, hplace, hentry⟩ := FileTree.read_eq_ok_iff.mp hread
  have hexists : files.pathExists working (Path.join directory fileName) = true := by
    simp only [FileTree.pathExists, hplace]
  have htext : files.readText working (Path.join directory fileName) = .ok text :=
    FileTree.readText_eq_ok_iff.mpr ⟨_, hread, Octets.toText?_ofText text⟩
  simp only [load, hexists, htext, hparse, ↓reduceIte]

/-- Whatever text denotes a manifest, loading the directory whose manifest file has that text gives
the manifest, with each name once in its maps. -/
theorem load_written (hread : files.read working (Path.join directory fileName) =
      .ok (Octets.ofText text)) (hwritten : Document members text)
    (hdenotes : Denotes members manifest) :
    ∃ loaded, load files working directory = .ok loaded ∧ loaded.SameAs manifest ∧
      loaded.dependencies.NamesOnce ∧ loaded.devDependencies.NamesOnce := by
  have hallowed : Allowed Draft.Lacks Draft.take {} members :=
    allowed_of_apart (fun member _ ↦ lacks_empty member) hdenotes.once
  exact ⟨_, load_of_read hread (parse_document hwritten hallowed), sameAs_of_denotes hdenotes⟩

end

/-- Fields in another order, with a name twice in a map and a member that is passed over. -/
def permutedMembers : List Member :=
  [.devDependencies [("ab".toList, "1".toList), ("ab".toList, "😀".toList)],
    .other "x".toList (by decide), .version none, .name (some "n".toList)]

def permutedText : Text :=
  "\n\x7b\"devDependencies\" :\x7b\"\\u0061b\":\"1\",\"ab\":\"\\ud83d\\uDE00\"\x7d,".toList ++
    "\"x\":[\x7b\"name\":\"\\udc00\"\x7d],\"version\":null, \"n\\u0061me\":\"n\"\x7d".toList

def permutedManifest : Manifest where
  name := some "n".toList
  devDependencies := [("ab".toList, "😀".toList)]

theorem document_permuted : Document permutedMembers permutedText := by
  have hblank : IsWhite [] := by simp [IsWhite]
  have hspace : IsWhite [' '] := by simp [IsWhite]
  have hnewline : IsWhite ['\n'] := by simp [IsWhite]
  have hescaped : IsCodeUnit "0061".toList 'a'.toNat :=
    @IsCodeUnit.digits '0' '0' '6' '1' 0 0 6 1 (by decide)
  have hleading : IsCodeUnit "d83d".toList 0xD83D :=
    @IsCodeUnit.digits 'd' '8' '3' 'd' 13 8 3 13 (by decide)
  have htrailing : IsCodeUnit "DE00".toList 0xDE00 :=
    @IsCodeUnit.digits 'D' 'E' '0' '0' 13 14 0 0 (by decide)
  have hlone : IsCodeUnit "dc00".toList 0xDC00 :=
    @IsCodeUnit.digits 'd' 'c' '0' '0' 13 12 0 0 (by decide)
  have hfirst : WrittenEntry ("ab".toList, "1".toList) "\"\\u0061b\":\"1\"".toList :=
    ⟨_, ⟨_, spells_self (by decide), rfl⟩,
      .mk hblank (.cons (.unit hescaped) (spells_self (by decide))) hblank hblank hblank⟩
  have hsecond : WrittenEntry ("ab".toList, "😀".toList) "\"ab\":\"\\ud83d\\uDE00\"".toList :=
    ⟨_, ⟨_, .cons (.pair (by decide) hleading htrailing) .nil, rfl⟩,
      .mk hblank (spells_self (by decide)) hblank hblank hblank⟩
  have hdevDependencies :
      Member.Written (.devDependencies [("ab".toList, "1".toList), ("ab".toList, "😀".toList)])
        "\"devDependencies\" :\x7b\"\\u0061b\":\"1\",\"ab\":\"\\ud83d\\uDE00\"\x7d".toList :=
    ⟨_, .members (.more hfirst (.last hsecond)),
      .mk hblank (spells_self (by decide)) hspace hblank hblank⟩
  have hinner : IsStringBody "name".toList :=
    .plain (by decide) (.plain (by decide) (.plain (by decide) (.plain (by decide) .nil)))
  have hlist : IsValue "[\x7b\"name\":\"\\udc00\"\x7d]".toList :=
    .enclosed (.last .list hblank
      (.enclosed (.last (.object hblank hinner hblank) hblank (.string (.unit hlone .nil)) hblank))
      hblank)
  have hother : Member.Written (.other "x".toList (by decide))
      "\"x\":[\x7b\"name\":\"\\udc00\"\x7d]".toList :=
    ⟨_, hlist, .mk hblank (spells_self (by decide)) hblank hblank hblank⟩
  have hversion : Member.Written (.version none) "\"version\":null".toList :=
    ⟨_, .null, .mk hblank (spells_self (by decide)) hblank hblank hblank⟩
  have hname : Member.Written (.name (some "n".toList)) " \"n\\u0061me\":\"n\"".toList :=
    ⟨_, .string ⟨_, spells_self (by decide), rfl⟩,
      .mk hspace (.cons (.plain (by decide)) (.cons (.unit hescaped) (spells_self (by decide))))
        hblank hblank hblank⟩
  have hdocument := Document.mk hnewline
    (.members (.more hdevDependencies (.more hother (.more hversion (.last hname))))) hblank
  refine (congrArg (Document permutedMembers) ?_).mp hdocument
  decide

theorem denotes_permuted : Denotes permutedMembers permutedManifest where
  once := by decide
  name := ⟨by simp [permutedMembers, permutedManifest],
    fun h ↦ (h (some "n".toList) (by simp [permutedMembers])).elim⟩
  version := ⟨by simp [permutedMembers, permutedManifest], fun _ ↦ rfl⟩
  dependencies := ⟨by simp [permutedMembers], fun _ _ ↦ rfl⟩
  devDependencies := by
    refine ⟨?_, fun h ↦ (h _ List.mem_cons_self).elim⟩
    intro entries hentries package
    obtain rfl : entries = [("ab".toList, "1".toList), ("ab".toList, "😀".toList)] := by
      simpa [permutedMembers] using hentries
    simp only [permutedManifest, List.reverse_cons, List.reverse_nil, List.nil_append,
      List.singleton_append, Requirements.get?_cons]
    split <;> rfl

theorem load_written_permuted :
    ∃ loaded, load (FileTree.empty.update [fileName]
        (some (.file (Octets.ofText permutedText) none))) [] "/".toList = .ok loaded ∧
      loaded.SameAs permutedManifest ∧
      loaded.dependencies.NamesOnce ∧ loaded.devDependencies.NamesOnce := by
  have hread : ∀ contents, (FileTree.empty.update [fileName]
      (some (.file contents none))).read [] (Path.join "/".toList fileName) = .ok contents := by
    intro contents
    rfl
  exact load_written (hread _) document_permuted denotes_permuted

end Manifest

end ScriptEmbed
