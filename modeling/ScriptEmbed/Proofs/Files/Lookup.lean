import Mathlib.Tactic.ByContra
import ScriptEmbed.Files.Tree

/-!
What is at a path before and after an operation on files. A path is looked up by walking to the
directory of its last name and entering that name. The walk goes through directories only, so it
leads to the same directory in every tree that keeps the directories (`KeepsDirectories`,
`resolveParent_of_keeps`), and removing or writing a file keeps them. Hence a file that was removed
is no longer there (`pathExists_of_remove`), nor is anything where no file was found to remove
(`pathExists_of_remove_notFound`), what was written is read back (`read_of_write`), and a file that
can be read can be written, unless the path ends in `..` (`rewritable_of_last_name`).
-/

set_option autoImplicit false
set_option relaxedAutoImplicit false

namespace ScriptEmbed.Files

/-- A computation of two steps gives a value if both do. -/
theorem bind_eq_ok_iff {ε α β : Type} {first : Except ε α} {next : α → Except ε β} {value : β} :
    (first >>= next) = .ok value ↔ ∃ middle, first = .ok middle ∧ next middle = .ok value := by
  cases first <;> simp [bind, Except.bind]

theorem bind_unit_eq_ok_iff {ε β : Type} {first : Except ε Unit} {next : Unit → Except ε β}
    {value : β} :
    (first >>= next) = .ok value ↔ first = .ok () ∧ next () = .ok value := by
  cases first <;> simp [bind, Except.bind]

@[simp] theorem pure_eq_ok_iff {ε α : Type} {first second : α} :
    (pure first : Except ε α) = .ok second ↔ second = first := by
  simp [pure, Except.pure, eq_comm]

@[simp] theorem throw_eq_ok_iff {ε α : Type} {e : ε} {value : α} :
    (throw e : Except ε α) = .ok value ↔ False := by
  simp [throw, throwThe, MonadExceptOf.throw]

theorem Path.names_ne_nil {path : Path} (hpath : path ≠ []) (hrelative : path.isAbsolute = false) :
    path.names ≠ [] := by
  cases path with
  | nil => exact (hpath rfl).elim
  | cons c rest =>
    have hc : c ≠ '/' := by
      intro h
      simp [Path.isAbsolute, h] at hrelative
    obtain ⟨first, others, hsplit⟩ := List.exists_cons_of_ne_nil (List.splitOn_ne_nil '/' rest)
    simp [Path.names, List.splitOn_cons_eq_if_modifyHead, hc, hsplit]

namespace FileTree

variable {tree other : FileTree} {working start parent place : Place} {path : Path} {name : Text}

/-! ### Single steps -/

theorem at?_update (tree : FileTree) (parent place : Place) (name : Text) (entry : Option Entry) :
    (tree.update (parent ++ [name]) entry).at? place =
      if place = parent ++ [name] then entry else tree.at? place := by
  by_cases hplace : place = parent ++ [name]
  · simp [at?, update, hplace]
  · simp [at?, update, hplace]

theorem isDirectory_iff : tree.isDirectory place = true ↔ tree.at? place = some .directory := by
  unfold isDirectory
  split <;> simp_all

theorem demandDirectory_eq_ok_iff :
    tree.demandDirectory place = .ok () ↔ tree.at? place = some .directory := by
  unfold demandDirectory
  split <;> simp_all

theorem checkName_eq_ok_iff : checkName name = .ok () ↔ nameIsTooLong name = false := by
  cases h : nameIsTooLong name <;> simp [checkName, h]

/-- Entering a name starts from a directory and stays there, goes up, or goes down to what is
there. -/
theorem enter_eq_ok_iff :
    tree.enter start name = .ok place ↔ tree.at? start = some .directory ∧
      ((name = Path.here ∧ place = start) ∨ (name = Path.up ∧ place = start.dropLast) ∨
        (name ≠ Path.here ∧ name ≠ Path.up ∧ nameIsTooLong name = false ∧
          (tree.at? (start ++ [name])).isSome ∧ place = start ++ [name])) := by
  simp only [enter, bind_unit_eq_ok_iff, demandDirectory_eq_ok_iff]
  refine and_congr_right fun _ ↦ ?_
  have hdistinct : Path.here ≠ Path.up := by decide
  by_cases hhere : name = Path.here
  · simp [hhere, hdistinct]
  · by_cases hup : name = Path.up
    · simp [hup, hdistinct.symm]
    · simp only [hhere, hup, ↓reduceIte, bind_unit_eq_ok_iff, checkName_eq_ok_iff]
      cases tree.at? (start ++ [name]) <;> simp [hhere, hup]

theorem at?_of_enter (h : tree.enter start name = .ok place) :
    tree.at? start = some .directory := (enter_eq_ok_iff.mp h).1

theorem walk_cons (name : Text) (names : List Text) :
    tree.walk start (name :: names) = tree.enter start name >>= fun next ↦ tree.walk next names :=
  rfl

theorem walk_append (front back : List Text) :
    tree.walk start (front ++ back) =
      tree.walk start front >>= fun middle ↦ tree.walk middle back := List.foldlM_append

theorem walk_concat (names : List Text) (name : Text) :
    tree.walk start (names ++ [name]) =
      tree.walk start names >>= fun next ↦ tree.enter next name := by
  simp [walk]

/-! ### Trees with the same directories -/

/-- Every directory of a tree is one of another tree, too. -/
def KeepsDirectories (tree other : FileTree) : Prop :=
  ∀ place, tree.at? place = some .directory → other.at? place = some .directory

theorem keepsDirectories_update (hplace : tree.at? (parent ++ [name]) ≠ some .directory)
    (entry : Option Entry) : tree.KeepsDirectories (tree.update (parent ++ [name]) entry) := by
  intro place hdirectory
  rw [at?_update]
  split
  · rename_i h
    exact (hplace (h ▸ hdirectory)).elim
  · exact hdirectory

theorem enter_of_keeps (hkeeps : tree.KeepsDirectories other)
    (henter : tree.enter start name = .ok place) (hplace : tree.at? place = some .directory) :
    other.enter start name = .ok place := by
  rw [enter_eq_ok_iff] at henter ⊢
  refine ⟨hkeeps start henter.1, ?_⟩
  rcases henter.2 with hhere | hup | ⟨hhere, hup, hname, -, rfl⟩
  · exact Or.inl hhere
  · exact Or.inr (Or.inl hup)
  · exact Or.inr (Or.inr ⟨hhere, hup, hname, by simp [hkeeps _ hplace], rfl⟩)

/-- A walk that ends in a directory has gone through directories only. -/
theorem walk_of_keeps {names : List Text} (hkeeps : tree.KeepsDirectories other)
    (hwalk : tree.walk start names = .ok place) (hplace : tree.at? place = some .directory) :
    other.walk start names = .ok place := by
  induction names generalizing start with
  | nil => exact hwalk
  | cons name names ih =>
    rw [walk_cons, bind_eq_ok_iff] at hwalk ⊢
    obtain ⟨next, henter, hrest⟩ := hwalk
    have hnext : tree.at? next = some .directory := by
      cases names with
      | nil =>
        cases hrest
        exact hplace
      | cons second names =>
        obtain ⟨_, hsecond, -⟩ := bind_eq_ok_iff.mp hrest
        exact at?_of_enter hsecond
    exact ⟨next, enter_of_keeps hkeeps henter hnext, ih hrest⟩

/-! ### The directory and the last name of a path -/

theorem resolveParent_eq_ok_some_iff :
    tree.resolveParent working path = .ok (parent, some name) ↔
      checkPath path = .ok () ∧ tree.walk (origin working path) path.names.dropLast = .ok parent ∧
        tree.at? parent = some .directory ∧ path.names.getLast? = some name ∧
        name ≠ Path.here ∧ name ≠ Path.up := by
  rw [resolveParent, bind_unit_eq_ok_iff, bind_eq_ok_iff]
  refine and_congr_right fun _ ↦ ?_
  constructor
  · rintro ⟨middle, hwalk, hrest⟩
    obtain ⟨hparent, hlast⟩ := bind_unit_eq_ok_iff.mp hrest
    cases hname : path.names.getLast? with
    | none => simp [hname] at hlast
    | some last =>
      by_cases hdots : last = Path.here ∨ last = Path.up
      · simp [hname, hdots] at hlast
      · simp only [hname, hdots, ↓reduceIte, pure_eq_ok_iff, Prod.mk.injEq,
          Option.some.injEq] at hlast
        obtain ⟨rfl, rfl⟩ := hlast
        exact ⟨hwalk, demandDirectory_eq_ok_iff.mp hparent, rfl, not_or.mp hdots⟩
  · rintro ⟨hwalk, hparent, hlast, hhere, hup⟩
    refine ⟨parent, hwalk, bind_unit_eq_ok_iff.mpr
      ⟨demandDirectory_eq_ok_iff.mpr hparent, ?_⟩⟩
    simp [hlast, hhere, hup]

/-- A path leads to the same directory in a tree that keeps the directories. -/
theorem resolveParent_of_keeps (hkeeps : tree.KeepsDirectories other)
    (h : tree.resolveParent working path = .ok (parent, some name)) :
    other.resolveParent working path = .ok (parent, some name) := by
  rw [resolveParent_eq_ok_some_iff] at h ⊢
  obtain ⟨hcheck, hwalk, hparent, hlast⟩ := h
  exact ⟨hcheck, walk_of_keeps hkeeps hwalk hparent, hkeeps parent hparent, hlast⟩

/-- Where the directory and the last name of a path are known, the path is looked up there. -/
theorem resolve_eq_ok_iff (h : tree.resolveParent working path = .ok (parent, some name)) :
    tree.resolve working path = .ok place ↔ place = parent ++ [name] ∧
      nameIsTooLong name = false ∧ (tree.at? (parent ++ [name])).isSome ∧
      (path.endsInSlash = true → tree.at? (parent ++ [name]) = some .directory) := by
  obtain ⟨hcheck, hwalk, hparent, hlast, hhere, hup⟩ := resolveParent_eq_ok_some_iff.mp h
  obtain ⟨front, hnames⟩ := List.getLast?_eq_some_iff.mp hlast
  have hfront : tree.walk (origin working path) front = .ok parent := by
    simpa [hnames] using hwalk
  have hplace : tree.walk (origin working path) path.names = .ok place ↔
      nameIsTooLong name = false ∧ (tree.at? (parent ++ [name])).isSome ∧
        place = parent ++ [name] := by
    rw [hnames, walk_concat, hfront]
    show tree.enter parent name = .ok place ↔ _
    simp [enter_eq_ok_iff, hparent, hhere, hup]
  rw [resolve, bind_unit_eq_ok_iff, bind_eq_ok_iff]
  constructor
  · rintro ⟨-, middle, hmiddle, hrest⟩
    by_cases hslash : path.endsInSlash = true
    · simp only [hslash, ↓reduceIte] at hrest
      obtain ⟨hdirectory, hvalue⟩ := bind_unit_eq_ok_iff.mp hrest
      cases pure_eq_ok_iff.mp hvalue
      obtain ⟨hname, hsome, rfl⟩ := hplace.mp hmiddle
      exact ⟨rfl, hname, hsome, fun _ ↦ demandDirectory_eq_ok_iff.mp hdirectory⟩
    · simp only [hslash, Bool.false_eq_true, ↓reduceIte, pure_eq_ok_iff] at hrest
      subst hrest
      obtain ⟨hname, hsome, rfl⟩ := hplace.mp hmiddle
      exact ⟨rfl, hname, hsome, fun h ↦ (hslash h).elim⟩
  · rintro ⟨rfl, hname, hsome, hdirectory⟩
    refine ⟨hcheck, parent ++ [name], hplace.mpr ⟨hname, hsome, rfl⟩, ?_⟩
    by_cases hslash : path.endsInSlash = true
    · simp only [hslash, ↓reduceIte]
      exact bind_unit_eq_ok_iff.mpr ⟨demandDirectory_eq_ok_iff.mpr (hdirectory hslash), rfl⟩
    · simp [hslash]

/-- What is there has a directory above it, and a last name in it unless it is a directory itself or
the path ends in `..`. -/
theorem resolveParent_of_resolve (h : tree.resolve working path = .ok place) :
    (∃ parent name, tree.resolveParent working path = .ok (parent, some name)) ∨
      (∃ parent, tree.resolveParent working path = .ok (parent, none)) ∧
        (tree.at? place = some .directory ∨ path.names.getLast? = some Path.up) := by
  rw [resolve, bind_unit_eq_ok_iff, bind_eq_ok_iff] at h
  obtain ⟨hcheck, middle, hwalk, hrest⟩ := h
  have hmiddle : middle = place := by
    split at hrest
    · exact (pure_eq_ok_iff.mp (bind_unit_eq_ok_iff.mp hrest).2).symm
    · exact (pure_eq_ok_iff.mp hrest).symm
  subst hmiddle
  rcases List.eq_nil_or_concat path.names with hnil | ⟨front, last, hnames⟩
  · -- Only an absolute path can have no name, since the empty path is refused.
    have hroot : origin working path = [] := by
      by_cases habsolute : path.isAbsolute = true
      · simp [origin, habsolute]
      · have hpath : path = [] := by
          by_contra hne
          exact Path.names_ne_nil hne (by simpa using habsolute) hnil
        subst hpath
        cases hcheck
    have hstart : middle = [] := by
      rw [hnil, hroot] at hwalk
      exact pure_eq_ok_iff.mp hwalk
    subst hstart
    refine Or.inr ⟨⟨[], ?_⟩, Or.inl rfl⟩
    simp only [resolveParent, hcheck, hnil, hroot]
    rfl
  · rw [hnames, List.concat_eq_append, walk_concat, bind_eq_ok_iff] at hwalk
    obtain ⟨parent, hfront, henter⟩ := hwalk
    obtain ⟨hparent, hcases⟩ := enter_eq_ok_iff.mp henter
    have hlast : path.names.getLast? = some last := by simp [hnames]
    have hdirectory : tree.walk (origin working path) path.names.dropLast = .ok parent := by
      simpa [hnames] using hfront
    by_cases hdots : last = Path.here ∨ last = Path.up
    · refine Or.inr ⟨⟨parent, ?_⟩, ?_⟩
      · rw [resolveParent, hcheck]
        refine bind_unit_eq_ok_iff.mpr ⟨rfl, bind_eq_ok_iff.mpr ⟨parent, hdirectory, ?_⟩⟩
        refine bind_unit_eq_ok_iff.mpr ⟨demandDirectory_eq_ok_iff.mpr hparent, ?_⟩
        simp [hlast, hdots]
      · rcases hdots with rfl | rfl
        · rcases hcases with ⟨-, rfl⟩ | ⟨hup, -⟩ | ⟨hhere, -⟩
          · exact Or.inl hparent
          · exact absurd hup (by decide)
          · exact (hhere rfl).elim
        · exact Or.inr hlast
    · obtain ⟨hhere, hup⟩ := not_or.mp hdots
      exact Or.inl ⟨parent, last, resolveParent_eq_ok_some_iff.mpr
        ⟨hcheck, hdirectory, hparent, hlast, hhere, hup⟩⟩

theorem pathExists_eq_false_iff :
    tree.pathExists working path = false ↔ ∀ place, tree.resolve working path ≠ .ok place := by
  unfold pathExists
  cases tree.resolve working path <;> simp

/-! ### Removing, writing and reading -/

theorem remove_eq_ok_iff :
    tree.remove working path = .ok other ↔ ∃ parent name contents program,
      tree.resolveParent working path = .ok (parent, some name) ∧ nameIsTooLong name = false ∧
        tree.at? (parent ++ [name]) = some (.file contents program) ∧
        path.endsInSlash = false ∧ other = tree.update (parent ++ [name]) none := by
  rw [remove, bind_eq_ok_iff]
  constructor
  · rintro ⟨⟨parent, last⟩, hparent, hrest⟩
    cases last with
    | none => simp at hrest
    | some name =>
      obtain ⟨hname, hmatch⟩ := bind_unit_eq_ok_iff.mp hrest
      split at hmatch
      · simp at hmatch
      · simp at hmatch
      · rename_i contents program hentry
        by_cases hslash : path.endsInSlash = true
        · simp only [hslash, ↓reduceIte, bind_unit_eq_ok_iff, throw_eq_ok_iff,
            false_and] at hmatch
        · simp only [hslash, Bool.false_eq_true, ↓reduceIte, pure_eq_ok_iff] at hmatch
          exact ⟨parent, name, contents, program, hparent, checkName_eq_ok_iff.mp hname, hentry,
            by simpa using hslash, hmatch⟩
  · rintro ⟨parent, name, contents, program, hparent, hname, hentry, hslash, rfl⟩
    refine ⟨(parent, some name), hparent, bind_unit_eq_ok_iff.mpr
      ⟨checkName_eq_ok_iff.mpr hname, ?_⟩⟩
    simp [hentry, hslash]

theorem write_eq_ok_iff {contents : Octets} :
    tree.write working path contents = .ok other ↔ ∃ parent name,
      tree.resolveParent working path = .ok (parent, some name) ∧ path.endsInSlash = false ∧
        nameIsTooLong name = false ∧ tree.at? (parent ++ [name]) ≠ some .directory ∧
        other = tree.update (parent ++ [name]) (some (.file contents none)) := by
  rw [write, bind_eq_ok_iff]
  constructor
  · rintro ⟨⟨parent, last⟩, hparent, hrest⟩
    cases last with
    | none => simp at hrest
    | some name =>
      by_cases hslash : path.endsInSlash = true
      · simp [hslash, bind_unit_eq_ok_iff] at hrest
      · simp only [hslash, Bool.false_eq_true, ↓reduceIte, bind_unit_eq_ok_iff,
          checkName_eq_ok_iff] at hrest
        obtain ⟨hname, hwritten⟩ := hrest
        by_cases hentry : tree.at? (parent ++ [name]) = some .directory
        · simp only [isDirectory_iff, hentry, ↓reduceIte, bind_unit_eq_ok_iff, throw_eq_ok_iff,
            false_and] at hwritten
        · simp only [isDirectory_iff, hentry, ↓reduceIte, pure_eq_ok_iff] at hwritten
          exact ⟨parent, name, hparent, by simpa using hslash, hname, hentry, hwritten⟩
  · rintro ⟨parent, name, hparent, hslash, hname, hentry, rfl⟩
    refine ⟨(parent, some name), hparent, ?_⟩
    simp only [hslash, Bool.false_eq_true, isDirectory_iff, hentry, ↓reduceIte, bind_unit_eq_ok_iff,
      checkName_eq_ok_iff, hname, pure_eq_ok_iff, and_self]

theorem read_eq_ok_iff {contents : Octets} :
    tree.read working path = .ok contents ↔ ∃ place program,
      tree.resolve working path = .ok place ∧
        tree.at? place = some (.file contents program) := by
  rw [read, bind_eq_ok_iff]
  constructor
  · rintro ⟨place, hplace, hrest⟩
    split at hrest
    · rename_i found program hentry
      obtain rfl := pure_eq_ok_iff.mp hrest
      exact ⟨place, program, hplace, hentry⟩
    · simp at hrest
  · rintro ⟨place, program, hplace, hentry⟩
    exact ⟨place, hplace, by simp [hentry]⟩

theorem readText_eq_ok_iff {text : Text} :
    tree.readText working path = .ok text ↔ ∃ contents,
      tree.read working path = .ok contents ∧ contents.toText? = some text := by
  rw [readText, bind_eq_ok_iff]
  refine exists_congr fun contents ↦ and_congr_right fun _ ↦ ?_
  cases contents.toText? with
  | none => simp
  | some found =>
    rw [pure_eq_ok_iff, Option.some.injEq]
    exact eq_comm

/-- A file that was removed is not there any more. -/
theorem pathExists_of_remove (h : tree.remove working path = .ok other) :
    other.pathExists working path = false := by
  obtain ⟨parent, name, contents, program, hparent, -, hentry, -, rfl⟩ := remove_eq_ok_iff.mp h
  have hkeeps : tree.KeepsDirectories (tree.update (parent ++ [name]) none) :=
    keepsDirectories_update (by simp [hentry]) none
  rw [pathExists_eq_false_iff]
  intro place hplace
  obtain ⟨-, -, hsome, -⟩ := (resolve_eq_ok_iff (resolveParent_of_keeps hkeeps hparent)).mp hplace
  simp [at?_update] at hsome

/-- Where removing finds nothing, nothing is there. -/
theorem pathExists_of_remove_notFound (h : tree.remove working path = .error .notFound) :
    tree.pathExists working path = false := by
  rw [pathExists_eq_false_iff]
  intro place hplace
  rcases resolveParent_of_resolve hplace with ⟨parent, name, hparent⟩ | ⟨⟨parent, hparent⟩, -⟩
  · obtain ⟨-, hname, hsome, -⟩ := (resolve_eq_ok_iff hparent).mp hplace
    obtain ⟨entry, hentry⟩ := Option.isSome_iff_exists.mp hsome
    rw [remove, hparent] at h
    simp only [bind, Except.bind, checkName_eq_ok_iff.mpr hname, hentry] at h
    cases entry with
    | directory => cases h
    | file contents program =>
      by_cases hslash : path.endsInSlash = true
      · simp only [hslash, ↓reduceIte] at h
        cases h
      · simp only [hslash, Bool.false_eq_true, ↓reduceIte] at h
        cases h
  · rw [remove, hparent] at h
    cases h

/-- What was written is read back. -/
theorem read_of_write {contents : Octets} (h : tree.write working path contents = .ok other) :
    other.read working path = .ok contents := by
  obtain ⟨parent, name, hparent, hslash, hname, hentry, rfl⟩ := write_eq_ok_iff.mp h
  have hkeeps := keepsDirectories_update hentry (some (.file contents none))
  refine read_eq_ok_iff.mpr ⟨parent ++ [name], none, ?_, by simp [at?_update]⟩
  rw [resolve_eq_ok_iff (resolveParent_of_keeps hkeeps hparent)]
  simp [at?_update, hname, hslash]

/-- That a text which can be read from a path can be replaced there. -/
def Rewritable (tree : FileTree) (working : Place) (path : Path) : Prop :=
  ∀ text, tree.readText working path = .ok text →
    ∀ contents, ∃ other, tree.write working path contents = .ok other

/-- Only a path that ends in `..` may lead to a file by another name. -/
theorem rewritable_of_last_name (hlast : path.names.getLast? ≠ some Path.up) :
    tree.Rewritable working path := by
  intro text htext contents
  obtain ⟨found, hread, -⟩ := readText_eq_ok_iff.mp htext
  obtain ⟨place, program, hplace, hentry⟩ := read_eq_ok_iff.mp hread
  rcases resolveParent_of_resolve hplace with ⟨parent, name, hparent⟩ | ⟨-, hdirectory | hup⟩
  · obtain ⟨rfl, hname, -, hslash⟩ := (resolve_eq_ok_iff hparent).mp hplace
    refine ⟨_, write_eq_ok_iff.mpr ⟨parent, name, hparent, ?_, hname, by simp [hentry], rfl⟩⟩
    by_contra h
    have hdirectory := hslash (by simpa using h)
    rw [hentry] at hdirectory
    cases hdirectory
  · rw [hentry] at hdirectory
    cases hdirectory
  · exact (hlast hup).elim

end FileTree

end ScriptEmbed.Files
