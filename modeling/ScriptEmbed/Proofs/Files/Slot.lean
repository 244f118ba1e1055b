import ScriptEmbed.Proofs.Files.Joining
import ScriptEmbed.Proofs.Files.Lookup

/-!
The slot of a path: the place that the path leads to, whether or not something is there. A change at
the slot alone leaves the slot where it is (`slot?_of_changesAt`), since the walk to it goes through
directories only and a file at the slot is none of them. So such changes can be taken back and put
one after another (`ChangesAt.symm`, `ChangesAt.trans`), as long as no directory is at the slot.
-/

set_option autoImplicit false
set_option relaxedAutoImplicit false

namespace ScriptEmbed.Files

/-- A path that is one name. -/
def Path.IsName (path : Path) : Prop := path ≠ [] ∧ '/' ∉ path

theorem Path.IsName.relative {name : Path} (h : name.IsName) : name.isAbsolute = false := by
  by_contra habsolute
  have hhead : name.head? = some '/' := by simpa [Path.isAbsolute] using habsolute
  exact h.2 (List.mem_of_head? hhead)

theorem Path.IsName.endsInSlash_join {name : Path} (h : name.IsName) (base : Path) :
    (Path.join base name).endsInSlash = false := by
  have hlast : name.getLast h.1 ≠ '/' := fun heq ↦ h.2 (heq ▸ List.getLast_mem h.1)
  rw [Path.endsInSlash_join h.1, Path.endsInSlash, List.getLast?_eq_some_getLast h.1]
  simpa using hlast

namespace FileTree

variable {tree middle other : FileTree} {working place parent : Place} {path : Path} {name : Text}

/-- The place that a path leads to. -/
def slot? (tree : FileTree) (working : Place) (path : Path) : Option Place :=
  match tree.resolveParent working path with
  | .ok (parent, some name) => some (parent ++ [name])
  | _ => none

/-- What is at a path. -/
def found? (tree : FileTree) (working : Place) (path : Path) : Option Entry :=
  match tree.resolve working path with
  | .ok place => tree.at? place
  | .error _ => none

/-- The tree with nothing at a path. -/
def vacate (tree : FileTree) (working : Place) (path : Path) : FileTree :=
  match tree.slot? working path with
  | some place => tree.update place none
  | none => tree

def NoDirectory (tree : FileTree) (working : Place) (path : Path) : Prop :=
  ∀ place, tree.slot? working path = some place → tree.at? place ≠ some .directory

/-- That two trees have the same entries everywhere but at one place. -/
def AgreeApartFrom (tree : FileTree) (place : Place) (other : FileTree) : Prop :=
  ∀ elsewhere, elsewhere ≠ place → tree.entry? elsewhere = other.entry? elsewhere

/-- That another tree has the same entries everywhere but at the slot of a path. -/
def ChangesAt (tree : FileTree) (working : Place) (path : Path) (other : FileTree) : Prop :=
  tree = other ∨ ∃ place, tree.slot? working path = some place ∧ tree.AgreeApartFrom place other

/-- That two trees differ at most in the file at a path, where either may have none. -/
structure SameButFile (working : Place) (path : Path) (tree other : FileTree) : Prop where
  changes : tree.ChangesAt working path other
  noDirectory : tree.NoDirectory working path
  noDirectory' : other.NoDirectory working path

theorem slot?_eq_some_iff : tree.slot? working path = some place ↔
    ∃ parent name, place = parent ++ [name] ∧
      tree.resolveParent working path = .ok (parent, some name) := by
  unfold slot?
  split
  · rename_i parent name hparent
    constructor
    · intro hplace
      exact ⟨parent, name, (Option.some.inj hplace).symm, hparent⟩
    · rintro ⟨parent', name', rfl, hparent'⟩
      cases hparent.symm.trans hparent'
      rfl
  · rename_i hnone
    constructor
    · intro h
      cases h
    · rintro ⟨parent, name, -, hparent⟩
      exact (hnone parent name hparent).elim

theorem slot?_of_parent (h : tree.resolveParent working path = .ok (parent, some name)) :
    tree.slot? working path = some (parent ++ [name]) :=
  slot?_eq_some_iff.mpr ⟨parent, name, rfl, h⟩

theorem agreeApartFrom_update (tree : FileTree) (place : Place) (entry : Option Entry) :
    tree.AgreeApartFrom place (tree.update place entry) := by
  intro elsewhere helsewhere
  simp [update, helsewhere]

theorem update_eq_of_agree (h : tree.AgreeApartFrom place other) (entry : Option Entry) :
    tree.update place entry = other.update place entry := by
  have hentries : FileTree.entry? (tree.update place entry) =
      FileTree.entry? (other.update place entry) := by
    funext elsewhere
    by_cases hplace : elsewhere = place
    · simp [update, hplace]
    · simp [update, hplace, h elsewhere hplace]
  exact congrArg FileTree.mk hentries

theorem update_of_nothing (h : tree.at? (parent ++ [name]) = none) :
    tree.update (parent ++ [name]) none = tree := by
  have hentry : tree.entry? (parent ++ [name]) = none := by simpa [at?] using h
  have hagree : FileTree.entry? (tree.update (parent ++ [name]) none) = tree.entry? := by
    funext elsewhere
    by_cases hplace : elsewhere = parent ++ [name]
    · simp [update, hplace, hentry]
    · simp [update, hplace]
  exact congrArg FileTree.mk hagree

/-- The walk to a slot goes by no file that is there. -/
theorem slot?_of_agree (hslot : tree.slot? working path = some place)
    (hfree : tree.at? place ≠ some .directory) (h : tree.AgreeApartFrom place other) :
    other.slot? working path = some place := by
  -- the changed place is no directory, so every directory on the way is still there
  have hkeeps : tree.KeepsDirectories other := by
    intro elsewhere hdirectory
    have helsewhere : elsewhere ≠ place := fun heq ↦ hfree (heq ▸ hdirectory)
    rw [← hdirectory, at?, at?, h elsewhere helsewhere]
  obtain ⟨parent, name, rfl, hparent⟩ := slot?_eq_some_iff.mp hslot
  exact slot?_of_parent (resolveParent_of_keeps hkeeps hparent)

theorem slot?_of_changesAt (hfree : tree.NoDirectory working path)
    (h : tree.ChangesAt working path other) :
    other.slot? working path = tree.slot? working path := by
  rcases h with rfl | ⟨place, hslot, hagree⟩
  · rfl
  · rw [slot?_of_agree hslot (hfree place hslot) hagree, hslot]

theorem ChangesAt.symm (h : tree.ChangesAt working path other)
    (hfree : tree.NoDirectory working path) : other.ChangesAt working path tree := by
  have hsame := slot?_of_changesAt hfree h
  rcases h with rfl | ⟨place, hslot, hagree⟩
  · exact Or.inl rfl
  · refine Or.inr ⟨place, by rw [hsame, hslot], ?_⟩
    intro elsewhere helsewhere
    exact (hagree elsewhere helsewhere).symm

theorem ChangesAt.trans (hfirst : tree.ChangesAt working path middle)
    (hsecond : middle.ChangesAt working path other) (hfree : tree.NoDirectory working path) :
    tree.ChangesAt working path other := by
  have hsame := slot?_of_changesAt hfree hfirst
  rcases hfirst with rfl | ⟨place, hslot, hagree⟩
  · exact hsecond
  rcases hsecond with rfl | ⟨place', hslot', hagree'⟩
  · exact Or.inr ⟨place, hslot, hagree⟩
  · obtain rfl : place = place' := Option.some.inj (by rw [← hslot, ← hsame, hslot'])
    refine Or.inr ⟨place, hslot, ?_⟩
    intro elsewhere helsewhere
    rw [hagree elsewhere helsewhere, hagree' elsewhere helsewhere]

theorem changesAt_vacate (tree : FileTree) (working : Place) (path : Path) :
    tree.ChangesAt working path (tree.vacate working path) := by
  unfold vacate
  split
  · rename_i place hslot
    exact Or.inr ⟨place, hslot, agreeApartFrom_update tree place none⟩
  · exact Or.inl rfl

theorem noDirectory_vacate (h : tree.NoDirectory working path) :
    (tree.vacate working path).NoDirectory working path := by
  intro place hslot
  rw [slot?_of_changesAt h (changesAt_vacate tree working path)] at hslot
  obtain ⟨parent, name, rfl, -⟩ := slot?_eq_some_iff.mp hslot
  rw [vacate, hslot]
  simp [at?_update]

theorem sameButFile_vacate (h : tree.NoDirectory working path) :
    SameButFile working path tree (tree.vacate working path) :=
  ⟨changesAt_vacate tree working path, h, noDirectory_vacate h⟩

theorem read_eq_ok_iff_found? {contents : Octets} : tree.read working path = .ok contents ↔
    ∃ program, tree.found? working path = some (.file contents program) := by
  rw [read_eq_ok_iff, exists_comm]
  refine exists_congr fun program ↦ ?_
  unfold found?
  split
  · rename_i place hplace
    simp [hplace]
  · rename_i hnone
    simp [hnone]

theorem write_of_parent {contents : Octets}
    (hparent : tree.resolveParent working path = .ok (parent, some name))
    (hslash : path.endsInSlash = false) (hname : nameIsTooLong name = false)
    (hfree : tree.at? (parent ++ [name]) ≠ some .directory) :
    tree.write working path contents =
      .ok (tree.update (parent ++ [name]) (some (.file contents none))) :=
  write_eq_ok_iff.mpr ⟨parent, name, hparent, hslash, hname, hfree, rfl⟩

/-- Writing again is as writing for the first time. -/
theorem write_write {first : Octets} (h : tree.write working path first = .ok other)
    (second : Octets) : other.write working path second = tree.write working path second := by
  obtain ⟨parent, name, hparent, hslash, hname, hfree, rfl⟩ := write_eq_ok_iff.mp h
  have hparent' := resolveParent_of_keeps
    (keepsDirectories_update hfree (some (.file first none))) hparent
  have hlast := update_eq_of_agree
    (agreeApartFrom_update tree (parent ++ [name]) (some (.file first none)))
    (some (.file second none))
  rw [write_of_parent hparent hslash hname hfree, hlast]
  exact write_of_parent hparent' hslash hname (by simp [at?_update])

/-- What was written is at the slot of the path. -/
theorem changesAt_of_write {contents : Octets}
    (h : tree.write working path contents = .ok other) :
    tree.NoDirectory working path ∧ tree.ChangesAt working path other ∧
      other.NoDirectory working path := by
  obtain ⟨parent, name, hparent, -, -, hentry, rfl⟩ := write_eq_ok_iff.mp h
  have hslot := slot?_of_parent hparent
  have hagree := agreeApartFrom_update tree (parent ++ [name]) (some (.file contents none))
  refine ⟨?_, Or.inr ⟨_, hslot, hagree⟩, ?_⟩
  · intro place hplace
    obtain rfl := Option.some.inj (hslot.symm.trans hplace)
    exact hentry
  · intro place hplace
    rw [slot?_of_agree hslot hentry hagree] at hplace
    obtain rfl := Option.some.inj hplace
    simp [at?_update]

end FileTree

end ScriptEmbed.Files
