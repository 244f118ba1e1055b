import Mathlib.Tactic.SplitIfs
import ScriptEmbed.Proofs.Files.Slot

/-!
Where a path leads by its names alone. A walk that comes to an end ends there
(`destination_of_walk`), so an absolute path leads to one place, from any working directory and in
any tree in which it leads to something. A path that is joined from a directory and a name leads
there through that directory (`workingDirectory_of_resolve`). What is done at a path that is joined
to a directory may be done from that directory at the path itself (`resolve_join`,
`resolveParent_join` and what follows from them).
-/

set_option autoImplicit false
set_option relaxedAutoImplicit false

namespace ScriptEmbed.Files

namespace Path

variable {base name : Path}

/-- The place that one name leads to, if something is there. -/
def follow (place : Place) (name : Text) : Place :=
  if name = here then place else if name = up then place.dropLast else place ++ [name]

/-- The place that a path leads to, if something is there. -/
def destination (working : Place) (path : Path) : Place :=
  (names path).foldl follow (FileTree.origin working path)

theorem names_of_isName (h : name.IsName) : names name = [name] := by
  rw [names, List.splitOn_eq_singleton h.2]
  simp [h.1]

theorem ne_nil_of_isAbsolute (h : base.isAbsolute = true) : base ≠ [] := by
  rintro rfl
  cases h

theorem contains_slash_of_isAbsolute (h : base.isAbsolute = true) :
    base.contains '/' = true := by
  have hhead : base.head? = some '/' := by simpa [isAbsolute] using h
  simpa using List.mem_of_head? hhead

end Path

namespace FileTree

variable {tree : FileTree} {working start place : Place} {base part path : Path} {name : Text}

theorem follow_of_enter (h : tree.enter start name = .ok place) :
    place = Path.follow start name := by
  rcases (enter_eq_ok_iff.mp h).2 with ⟨rfl, rfl⟩ | ⟨rfl, rfl⟩ | ⟨hhere, hup, -, -, rfl⟩
  · rfl
  · rfl
  · rw [Path.follow, if_neg hhere, if_neg hup]

theorem destination_of_walk {names : List Text} (h : tree.walk start names = .ok place) :
    place = names.foldl Path.follow start := by
  induction names generalizing start with
  | nil => exact pure_eq_ok_iff.mp h
  | cons name names ih =>
    obtain ⟨next, henter, hrest⟩ := bind_eq_ok_iff.mp h
    rw [List.foldl_cons, ← follow_of_enter henter]
    exact ih hrest

theorem resolve_eq_ok_iff_walk : tree.resolve working path = .ok place ↔
    checkPath path = .ok () ∧ tree.walk (origin working path) path.names = .ok place ∧
      (path.endsInSlash = true → tree.at? place = some .directory) := by
  rw [resolve, bind_unit_eq_ok_iff, bind_eq_ok_iff]
  refine and_congr_right fun _ ↦ ?_
  by_cases hslash : path.endsInSlash = true
  · simp only [hslash, ↓reduceIte, bind_unit_eq_ok_iff, demandDirectory_eq_ok_iff, pure_eq_ok_iff]
    constructor
    · rintro ⟨middle, hwalk, hdirectory, rfl⟩
      exact ⟨hwalk, fun _ ↦ hdirectory⟩
    · rintro ⟨hwalk, hdirectory⟩
      exact ⟨place, hwalk, hdirectory trivial, rfl⟩
  · simp [hslash]

theorem destination_of_resolve (h : tree.resolve working path = .ok place) :
    place = Path.destination working path :=
  destination_of_walk (resolve_eq_ok_iff_walk.mp h).2.1

theorem workingDirectory_eq_ok_iff : tree.workingDirectory working path = .ok place ↔
    tree.resolve working path = .ok place ∧ tree.at? place = some .directory := by
  rw [workingDirectory, bind_eq_ok_iff]
  constructor
  · rintro ⟨middle, hresolve, hrest⟩
    obtain ⟨hdirectory, hvalue⟩ := bind_unit_eq_ok_iff.mp hrest
    cases pure_eq_ok_iff.mp hvalue
    exact ⟨hresolve, demandDirectory_eq_ok_iff.mp hdirectory⟩
  · rintro ⟨hresolve, hdirectory⟩
    exact ⟨place, hresolve,
      bind_unit_eq_ok_iff.mpr ⟨demandDirectory_eq_ok_iff.mpr hdirectory, rfl⟩⟩

theorem checkPath_eq_ok_iff : checkPath path = .ok () ↔
    path.contains '\x00' = false ∧ (Octets.ofText path).length < pathLimit ∧ path ≠ [] := by
  unfold checkPath
  split_ifs with hnul hlong hempty
  · exact iff_of_false (fun h ↦ by cases h) fun h ↦ by rw [hnul] at h; cases h.1
  · simp [Nat.not_lt.mpr hlong]
  · simp [List.isEmpty_iff.mp hempty]
  · have hsome : path ≠ [] := fun hnil ↦ hempty (List.isEmpty_iff.mpr hnil)
    simpa [hsome, Nat.not_le.mp hlong] using hnul

/-- What is part of a path that may be looked up may be looked up, unless it is empty. -/
theorem checkPath_of_part (h : checkPath path = .ok ()) (hpart : part ≠ [])
    (hwithin : part <:+: path) : checkPath part = .ok () := by
  obtain ⟨front, back, rfl⟩ := hwithin
  obtain ⟨hnul, hshort, -⟩ := checkPath_eq_ok_iff.mp h
  refine checkPath_eq_ok_iff.mpr ⟨?_, ?_, hpart⟩
  · simp only [List.contains_append, Bool.or_eq_false_iff] at hnul
    exact hnul.1.2
  · simp only [Octets.ofText, List.flatMap_append, List.length_append] at hshort ⊢
    omega

theorem origin_join (hpart : part.isAbsolute = false) (working : Place) (base : Path) :
    origin working (Path.join base part) = origin working base := by
  rw [origin, origin, Path.isAbsolute_join hpart]

/-- Something that is there has the directory it was joined from above it. -/
theorem workingDirectory_of_resolve (hbase : base ≠ []) (hname : Path.IsName name)
    (h : tree.resolve working (Path.join base name) = .ok place) :
    tree.workingDirectory working base = .ok (Path.destination working base) := by
  obtain ⟨hcheck, hwalk, -⟩ := resolve_eq_ok_iff_walk.mp h
  rw [Path.names_join hname.relative, origin_join hname.relative, Path.names_of_isName hname,
    walk_concat, bind_eq_ok_iff] at hwalk
  obtain ⟨parent, hparent, henter⟩ := hwalk
  have hfront := (Path.prefix_join hname.relative base).isInfix
  have hresolve : tree.resolve working base = .ok parent :=
    resolve_eq_ok_iff_walk.mpr ⟨checkPath_of_part hcheck hbase hfront, hparent,
      fun _ ↦ at?_of_enter henter⟩
  rw [← destination_of_resolve hresolve]
  exact workingDirectory_eq_ok_iff.mpr ⟨hresolve, at?_of_enter henter⟩

theorem resolve_of_isAbsolute (h : path.isAbsolute = true) (other : Place) :
    tree.resolve working path = tree.resolve other path := by
  simp only [resolve, origin, h, ↓reduceIte]

theorem program_of_isAbsolute (h : path.isAbsolute = true) (other : Place) :
    tree.program working path = tree.program other path := by
  rw [program, program, resolve_of_isAbsolute h other]

theorem resolve_of_program {conduct : Conduct} (h : tree.program working path = .ok conduct) :
    ∃ place, tree.resolve working path = .ok place := by
  obtain ⟨place, hresolve, -⟩ := bind_eq_ok_iff.mp h
  exact ⟨place, hresolve⟩

/-! ### A path taken from a directory -/

section

variable (hdirectory : tree.workingDirectory working base = .ok place) (hpart : part ≠ [])
variable (hcheck : checkPath (Path.join base part) = .ok ())

include hdirectory

theorem walk_names_append (names : List Text) :
    tree.walk (origin working base) (base.names ++ names) = tree.walk place names := by
  obtain ⟨-, hwalk, -⟩ := resolve_eq_ok_iff_walk.mp (workingDirectory_eq_ok_iff.mp hdirectory).1
  rw [walk_append, hwalk]
  rfl

include hpart hcheck

/-- A path taken from a directory leads to where it leads when it is joined to it. -/
theorem resolve_join : tree.resolve working (Path.join base part) = tree.resolve place part := by
  have hcheck' := checkPath_of_part hcheck hpart (Path.suffix_join base part).isInfix
  by_cases habsolute : part.isAbsolute = true
  · rw [Path.join_of_absolute habsolute]
    exact resolve_of_isAbsolute habsolute place
  · have hrelative : part.isAbsolute = false := by simpa using habsolute
    have hstart : origin place part = place := if_neg habsolute
    rw [resolve, resolve, hcheck, hcheck', Path.names_join hrelative, origin_join hrelative,
      walk_names_append hdirectory, Path.endsInSlash_join hpart, hstart]

theorem resolveParent_join :
    tree.resolveParent working (Path.join base part) = tree.resolveParent place part := by
  have hcheck' := checkPath_of_part hcheck hpart (Path.suffix_join base part).isInfix
  by_cases habsolute : part.isAbsolute = true
  · rw [Path.join_of_absolute habsolute]
    simp only [resolveParent, origin, habsolute, ↓reduceIte]
  · have hrelative : part.isAbsolute = false := by simpa using habsolute
    have hstart : origin place part = place := if_neg habsolute
    have hnames := Path.names_ne_nil hpart hrelative
    have hparent : tree.walk (origin working base) (base.names ++ part.names).dropLast =
        tree.walk place part.names.dropLast := by
      rw [List.dropLast_append_of_ne_nil hnames, walk_names_append hdirectory]
    have hlast : (base.names ++ part.names).getLast? = part.names.getLast? := by
      rw [List.getLast?_append, List.getLast?_eq_some_getLast hnames, Option.some_or]
    simp only [resolveParent, hcheck, hcheck', Path.names_join hrelative, origin_join hrelative,
      hstart, hparent, hlast]

theorem readText_join :
    tree.readText working (Path.join base part) = tree.readText place part := by
  rw [readText, readText, read, read, resolve_join hdirectory hpart hcheck]

theorem remove_join : tree.remove working (Path.join base part) = tree.remove place part := by
  rw [remove, remove, resolveParent_join hdirectory hpart hcheck, Path.endsInSlash_join hpart]

theorem write_join (contents : Octets) :
    tree.write working (Path.join base part) contents = tree.write place part contents := by
  rw [write, write, resolveParent_join hdirectory hpart hcheck, Path.endsInSlash_join hpart]

end

/-- A name in a directory that is there, in a path that is not too long. -/
theorem resolveParent_join_name (hname : Path.IsName name) (hhere : name ≠ Path.here)
    (hup : name ≠ Path.up) (hcheck : checkPath (Path.join base name) = .ok ())
    (h : tree.workingDirectory working base = .ok place) :
    tree.resolveParent working (Path.join base name) = .ok (place, some name) := by
  have hcheck' := checkPath_of_part hcheck hname.1 (Path.suffix_join base name).isInfix
  have hstart : origin place name = place := by rw [origin, hname.relative]; rfl
  rw [resolveParent_join h hname.1 hcheck, resolveParent_eq_ok_some_iff,
    Path.names_of_isName hname, hstart]
  exact ⟨hcheck', rfl, (workingDirectory_eq_ok_iff.mp h).2, rfl, hhere, hup⟩

end FileTree

end ScriptEmbed.Files
