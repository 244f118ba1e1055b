import ScriptEmbed.Text.Blank

/-!
What the pipeline looks at in a tool's dependency manifest: the package's name and version and the
two maps from package names to version requirements.
-/

set_option autoImplicit false
set_option relaxedAutoImplicit false

namespace ScriptEmbed

/-- Package names with their version requirements, each name once. -/
abbrev Requirements := List (Text × Text)

namespace Requirements

def get? (requirements : Requirements) (package : Text) : Option Text := requirements.lookup package

/-- Sets a package's requirement; a later one replaces an earlier one. -/
def insert (requirements : Requirements) (package requirement : Text) : Requirements :=
  requirements.filter (·.1 ≠ package) ++ [(package, requirement)]

theorem get?_insert_self (requirements : Requirements) (package requirement : Text) :
    (requirements.insert package requirement).get? package = some requirement := by
  simp only [get?, insert, List.lookup_append]
  have h : List.lookup package (requirements.filter (·.1 ≠ package)) = none := by
    rw [List.lookup_eq_none_iff]
    intro pair hpair
    have := (List.mem_filter.mp hpair).2
    simp at this ⊢
    exact fun h ↦ this h.symm
  rw [h, List.lookup_cons_self, Option.none_or]

end Requirements

structure Manifest where
  name : Option Text := none
  version : Option Text := none
  dependencies : Requirements := []
  devDependencies : Requirements := []
  deriving DecidableEq

namespace Manifest

def fileName : Text := "package.json".toList

/-- The package that provides the bundling engine. -/
def enginePackage : Text := "esbuild".toList

/-- What the manifest requires of a package, development dependencies coming second. -/
def requirement? (manifest : Manifest) (package : Text) : Option Text :=
  (manifest.dependencies.get? package).or (manifest.devDependencies.get? package)

/-- The name, with the version if there is one too. -/
def label (manifest : Manifest) : Text :=
  match manifest.name, manifest.version with
  | some name, some version => name ++ '@' :: version
  | some name, none => name
  | none, _ => "unnamed package".toList

end Manifest

end ScriptEmbed
