import ScriptEmbed.Files.Path

/-!
What a bundling engine is asked for: the directory that it runs in, the script to start from, the
file to write, and how the bundle is to be written.
-/

set_option autoImplicit false
set_option relaxedAutoImplicit false

namespace ScriptEmbed.Bundle

open Files

/-- The name of the bundle in the tool's directory. -/
def artifactName : Path := "eslint_bundle.js".toList

/-- The wrapper that the engine puts around a bundle. -/
inductive Format
  | iife
  deriving DecidableEq

/-- The conventions by which built-in modules are found. -/
inductive Platform
  | node
  deriving DecidableEq

def Format.name : Format → Text
  | .iife => "iife".toList

def Platform.name : Platform → Text
  | .node => "node".toList

structure Spec where
  /-- The entry point and the output file are relative to it. -/
  workingDirectory : Path
  entryPoint : Path
  outputFile : Path
  format : Format
  platform : Platform
  stripLegalComments : Bool
  deriving DecidableEq

namespace Spec

def ofPaths (workingDirectory entryPoint outputFile : Path) : Spec where
  workingDirectory := workingDirectory
  entryPoint := entryPoint
  outputFile := outputFile
  format := .iife
  platform := .node
  stripLegalComments := true

def outputPath (spec : Spec) : Path := Path.join spec.workingDirectory spec.outputFile

/-- The arguments that ask an engine for this bundle; the output file comes last. -/
def engineArgs (spec : Spec) : List Text :=
  [spec.entryPoint, "--bundle".toList, "--format=".toList ++ spec.format.name,
    "--platform=".toList ++ spec.platform.name] ++
  (if spec.stripLegalComments then ["--legal-comments=none".toList] else []) ++
  ["--outfile=".toList ++ spec.outputFile]

end Spec

end ScriptEmbed.Bundle
