import ProjectCheck.CommandLine.Run

/-!
# The program

Reads what a run needs to see of the disk and of the environment into memory, runs, and prints how
the run ended.  It sees the working directory, whatever the words of the command line lead to, and
the settings for all projects.
-/

namespace ProjectCheck.Program

open System ProjectCheck.CommandLine

/-- Directories that are left out, since nothing in them is a source of a project. -/
def skippedNames : List String :=
  [".git", "node_modules"]

/-- How far down directories are read. -/
def maxDepth : Nat :=
  64

/-- Reads what stands at a path; a link leads to where it ends. -/
def readNode : Nat → FilePath → IO Disk.Node
  | 0, _ => return .empty
  | depth + 1, path => do
    match (← path.symlinkMetadata).type with
    | .dir =>
      let entries := (← path.readDir).toList.filter fun entry =>
        !skippedNames.contains entry.fileName
      let nodes ← entries.filterMapM fun entry => do
        try
          return some (entry.fileName, ← readNode depth entry.path)
        catch _ => return none
      return .directory nodes
    | .symlink => return .link (← IO.FS.realPath path).toString
    | _ => return .file (← IO.FS.readBinFile path).toList

/-- The location of a path that is absolute and goes through no link. -/
def locationOf (path : FilePath) : Disk.Location :=
  (Disk.Location.namesOf path.toString).filter fun name => !Disk.isHere name

/-- Adds what stands at a path to a disk, if anything does and the disk does not hold it yet. -/
def addPath (disk : Disk.Node) (path : FilePath) : IO Disk.Node := do
  try
    let place ← IO.FS.realPath path
    if (disk.at? (locationOf place)).isSome then return disk
    return Disk.Node.put (← readNode maxDepth place) (locationOf place) disk
  catch _ => return disk

/-- The paths that a word may name. -/
def pathsIn (word : String) : List FilePath :=
  (word :: (atEqualsSign word).2.toList).map FilePath.mk

/-- What the program finds where it is started with some words. -/
def surroundings (words : List String) : IO Surroundings := do
  let home := (← IO.getEnv "HOME").getD "/"
  let sharedSettings := home ++ "/.config/sandscan/config.yaml"
  let directory ← IO.FS.realPath (← IO.currentDir)
  let paths := directory :: FilePath.mk sharedSettings :: words.flatMap pathsIn
  let disk ← paths.foldlM addPath .empty
  let environment ← Settings.variableNames.filterMapM fun name => do
    return (← IO.getEnv name).map fun content => (name, content)
  return { disk, directory := locationOf directory, environment, home, sharedSettings }

end ProjectCheck.Program

/-- Runs the program with the words of its command line. -/
def main (words : List String) : IO UInt32 := do
  let outcome := ProjectCheck.CommandLine.run (← ProjectCheck.Program.surroundings words) words
  IO.print outcome.output
  IO.eprint outcome.errors
  return UInt32.ofNat outcome.exitCode
