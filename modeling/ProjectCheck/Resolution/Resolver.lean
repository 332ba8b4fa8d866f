import ProjectCheck.Import.Specifier
import ProjectCheck.Manifest.Loader
import ProjectCheck.Resolution.Target

/-!
# Resolving specifiers

Which file of a project a specifier stands for.  A module of the platform stands for itself, and a
specifier that is neither relative nor an alias for no file.  For all others there is a sequence of
candidates: those of each alias pattern that matches, in the order of the manifest, and behind them
those of the relative path.  The first candidate that exists is the answer, and no candidate after
it is looked at.

Whether a candidate exists is answered by a tree of files if there is one, else by reading it from
the sandbox; where there is neither, no candidate exists.
-/

namespace ProjectCheck

open ProjectCheck.Text

/-- What a specifier stands for, and the candidates that were tried. -/
structure Resolution where
  target : Option String
  tried : List String := []
deriving Repr, DecidableEq

namespace Resolution

/-- Whether a specifier stands for something. -/
def isFound (r : Resolution) : Bool :=
  r.target.isSome

/-! ## Candidates -/

/-- A path with each of some endings. -/
def withEndings (path : String) (endings : List String) : List String :=
  endings.map (path ++ ·)

/-- The candidates of a relative path: the source files of that name. -/
def sourceFiles (path : String) : List String :=
  withEndings path Path.sourceExtensions

/-- The candidates of an alias target: the source files of that name, then the index files of the
directory of that name. -/
def sourceOrIndexFiles (path : String) : List String :=
  sourceFiles path ++ withEndings (path ++ "/index") Path.indexExtensions

/-- The targets of a specifier by one alias of a manifest. -/
def aliasTargets (baseUrl : Option String) (specifier : String)
    (entry : String × List String) : List String :=
  match (AliasPattern.ofText entry.1.toList).match? specifier.toList with
  | none => []
  | some found => entry.2.map fun replacement =>
    joinBaseUrl baseUrl (String.ofList (fillStar found.filling replacement.toList))

/-- The candidates of a specifier by the aliases of a manifest. -/
def aliasCandidates (manifest : Manifest) (specifier : String) : List String :=
  (manifest.aliases.flatMap (aliasTargets manifest.baseUrl specifier)).flatMap sourceOrIndexFiles

/-- The candidates of a specifier as a relative path. -/
def relativeCandidates (specifier origin : String) : List String :=
  if Import.isRelative specifier then sourceFiles (relativeTarget specifier origin) else []

/-- All candidates of a specifier in a file, in the order in which they are looked at. -/
def candidates (manifest : Manifest) (specifier origin : String) : List String :=
  aliasCandidates manifest specifier ++ relativeCandidates specifier origin

/-! ## Probing -/

/-- What answers whether a file exists. -/
inductive Sight where
  | tree (files : FileTree)
  | sandbox (client : Client) (name : String)
  | blind

namespace Sight

variable {τ : Type}

/-- The sight that the parts at hand allow. -/
def of (client : Option Client) (sandbox : Option String) (tree : Option FileTree) : Sight :=
  match tree, client, sandbox with
  | some files, _, _ => .tree files
  | none, some client, some name => .sandbox client name
  | none, _, _ => .blind

/-- Whether a file exists. -/
def sees (sight : Sight) (path : String) : Work τ Bool :=
  match sight with
  | .tree files => return files.contains path
  | .sandbox client name => return (← Sandbox.readContent client name path).isSome
  | .blind => return false

/-- Looks for the first path that exists. -/
def findFirst (sight : Sight) : List String → Work τ Resolution
  | [] => return { target := none }
  | path :: rest => do
    if ← sight.sees path then return { target := some path, tried := [path] }
    else
      let others ← findFirst sight rest
      return { others with tried := path :: others.tried }

end Sight

/-! ## Suggestions -/

/-- What is suggested where no candidate was looked at. -/
def defaultSuggestion : String :=
  "Fix import path or create missing file"

/-- The name of the file that a candidate stands for, without its extension. -/
def baseName (candidate : String) : List Char :=
  Path.dropSourceExtension (Path.lastSegment candidate.toList)

/-- What to import in place of a specifier that stands for nothing: the file of the tree that is
named most alike, or else the first candidate. -/
def suggestion (candidates : List String) (tree : Option FileTree) : String :=
  match candidates with
  | [] => defaultSuggestion
  | first :: _ =>
    let named := (tree.map fun tree => tree.similar (baseName first)).getD []
    String.ofList (Path.dropSourceExtension (named.headD first).toList)

end Resolution

/-! ## Resolvers -/

/-- What resolving needs to know: the client, where the manifest is, and how aliases begin. -/
structure Resolver where
  client : Option Client := none
  manifestPath : String := "tsconfig.json"
  aliasLead : String := "@/"

namespace Resolver

/-- Whether a specifier is one that stands for a file of the project. -/
def isLocal (r : Resolver) (specifier : String) : Bool :=
  Import.isRelative specifier ||
    (afterPrefix? r.aliasLead.toList specifier.toList).isSome

variable {τ : Type} [Sub τ] [LE τ] [DecidableLE τ]

/-- What a specifier in a file stands for.  Without a sandbox the manifest does not count. -/
def resolve (r : Resolver) (specifier origin : String) (sandbox : Option String)
    (tree : Option FileTree) : Work τ Resolution := do
  if Import.isPlatformModule specifier then return { target := some specifier }
  else if !r.isLocal specifier then return { target := none }
  else
    let manifest ← Manifest.of r.client r.manifestPath sandbox
    (Resolution.Sight.of r.client sandbox tree).findFirst
      (Resolution.candidates manifest specifier origin)

end Resolver

end ProjectCheck
