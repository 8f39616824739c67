import RpgLint.Failure
import RpgLint.Pattern.Reader
import RpgLint.Text.Characters
import RpgLint.Source.GlobReader
import RpgLint.Source.Path

/-!
# Which files are sources

## Main definitions

* `SourceFilter` — the extensions of sources, and the paths to leave out.
* `SourceFilter.of` — the filter that settings ask for.
* `SourceFilter.includes` — a file found in a directory is a source.
-/

namespace RpgLint

/-- Which files found in a directory are sources. -/
structure SourceFilter where
  /-- Extensions of sources without the dot; without any, all files are sources. -/
  extensions : List String
  /-- Paths to leave out. -/
  excluded : List Glob

namespace SourceFilter

/-- The extension without leading dots. -/
def plainExtension (extension : String) : String :=
  String.ofList (Chars.dropStart (· == '.') extension.toList)

/-- The glob that a text writes. -/
def readGlob (text : String) : Except Failure Glob :=
  match Glob.read text with
  | .ok glob => .ok glob
  | .error fault => .error (.badGlob text fault.message)

/-- The filter for the given extensions, with the globs of paths to leave out.  Globs that are well
formed are looked at together afterwards: none may be nested deeper than a pattern. -/
def of (extensions exclude : List String) : Except Failure SourceFilter :=
  match exclude.mapM readGlob with
  | .error failure => .error failure
  | .ok globs =>
    if globs.all (·.depth ≤ Pattern.depthLimit) then .ok ⟨extensions.map plainExtension, globs⟩
    else .error (.badGlob "combined patterns" PatternFault.nestedTooDeep.message)

/-- The path is to be left out. -/
def isExcluded (filter : SourceFilter) (path : String) : Bool :=
  filter.excluded.any (·.accepts path)

/-- The path has an extension of sources, in either case. -/
def hasExtension (filter : SourceFilter) (path : String) : Bool :=
  filter.extensions.isEmpty || (match Path.extension? path with
    | some extension => filter.extensions.any fun known => upper known == upper extension
    | none => false)

/-- A file found at the path is a source. -/
def includes (filter : SourceFilter) (path : String) : Bool :=
  filter.hasExtension path && !filter.isExcluded path

end SourceFilter

end RpgLint
