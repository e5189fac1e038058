import CompileServer.FileSystem.Listing
import CompileServer.Shell.Pattern

/-!
# Patterns for paths

A word with a pattern stands for the paths of what is there and matches it, name by name.
-/

namespace CompileServer.Shell

namespace PathPattern

/-- A name in a path, which may be a pattern, after the slashes in front of it. -/
structure Segment where
  slashes : String
  name : List Glyph

/-- The segments of an expanded word. -/
def segments (slashes : String) (name : List Glyph) : List Glyph → List Segment
  | [] => [⟨slashes, name.reverse⟩]
  | glyph :: rest =>
    if glyph.char? = some '/' then
      if (Glyph.text name).isEmpty then segments (slashes.push '/') [] rest
      else ⟨slashes, name.reverse⟩ :: segments "/" [] rest
    else segments slashes (glyph :: name) rest

/-- Whether a name matches a pattern; a dot at the start has to be named. -/
def matchesName (pattern : Pattern) (name : String) : Bool :=
  pattern.holds name.toList && (!name.startsWith "." || pattern.head? = some (.char '.'))

/-- The paths that go on from a path with a segment. -/
def extend (files : FileSystem) (path : String) (segment : Segment) : List String :=
  let pattern := Pattern.ofGlyphs segment.name
  let base := path ++ segment.slashes
  if pattern.isProper then
    match files.list ⟨if base.isEmpty then "." else base⟩ with
    | .ok names =>
      ((["." , ".."] ++ names).filter (matchesName pattern)).map (base ++ ·)
    | .error _ => []
  else [base ++ Glyph.text segment.name]

/-- The paths that an expanded word stands for.  A word that is no pattern, or matches nothing,
stands for itself. -/
def expand (files : FileSystem) (word : List Glyph) : List String :=
  if (Pattern.ofGlyphs word).isProper then
    let found := (segments "" [] word).foldl
      (fun paths segment => paths.flatMap fun path => extend files path segment) [""]
    let there := found.filter fun path => files.names ⟨path⟩
    if there.isEmpty then [Glyph.text word]
    else there.mergeSort fun a b => decide (a ≤ b)
  else [Glyph.text word]

end PathPattern

end CompileServer.Shell
