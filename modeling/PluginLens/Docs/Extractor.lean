import PluginLens.Docs.Doclet

/-!
# Documentation extractors

An extractor turns a list of files into documentation data, or says why it cannot. The
built-in one reads each file, collects its doclets, and numbers them across all files in
order; the first file that cannot be read or parsed stops it. Extraction can also be
switched off, which gives `null` for any files.
-/

namespace PluginLens.Docs

abbrev SourceReader := String → Except InspectError String

abbrev DocExtractor := List String → Except InspectError Json

/-- The doclets of each file in turn, stopping at the first failure. -/
def docletsOfFiles (read : SourceReader) : List String → Except InspectError (List Doclet)
  | [] => .ok []
  | p :: rest => do
    let text ← match read p with
      | .ok t => .ok t
      | .error e => .error (.docs e.message)
    let here ← docletsOf p text
    let later ← docletsOfFiles read rest
    pure (here ++ later)

def builtinExtractor (read : SourceReader) : DocExtractor :=
  fun paths => (docletsOfFiles read paths).map numbered

def disabledExtractor : DocExtractor := fun _ => .ok .null

end PluginLens.Docs
