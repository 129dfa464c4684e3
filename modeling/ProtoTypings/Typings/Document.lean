import ProtoTypings.Typings.Options

/-!
# Documents

The generated document: its imports, then the lines joined by line feeds and otherwise as they are,
then the brace that closes the namespace where a package was named.

The type `Stream` is imported when some line holds the word, in whatever role, and streams are not
stripped.

The layout is that of the Jinja2 template `declarations`. `Document.text` is the text that Jinja2
renders from it under two assumptions: autoescaping is off, so the imports and the lines are put in
as they are (`<`, `&` and the like too), and the newline at the end of the template is dropped, so a
document ends with its last line or with the brace. The newlines inside the template are kept: one
follows the import of `Observable`, and two follow that of `Stream`.
-/

namespace ProtoTypings

/-- The line that imports `Observable`. -/
def observableImport : Text :=
  "import \x7b Observable \x7d from 'rxjs';".toList

/-- The library that provides the type `Stream` for a mode; stripped streams need none. -/
def StreamMode.library? : StreamMode → Option Text
  | .strip => none
  | .generic => some "ts-stream".toList
  | .native => some "stream".toList

/-- The line that imports `Stream` from a library. -/
def streamImport (library : Text) : Text :=
  "import Stream from '".toList ++ library ++ ['\x27']

/-- Whether some line holds the word `Stream`. -/
def mentionsStream (lines : List Text) : Bool :=
  lines.any (Text.holds "Stream".toList)

/-- The library that lines need for the type `Stream`. -/
def StreamMode.neededLibrary? (mode : StreamMode) (lines : List Text) : Option Text :=
  if mentionsStream lines then mode.library? else none

/-- What a document is put together from. -/
structure Document where
  importsObservable : Bool
  /-- The library that `Stream` is imported from. -/
  streamLibrary : Option Text
  lines : List Text
  /-- Whether the lines open a namespace, which is still to be closed. -/
  inNamespace : Bool
  deriving DecidableEq, Repr

/-- The text of a document, as the template is rendered. -/
def Document.text (document : Document) : Text :=
  (if document.importsObservable then observableImport ++ ['\n'] else [])
    ++ (document.streamLibrary.map fun library => streamImport library ++ ['\n', '\n']).getD []
    ++ Text.joinWith ['\n'] document.lines
    ++ if document.inNamespace then ['\n', '}'] else []

/-- The document of the given lines. A stream setting that is no mode has no library; it is
returned as the reason when the lines need one. -/
def Document.assemble (options : Options) (inNamespace : Bool) (lines : List Text) :
    Except StreamSetting Document :=
  match options.streams with
  | .mode mode => .ok ⟨options.useObservable, mode.neededLibrary? lines, lines, inNamespace⟩
  | setting =>
    if mentionsStream lines then .error setting
    else .ok ⟨options.useObservable, none, lines, inNamespace⟩

end ProtoTypings
