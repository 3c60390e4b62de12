import MetastoreProbe.Files
import MetastoreProbe.Settings.Overlay
import MetastoreProbe.Text.Utf8
import MetastoreProbe.Toml.Parse

/-!
# Settings files

`Settings.load` reads a settings file: its bytes must be text, the text a document, the document
must spell settings, and the settings must be valid.  The first of these that fails is what is
wrong with the file.

How it is told that a document is wrong is left open: whoever loads settings brings a
`Toml.Wording` along.
-/

namespace MetastoreProbe

namespace Settings

/-- The settings that the text of a document spells, valid or not. -/
def spelled (text : String) : Except Toml.Fault Settings :=
  Toml.parse text >>= ofEntries

/-- The valid settings that the text of a document spells. -/
def ofText (text : String) (wording : Toml.Wording) : Except ConfigFault Settings :=
  match spelled text with
  | .error fault => .error (.malformed (wording text fault))
  | .ok settings =>
    match settings.validate with
    | .error fault => .error fault
    | .ok () => .ok settings

/-- The settings in the file at a path. -/
def load (files : Files) (path : String) (wording : Toml.Wording := Toml.Wording.brief) :
    Except ConfigFault Settings :=
  match files path with
  | .error fault => .error (.unreadable path fault.message)
  | .ok bytes =>
    match Utf8.decode bytes with
    | .error _ => .error (.unreadable path "stream did not contain valid UTF-8")
    | .ok text => ofText text wording

end Settings

end MetastoreProbe
