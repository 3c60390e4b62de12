import MetastoreProbe.Proofs.Settings.Validity
import MetastoreProbe.Settings.File

/-!
# How settings are loaded

`Settings.Course` lists the ways in which loading a settings file can go, with what comes of each:
the file is not read, its bytes are no text, the text is no document or spells no settings, the
settings break a condition, or they are loaded.  `Settings.course_load` says that loading goes one
of these ways, so that it need not be taken apart again.
-/

namespace MetastoreProbe

namespace Settings

/-- The ways in which loading the settings at a path can go. -/
inductive Course (files : Files) (path : String) (wording : Toml.Wording) :
    Except ConfigFault Settings → Prop
  | unread (fault : FileFault) (failed : files path = .error fault) :
    Course files path wording (.error (.unreadable path fault.message))
  /-- The bytes of the file are no text. -/
  | garbled {bytes : Bytes} (fault : Utf8.Fault) (read : files path = .ok bytes)
    (failed : Utf8.decode bytes = .error fault) :
    Course files path wording
      (.error (.unreadable path "stream did not contain valid UTF-8"))
  | malformed {bytes : Bytes} {text : String} (fault : Toml.Fault) (read : files path = .ok bytes)
    (decoded : Utf8.decode bytes = .ok text) (failed : spelled text = .error fault) :
    Course files path wording (.error (.malformed (wording text fault)))
  | invalid {bytes : Bytes} {text : String} (settings : Settings) (violation : Violation)
    (read : files path = .ok bytes) (decoded : Utf8.decode bytes = .ok text)
    (spells : spelled text = .ok settings) (listed : violation ∈ Violation.inOrder)
    (failed : settings.validate = .error (.invalid violation)) :
    Course files path wording (.error (.invalid violation))
  | loaded {bytes : Bytes} {text : String} (settings : Settings) (read : files path = .ok bytes)
    (decoded : Utf8.decode bytes = .ok text) (spells : spelled text = .ok settings)
    (valid : settings.validate = .ok ()) : Course files path wording (.ok settings)

variable {files : Files} {path : String} {wording : Toml.Wording}

/-- **Loading settings takes one of its courses.** -/
theorem course_load (files : Files) (path : String) (wording : Toml.Wording) :
    Course files path wording (load files path wording) := by
  unfold load
  split
  next fault failed => exact .unread fault failed
  next bytes read =>
    split
    next fault failed => exact .garbled fault read failed
    next text decoded =>
      unfold ofText
      split
      next fault failed => exact .malformed fault read decoded failed
      next settings spells =>
        split
        next failed =>
          obtain ⟨violation, listed, rfl⟩ := exists_violation_of_validate failed
          exact .invalid settings violation read decoded spells listed failed
        next valid => exact .loaded settings read decoded spells valid

/-- Settings that were loaded are valid. -/
theorem validate_of_load {settings : Settings} (loaded : load files path wording = .ok settings) :
    settings.validate = .ok () := by
  have course := course_load files path wording
  rw [loaded] at course
  cases course with
  | loaded _ _ _ _ valid => exact valid

end Settings

end MetastoreProbe
