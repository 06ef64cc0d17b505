import AutomataRequest.Config
import AutomataRequest.Proofs.Text.Utf8

/-!
# Loading a configuration

A configuration is loaded in three steps: the bytes of the file are fetched, they are decoded, and
the text is read. The second step is the boundary. A file that is no text is an input fault and
leaves no event; a text is answered as it would be answered without a file, and leaves one event
whether or not it is a configuration.
-/

namespace AutomataRequest

/-- The path leads to the bytes of the text. -/
def FileReader.Holds (files : FileReader) (path text : String) : Prop :=
  ∃ bytes, files path = .ok bytes ∧ Text.Utf8.Spells bytes.data.toList text.toList

section

variable {files : FileReader} {path text : String} {bytes : ByteArray}

theorem FileReader.read_text_ok_iff :
    files.readText path = .ok text ↔ files.Holds path text := by
  unfold FileReader.readText FileReader.Holds
  cases files path with
  | error cause =>
      constructor
      · intro isRead
        cases isRead
      · rintro ⟨bytes, found, -⟩
        cases found
  | ok bytes =>
      change decodeText bytes = .ok text ↔ _
      rw [decode_text_ok_iff]
      constructor
      · intro spelled
        exact ⟨bytes, rfl, spelled⟩
      · rintro ⟨same, found, spelled⟩
        cases found
        exact spelled

/-- Bytes by the table are those of a text. -/
theorem FileReader.holds_of_well_formed (found : files path = .ok bytes)
    (wellFormed : Text.Utf8.WellFormed bytes.data.toList) : ∃ text, files.Holds path text := by
  obtain ⟨chars, spelled⟩ := (Text.Utf8.well_formed_iff_spells _).mp wellFormed
  rw [← String.toList_ofList (l := chars)] at spelled
  exact ⟨String.ofList chars, bytes, found, spelled⟩

theorem FileReader.read_text_of_other_bytes (found : files path = .ok bytes)
    (noText : ¬Text.Utf8.WellFormed bytes.data.toList) :
    files.readText path = .error .notText := by
  unfold FileReader.readText
  rw [found]
  exact (decode_text_error_iff bytes .notText).mpr ⟨rfl, noText⟩

theorem FileReader.read_text_of_fault {cause : ReadFault} (refused : files path = .error cause) :
    files.readText path = .error cause := by
  unfold FileReader.readText
  rw [refused]
  rfl

namespace Config

/-- What comes of loading, with the fault as it is reported. -/
def loadAnswer (files : FileReader) (path : String) : Except Fault Config :=
  (load files path).result.mapError LoadFault.fault

theorem load_of_text (isRead : files.readText path = .ok text) :
    loadAnswer files path = (ofText text).mapError ConfigFault.fault ∧
      (load files path).events = [loadEvent path] := by
  unfold loadAnswer load
  rw [isRead]
  refine ⟨?_, rfl⟩
  cases answered : ofText text with
  | ok config =>
      simp only [answered]
      rfl
  | error cause =>
      simp only [answered]
      rfl

theorem load_of_fault {cause : ReadFault} (unreadable : files.readText path = .error cause) :
    loadAnswer files path = .error (.io cause.message) ∧ (load files path).events = [] := by
  unfold loadAnswer load
  rw [unreadable]
  exact ⟨rfl, rfl⟩

theorem kind_of_text_fault {fault : Fault}
    (failed : (ofText text).mapError ConfigFault.fault = .error fault) :
    fault.kind = .invalidConfig := by
  cases invalid : ofText text with
  | ok config =>
      rw [invalid] at failed
      cases failed
  | error cause =>
      rw [invalid] at failed
      cases failed
      rfl

/-- Of what kind a fault is tells whether there was a text. -/
theorem kind_of_load_fault {fault : Fault} (failed : loadAnswer files path = .error fault) :
    (fault.kind = .invalidConfig ∧ ∃ text, files.Holds path text) ∨
      (fault.kind = .io ∧ ∀ text, ¬files.Holds path text) := by
  cases isRead : files.readText path with
  | ok text =>
      left
      rw [(load_of_text isRead).1] at failed
      exact ⟨kind_of_text_fault failed, text, FileReader.read_text_ok_iff.mp isRead⟩
  | error cause =>
      right
      rw [(load_of_fault isRead).1] at failed
      cases failed
      refine ⟨rfl, ?_⟩
      intro text holds
      rw [FileReader.read_text_ok_iff.mpr holds] at isRead
      cases isRead

end Config

end

/-- A file that holds a text is answered as the text is, and that it was read is the one event; well
formed bytes are always those of a text. All else is an input fault without an event. -/
theorem configuration_is_decoded_then_read (files : FileReader) (path : String) :
    let loaded := Config.load files path
    let answer := loaded.result.mapError LoadFault.fault
    (∀ text, files.Holds path text →
      answer = (Config.ofText text).mapError ConfigFault.fault ∧
      loaded.events =
        [{ level := .debug
           target := "autcmd_core::config"
           message := some "loaded tool configuration"
           fields := [("path", .shown path)] }]) ∧
    (∀ bytes, files path = .ok bytes → Text.Utf8.WellFormed bytes.data.toList →
      ∃ text, files.Holds path text) ∧
    (∀ bytes, files path = .ok bytes → ¬Text.Utf8.WellFormed bytes.data.toList →
      answer = .error (.io "stream did not contain valid UTF-8") ∧ loaded.events = []) ∧
    (∀ cause, files path = .error cause →
      answer = .error (.io cause.message) ∧ loaded.events = []) ∧
    ∀ fault, answer = .error fault →
      (fault.kind = .invalidConfig ∧ ∃ text, files.Holds path text) ∨
      (fault.kind = .io ∧ ∀ text, ¬files.Holds path text) := by
  intro loaded answer
  refine ⟨?_, ?_, ?_, ?_, ?_⟩
  · intro text holds
    exact Config.load_of_text (FileReader.read_text_ok_iff.mpr holds)
  · intro bytes found wellFormed
    exact FileReader.holds_of_well_formed found wellFormed
  · intro bytes found noText
    exact Config.load_of_fault (FileReader.read_text_of_other_bytes found noText)
  · intro cause refused
    exact Config.load_of_fault (FileReader.read_text_of_fault refused)
  · intro fault failed
    exact Config.kind_of_load_fault failed

def blankText : String := "[tool]\nprogram = ' '\n"

/-- A slash that is written as two bytes. -/
def longSlash : ByteArray := ⟨#[0xC0, 0xAF]⟩

/-- One letter of two bytes. -/
def accent : ByteArray := ⟨#[0xC3, 0xA9]⟩

def mixedFiles : FileReader :=
  Folder.reader [("blank.toml", blankText.toUTF8), ("parts/slash.toml", longSlash),
    ("accent.toml", accent)]

theorem long_slash_is_no_text : ¬Text.Utf8.WellFormed longSlash.data.toList :=
  ((decode_text_error_iff longSlash .notText).mp rfl).2

theorem accent_is_text : Text.Utf8.WellFormed accent.data.toList :=
  .append (.two (by decide) ⟨by decide, by decide⟩ rfl) .nil

/-- A text that is no configuration leaves an event. Bytes that are no text leave none, and neither
does the directory that they lie in or a file that is not there. -/
theorem only_refused_text_is_logged :
    mixedFiles.Holds "blank.toml" blankText ∧
    (Config.load mixedFiles "blank.toml").events = [Config.loadEvent "blank.toml"] ∧
    (∃ fault : Fault, (Config.load mixedFiles "blank.toml").result.mapError LoadFault.fault =
      .error fault ∧ fault.kind = .invalidConfig) ∧
    mixedFiles "parts/slash.toml" = .ok longSlash ∧
    (Config.load mixedFiles "parts/slash.toml").events = [] ∧
    mixedFiles "parts" = .error .directory ∧
    (Config.load mixedFiles "parts").result.mapError LoadFault.fault =
      .error (.io "Is a directory (os error 21)") ∧
    mixedFiles "absent.toml" = .error .missing ∧
    (Config.load mixedFiles "absent.toml").events = [] ∧
    mixedFiles "accent.toml" = .ok accent ∧ ∃ text, mixedFiles.Holds "accent.toml" text := by
  have holds : mixedFiles.Holds "blank.toml" blankText :=
    ⟨blankText.toUTF8, rfl, (decode_text_ok_iff _ _).mp (decode_text_of_utf8 blankText)⟩
  have ofText := configuration_is_decoded_then_read mixedFiles "blank.toml"
  have ofSlash := configuration_is_decoded_then_read mixedFiles "parts/slash.toml"
  have ofParts := configuration_is_decoded_then_read mixedFiles "parts"
  have ofAbsent := configuration_is_decoded_then_read mixedFiles "absent.toml"
  have ofAccent := configuration_is_decoded_then_read mixedFiles "accent.toml"
  have refused : (Config.load mixedFiles "blank.toml").result.mapError LoadFault.fault =
      .error (.invalidConfig "tool.program must not be empty") := (ofText.1 blankText holds).1
  refine ⟨holds, (ofText.1 blankText holds).2, ⟨_, refused, ?_⟩, rfl,
    (ofSlash.2.2.1 longSlash rfl long_slash_is_no_text).2, rfl, (ofParts.2.2.2.1 .directory rfl).1,
    rfl, (ofAbsent.2.2.2.1 .missing rfl).2, rfl, ofAccent.2.1 accent rfl accent_is_text⟩
  rcases ofText.2.2.2.2 _ refused with ⟨isInvalid, -⟩ | ⟨-, noText⟩
  · exact isInvalid
  · exact absurd holds (noText blankText)

end AutomataRequest
