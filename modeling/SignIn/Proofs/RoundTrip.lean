import SignIn.ClientMetadata
import SignIn.Proofs.Disk
import SignIn.Proofs.Json.Records
import SignIn.Session.View
import SignIn.Settings.Basic
import SignIn.Token

/-!
# What is written is read back

Every type that is written as JSON is read back from it: the phases of a session and what it shows
of itself, the reasons of its end, the document of a client, the answer of a token endpoint, and the
settings, which are also read back from the file they were saved to. So what was written tells what
was meant, whatever stands in its texts.
-/

namespace SignIn

open Json

/-! ## Types -/

theorem Phase.readBack : ReadBack Phase.toJson Phase.decode :=
  fun _ p => decodeVariant_write (by cases p <;> rfl)

theorem DeauthReason.readBack : ReadBack DeauthReason.toJson DeauthReason.decode :=
  fun _ r => decodeVariant_write (by cases r <;> rfl)

theorem ClientMetadata.readBack : ReadBack ClientMetadata.toJson ClientMetadata.decode := by
  intro l m
  rw [decode, toJson, decodeRecord_write _ (by decide)]
  rfl

theorem TokenResponse.readBack : ReadBack TokenResponse.toJson TokenResponse.decode := by
  intro l t
  rw [decode, toJson, decodeRecord_write _ (by decide)]
  rfl

theorem Settings.readBack : ReadBack Settings.toJson Settings.decode := by
  intro l s
  rw [decode, toJson, decodeRecord_write _ (by decide)]
  rfl

namespace SessionView

variable {l : Layout} {rest : Bytes}

theorem phaseWord_writeText (p : Phase) (rest : Bytes) :
    phaseWord (writeText p.word ++ rest) = .ok (p, rest) := by
  have hword : Phase.words.lookup p.word = some p := by cases p <;> rfl
  rw [phaseWord, skipSpace_writeText]
  simp only [if_true, readText_escaped, hword]

theorem readValue_writeNull (depth : Nat) (rest : Bytes) :
    readValue (depth + 1) (writeNull ++ rest) = .ok (.null, rest) := rfl

theorem readValue_writeText (depth : Nat) (s : String) (rest : Bytes) :
    readValue (depth + 1) (writeText s ++ rest) = .ok (.text s, rest) := by
  have hdigit : isDigit 34 = false := by decide
  rw [readValue, skipSpace_writeText]
  simp only [scalar, readText_escaped, hdigit, Except.map]
  rfl

def handleJson (h : Option String) : Json := h.elim .null .text

theorem readValue_handle (depth : Nat) (h : Option String) (rest : Bytes) :
    readValue (depth + 1) (l.write (handleJson h) ++ rest) = .ok (handleJson h, rest) := by
  cases h with
  | none =>
    rw [handleJson, Option.elim_none, l.write_null]
    exact readValue_writeNull depth rest
  | some s =>
    rw [handleJson, Option.elim_some, l.write_text]
    exact readValue_writeText depth s rest

theorem gathers_toJson (v : SessionView) :
    Gathers l putMember (none, [])
      [("state", .text v.phase.word), ("handle", handleJson v.handle?)]
      (some v.phase, [("handle", handleJson v.handle?)]) := by
  have hcolon : ∀ bs, colon (58 :: bs) = .ok bs := fun _ => rfl
  have hphase : ∀ bs, phaseWord (l.behind ++ bs) = phaseWord bs := fun bs => by
    rw [phaseWord, phaseWord, l.skipSpace_behind]
  have hvalue : ∀ rest, readValue (depthLimit - 1)
      (l.behind ++ (l.inner.write (handleJson v.handle?) ++ rest)) =
        .ok (handleJson v.handle?, rest) := by
    intro rest
    rw [show depthLimit - 1 = 125 + 1 from rfl, readValue, l.skipSpace_behind]
    exact readValue_handle 125 v.handle? rest
  have hstate : ∀ rest, EndsValue rest →
      putMember "state" (none, [])
          (58 :: (l.behind ++ (l.inner.write (.text v.phase.word) ++ rest))) =
        .ok (.ok (some v.phase, []), rest) := by
    intro rest _
    rw [putMember, if_pos rfl]
    simp only [Option.isSome_none, Bool.false_eq_true, if_false, hcolon, hphase,
      l.inner.write_text, phaseWord_writeText, Except.map]
  have hhandle : ∀ rest, EndsValue rest →
      putMember "handle" (some v.phase, [])
          (58 :: (l.behind ++ (l.inner.write (handleJson v.handle?) ++ rest))) =
        .ok (.ok (some v.phase, [("handle", handleJson v.handle?)]), rest) := by
    intro rest _
    rw [putMember, if_neg (by decide), keepMember, hcolon]
    simp only [hvalue, Except.map, List.nil_append]
  exact .cons hstate (.cons hhandle (.nil _))

theorem ofBody_handle (v : SessionView) :
    ofBody v.phase (.members [("handle", handleJson v.handle?)]) = .ok v := by
  cases v with
  | unauthenticated h => cases h <;> rfl
  | loginPending h => cases h <;> rfl
  | authenticated h => rfl

theorem readBack : ReadBack toJson decode := by
  intro l v
  obtain ⟨inside, hwritten, hinside⟩ := (gathers_toJson (l := l) v).objectOf_write []
  rw [List.append_nil] at hwritten
  have hparts : readParts (l.write v.toJson) =
      .ok ((v.phase, .members [("handle", handleJson v.handle?)]), []) := by
    have hobject : v.toJson =
        .object [("state", .text v.phase.word), ("handle", handleJson v.handle?)] := rfl
    rw [hobject, hwritten, readParts, show skipSpace (123 :: inside) = 123 :: inside from rfl]
    simp only [hinside]
    rfl
  rw [decode, hparts]
  simp only [ofBody_handle]
  rfl

end SessionView

/-! ## The file of the settings -/

/-- A file can be written in a directory: no file is in the way of the directory, no directory
stands at the path of the file, and nothing that is needed for it is refused. -/
structure Disk.Writable (d : Disk) (directory : FilePath) (name : String) : Prop where
  free : d.Free directory
  directories : ∀ k ≤ directory.length, d.find? (directory.take k) = none →
    d.refuses (.create (directory.take k)) = none
  place : d.find? (directory ++ [name]) ≠ some .directory
  creates : d.find? (directory ++ [name]) = none →
    d.refuses (.create (directory ++ [name])) = none
  opens : d.find? (directory ++ [name]) ≠ none →
    d.refuses (.access (directory ++ [name])) = none
  fills : d.refuses (.fill (directory ++ [name])) = none

namespace Settings

variable {s : Settings} {directory : FilePath} {name : String} {d d' : Disk}

theorem ofFile_fileContent (shown : String) (s : Settings) :
    ofFile shown s.fileContent = .ok s := by
  obtain ⟨text, htext⟩ : Bytes.IsText s.fileContent :=
    isText_writeRecord (l := .indented 0) fields s.values
  have hdecode : decode s.fileContent = .ok s := readBack (.indented 0) s
  rw [ofFile, hdecode, htext, Bytes.text?_ofText]

theorem loadFile_of_save {path : FilePath} (h : s.save directory path d = (.ok (), d'))
    (hopened : d.refuses (.access path) = none) (shown : String) :
    loadFile shown path d' = .ok s := by
  rw [save] at h
  have hrefuses := Disk.refuses_makeDirectories d directory
  rcases hmake : d.makeDirectories directory with ⟨fault | _, made⟩
  · simp [hmake] at h
  · rw [hmake] at hrefuses
    rcases hwrite : made.write path s.fileContent with ⟨fault | _, written⟩
    · simp [hmake, hwrite] at h
    · simp only [hmake, hwrite, Prod.mk.injEq, true_and] at h
      subst h
      rw [loadFile, Disk.read_of_write hwrite (hrefuses ▸ hopened)]
      exact ofFile_fileContent shown s

theorem save_eq_ok_iff :
    (∃ d', s.save directory (directory ++ [name]) d = (.ok (), d')) ↔
      d.Writable directory name := by
  have hmade := Disk.makeDirectories_eq_ok_iff (p := directory) (d := d)
  have hrefuses := Disk.refuses_makeDirectories d directory
  have hplace : (d.makeDirectories directory).2.find? (directory ++ [name]) =
      d.find? (directory ++ [name]) :=
    (Disk.grows_makeDirectories d directory []).same (by simp)
      fun _ ⟨_, k, _, hk⟩ => Disk.take_ne_child k hk.symm
  rcases hmake : d.makeDirectories directory with ⟨fault | _, made⟩
  · rw [hmake] at hmade
    refine ⟨fun ⟨d', hsave⟩ => ?_, fun h => ?_⟩
    · rw [save, hmake] at hsave
      cases hsave
    · obtain ⟨d', hmade⟩ := hmade.2 ⟨h.free, h.directories⟩
      cases hmade
  · rw [hmake] at hmade hrefuses hplace
    obtain ⟨hfree, hdirectories⟩ := hmade.1 ⟨made, rfl⟩
    have hwrite : (∃ d', made.write (directory ++ [name]) s.fileContent = (.ok (), d')) ↔ _ :=
      Disk.write_eq_ok_iff
    rw [Disk.touch_eq_ok_iff (Disk.find?_of_makeDirectories hmake), hplace, hrefuses] at hwrite
    have hsave : (∃ d', s.save directory (directory ++ [name]) d = (.ok (), d')) ↔
        ∃ d', made.write (directory ++ [name]) s.fileContent = (.ok (), d') := by
      rw [save, hmake]
      rcases hwritten : made.write (directory ++ [name]) s.fileContent with ⟨fault | _, d'⟩ <;>
        simp [hwritten]
    rw [hsave, hwrite]
    exact ⟨fun ⟨⟨hplace, hcreates, hopens⟩, hfills⟩ =>
        ⟨hfree, hdirectories, hplace, hcreates, hopens, hfills⟩,
      fun h => ⟨⟨h.place, h.creates, h.opens⟩, h.fills⟩⟩

end Settings

/-! ## All of them -/

/-- Every type is read back as it was written, compact or indented, and no two values of a type are
written alike; not even a session without a login and one with a login under way, whose handles are
the same. Settings are saved just where a file can be written, and then loaded as they were, if the
file may be opened. -/
theorem written_values_are_read_back :
    (Faithful Phase.toJson Phase.decode ∧ Faithful SessionView.toJson SessionView.decode ∧
      Faithful DeauthReason.toJson DeauthReason.decode ∧
      Faithful ClientMetadata.toJson ClientMetadata.decode ∧
      Faithful TokenResponse.toJson TokenResponse.decode ∧
      Faithful Settings.toJson Settings.decode) ∧
    (∀ h h' : Option String, (SessionView.unauthenticated h).toJson.compact ≠
      (SessionView.loginPending h').toJson.compact) ∧
    ∀ (s : Settings) (directory : FilePath) (name : String) (d : Disk),
      ((∃ d', s.save directory (directory ++ [name]) d = (.ok (), d')) ↔
        d.Writable directory name) ∧
      ∀ d', s.save directory (directory ++ [name]) d = (.ok (), d') →
        d.refuses (.access (directory ++ [name])) = none →
          ∀ shown, Settings.loadFile shown (directory ++ [name]) d' = .ok s := by
  refine ⟨⟨Phase.readBack.faithful, SessionView.readBack.faithful, DeauthReason.readBack.faithful,
    ClientMetadata.readBack.faithful, TokenResponse.readBack.faithful,
    Settings.readBack.faithful⟩, fun h h' hsame => ?_, fun s directory name d => ?_⟩
  · cases SessionView.readBack.faithful.injective hsame
  · exact ⟨Settings.save_eq_ok_iff, fun d' hsave hopened shown =>
      Settings.loadFile_of_save hsave hopened shown⟩

/-- Texts of quotes, controls and characters of all lengths are saved on a new disk. -/
theorem written_values_are_read_back_on_new_disk :
    let s : Settings := ⟨"a\"\\\n\x01", "日本𝄞", ""⟩
    let directory : FilePath := ["home", ".habitat"]
    ({} : Disk).Writable directory "config.json" ∧
      ∃ d', s.save directory (directory ++ ["config.json"]) {} = (.ok (), d') ∧
        Settings.loadFile "config.json" (directory ++ ["config.json"]) d' = .ok s := by
  intro s directory
  have hwritable : ({} : Disk).Writable directory "config.json" :=
    { free := fun k _ content isPrivate => by rw [Disk.find?]; split <;> simp [Disk.nodeAt]
      directories := fun _ _ _ => rfl
      place := by decide
      creates := fun _ => rfl
      opens := fun _ => rfl
      fills := rfl }
  obtain ⟨hsaved, hloaded⟩ := written_values_are_read_back.2.2 s directory "config.json" {}
  obtain ⟨d', hsave⟩ := hsaved.2 hwritable
  exact ⟨hwritable, d', hsave, hloaded d' hsave rfl "config.json"⟩

end SignIn
