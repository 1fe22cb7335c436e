import TypeMismatch.Files.Tree
import TypeMismatch.Proofs.Json.Reader
import TypeMismatch.Proofs.Settings.File
import TypeMismatch.Terminal.Run

/-!
# Runs without settings

A run whose settings cannot be made writes one line and performs no task.  The line needs a message,
which is there for a missing file and for every failure with a report.  What is left are the ways to
give the option that are `Unanswered`, and these end the run without a line
(`run_refused_iff_answered`).  Half of a pair of code units in the file is set apart from them: it
is no character, so nothing is said about such a run but that the text spells the half
(`settingsFor_halved_iff`).
-/

namespace TypeMismatch.Terminal

variable {e : Environment} {config : Option CommandLine.OptionValue}

/-- The option for settings is given in a way from which none can be made, and for which there is no
message: without a path, with one at which there is no file to read though something is there, or
with the path of a file that cannot be loaded. -/
inductive Unanswered (e : Environment) : CommandLine.OptionValue → Prop
  | nothing : Unanswered e .nothing
  | unread {path : String} {fault : FileFault}
      (read : e.readFile (Files.Path.ofText path) = .error fault) (there : fault ≠ .missing) :
      Unanswered e (.text path)
  | unloadable {path : String} {content : ByteArray}
      (read : e.readFile (Files.Path.ofText path) = .ok content)
      (unloadable : Settings.standard.Unloadable e.platform content) : Unanswered e (.text path)

/-- The option for settings is the path of a file with half of a pair of code units in a string. -/
inductive Halved (e : Environment) : CommandLine.OptionValue → Prop
  | file {path : String} {content : ByteArray}
      (read : e.readFile (Files.Path.ofText path) = .ok content)
      (halved : Settings.Halved e.platform content) : Halved e (.text path)

theorem failureMessage?_eq_none_iff {path : Option String} {failure : Failure} :
    failureMessage? path failure = none ↔
      failure.report? = none ∧ failure ≠ .file .missing := by
  unfold failureMessage?
  split
  · simp
  · next hother => simpa using fun _ => hother

theorem settingsFor_text_eq_error_iff {path : String} {failure : Failure} :
    settingsFor e (some (.text path)) = .error failure ↔
      Settings.standard.loadFile e.platform e.readFile path = .error failure := by
  rw [settingsFor, bind_eq_error_iff]
  exact or_iff_left (by rintro ⟨s, -, ⟨⟩⟩)

/-- Making settings fails on half of a pair of code units exactly if the option is such a file. -/
theorem settingsFor_halved_iff :
    settingsFor e config = .error .loneSurrogate ↔
      ∃ value, config = some value ∧ Halved e value := by
  match config with
  | none => exact iff_of_false nofun nofun
  | some .nothing => exact iff_of_false nofun (by rintro ⟨_, ⟨⟩, ⟨⟩⟩)
  | some (.text path) =>
    rw [settingsFor_text_eq_error_iff]
    constructor
    · intro h
      rw [Settings.loadFile] at h
      split at h
      · next hread => exact ⟨_, rfl, .file hread (Settings.loadContent_eq_loneSurrogate_iff.1 h)⟩
      · cases h
    · rintro ⟨_, ⟨⟩, ⟨hread, hhalved⟩⟩
      rw [Settings.loadFile_of_read hread]
      exact Settings.loadContent_eq_loneSurrogate_iff.2 hhalved

theorem raises_settingsFor_text_iff {path : String} :
    Raises (settingsFor e (some (.text path))) ∧
        settingsFor e (some (.text path)) ≠ .error (.file .missing) ↔
      Unanswered e (.text path) ∨ Halved e (.text path) := by
  have hraises : Raises (settingsFor e (some (.text path))) ↔
      Raises (Settings.standard.loadFile e.platform e.readFile path) := raises_map_iff
  rw [hraises, Ne, settingsFor_text_eq_error_iff]
  cases hread : e.readFile (Files.Path.ofText path) with
  | error fault =>
    rw [Settings.loadFile, hread]
    constructor
    · rintro ⟨-, hthere⟩
      exact .inl (.unread hread fun hmissing => hthere (congrArg _ (congrArg _ hmissing)))
    · rintro ((_ | ⟨hread', hthere⟩ | ⟨hread', -⟩) | ⟨hread', -⟩)
      · cases hread.symm.trans hread'
        exact ⟨.failure rfl, by simpa using hthere⟩
      · cases hread.symm.trans hread'
      · cases hread.symm.trans hread'
  | ok content =>
    rw [Settings.loadFile_of_read hread, Settings.raises_loadContent_iff,
      and_iff_left Settings.loadContent_ne_missing]
    refine or_congr ⟨.unloadable hread, ?_⟩ ⟨.file hread, ?_⟩
    · rintro (_ | ⟨hread', -⟩ | ⟨hread', hunloadable⟩)
      · cases hread.symm.trans hread'
      · cases hread.symm.trans hread'
        exact hunloadable
    · rintro ⟨hread', hhalved⟩
      cases hread.symm.trans hread'
      exact hhalved

/-- Making settings ends in a failure without a message exactly if the option is unanswered or gives
half of a pair of code units. -/
theorem raises_settingsFor_iff :
    Raises (settingsFor e config) ∧ settingsFor e config ≠ .error (.file .missing) ↔
      (∃ value, config = some value ∧ Unanswered e value) ∨
        ∃ value, config = some value ∧ Halved e value := by
  match config with
  | none =>
    refine iff_of_false (fun h => not_raises_ok _ h.1) ?_
    rintro (⟨_, ⟨⟩, -⟩ | ⟨_, ⟨⟩, -⟩)
  | some .nothing => exact iff_of_true ⟨.failure rfl, nofun⟩ (.inl ⟨_, rfl, .nothing⟩)
  | some (.text path) =>
    rw [raises_settingsFor_text_iff]
    simp only [Option.some.injEq, exists_eq_left']

theorem not_halved_of_unanswered (h : ∃ value, config = some value ∧ Unanswered e value) :
    ¬ ∃ value, config = some value ∧ Halved e value := by
  rintro ⟨_, hvalue, ⟨hread, hhalved⟩⟩
  obtain ⟨_, hvalue', hunanswered⟩ := h
  cases hvalue.symm.trans hvalue'
  cases hunanswered with
  | unread hread' hthere => cases hread.symm.trans hread'
  | unloadable hread' hunloadable =>
    cases hread.symm.trans hread'
    exact hunloadable.not_halved hhalved

theorem written_singleton (line : String) : written [line] = line ++ "\n" := by
  rw [← String.toList_inj]
  simp [written]

theorem output_refused (p : Palette) (message time : String) (verbose : Bool) :
    (refused p message).output time verbose =
      ⟨2, "", p.paint p.red "Error:" ++ " " ++ message ++ "\n"⟩ := by
  rw [← written_singleton]
  cases verbose <;> rfl

variable {time : String} {arguments : List String} {i : Invocation}

/-- The end of a run whose settings were refused. -/
theorem run_of_error (hread : Invocation.read arguments = .ok i) {failure : Failure}
    (hsettings : settingsFor e i.config = .error failure) :
    let p := if i.noColor then Palette.plain else e.palette
    run e time arguments =
      match failureMessage? i.path? failure with
      | some message =>
        .output ⟨2, "", p.paint p.red "Error:" ++ " " ++ message ++ "\n"⟩
      | none => .failed failure := by
  intro p
  rw [run, hread]
  dsimp only
  rw [Invocation.run, hsettings]
  dsimp only
  cases failureMessage? i.path? failure with
  | none => rfl
  | some message => exact congrArg Ending.output (output_refused p message time i.verbose)

theorem run_of_ok (hread : Invocation.read arguments = .ok i) {s : Settings} {notes : List Note}
    (hsettings : settingsFor e i.config = .ok (s, notes)) :
    let p := if i.noColor then Palette.plain else e.palette
    let result := perform s p e.input i.task
    run e time arguments =
      .output ({ result with notes := notes ++ result.notes }.output time i.verbose) := by
  intro p result
  rw [run, hread]
  dsimp only
  rw [Invocation.run, hsettings]

/-- A run fails as making its settings fails, if there is no message for that. -/
theorem run_eq_failed_iff (hread : Invocation.read arguments = .ok i) {failure : Failure} :
    run e time arguments = .failed failure ↔
      settingsFor e i.config = .error failure ∧ failureMessage? i.path? failure = none := by
  cases hsettings : settingsFor e i.config with
  | ok made =>
    obtain ⟨s, notes⟩ := made
    rw [run_of_ok hread hsettings]
    exact iff_of_false nofun fun h => nomatch h.1
  | error other =>
    rw [run_of_error hread hsettings]
    cases hmessage : failureMessage? i.path? other with
    | some message =>
      refine iff_of_false nofun ?_
      rintro ⟨h, hnone⟩
      cases h
      cases hmessage.symm.trans hnone
    | none =>
      constructor
      · rintro ⟨⟩
        exact ⟨rfl, hmessage⟩
      · rintro ⟨h, -⟩
        exact congrArg Ending.failed (Except.error.inj h)

theorem failureMessage?_eq_none_iff_of_error {path : Option String} {failure : Failure}
    (h : settingsFor e config = .error failure) :
    failureMessage? path failure = none ↔
      (∃ value, config = some value ∧ Unanswered e value) ∨
        ∃ value, config = some value ∧ Halved e value := by
  rw [failureMessage?_eq_none_iff, ← raises_settingsFor_iff, h, raises_error_iff, Ne, Ne,
    Except.error.injEq]

/-- **A run without settings ends with a message, unless the option for them is unanswered.**  A run
fails without a message exactly if it is, or if a string in the file gives half of a pair of code
units, which the text of the file then spells.  In every other case in which no settings can be made
the exit code is two, the line of the message is all that is written, and the task is not performed;
it is performed as soon as there are settings. -/
theorem run_refused_iff_answered (e : Environment) (time : String)
    (hread : Invocation.read arguments = .ok i) :
    let p := if i.noColor then Palette.plain else e.palette
    let unanswered := ∃ value, i.config = some value ∧ Unanswered e value
    let halved := ∃ value, i.config = some value ∧ Halved e value
    ((∃ failure, failure ≠ .loneSurrogate ∧ run e time arguments = .failed failure) ↔
        unanswered) ∧
      (run e time arguments = .failed .loneSurrogate ↔ halved) ∧
      (halved → ∃ path content text, i.config = some (.text path) ∧
        e.readFile (Files.Path.ofText path) = .ok content ∧
        Settings.decode content = .ok text ∧ Json.SpellsHalf text) ∧
      (∀ failure, settingsFor e i.config = .error failure →
        ((∃ message, run e time arguments =
            .output ⟨2, "", p.paint p.red "Error:" ++ " " ++ message ++ "\n"⟩) ↔
          ¬ unanswered ∧ ¬ halved)) ∧
      ∀ s notes, settingsFor e i.config = .ok (s, notes) →
        let result := perform s p e.input i.task
        run e time arguments =
          .output ({ result with notes := notes ++ result.notes }.output time i.verbose) := by
  intro p unanswered halved
  have hhalved : settingsFor e i.config = .error .loneSurrogate ↔ halved := settingsFor_halved_iff
  refine ⟨?_, ?_, ?_, ?_, fun s notes hsettings => run_of_ok hread hsettings⟩
  · constructor
    · rintro ⟨failure, hwhole, h⟩
      obtain ⟨hsettings, hmessage⟩ := (run_eq_failed_iff hread).1 h
      refine ((failureMessage?_eq_none_iff_of_error hsettings).1 hmessage).resolve_right ?_
      exact fun h => hwhole (Except.error.inj (hsettings.symm.trans (hhalved.2 h)))
    · intro h
      obtain ⟨hraises, hthere⟩ := raises_settingsFor_iff.2 (.inl h)
      cases hsettings : settingsFor e i.config with
      | ok made => exact absurd (hsettings ▸ hraises) (not_raises_ok made)
      | error failure =>
        refine ⟨failure, ?_, (run_eq_failed_iff hread).2 ⟨hsettings, ?_⟩⟩
        · rintro rfl
          exact not_halved_of_unanswered h (hhalved.1 hsettings)
        · exact (failureMessage?_eq_none_iff_of_error hsettings).2 (.inl h)
  · rw [run_eq_failed_iff hread, hhalved]
    exact and_iff_left rfl
  · rintro ⟨value, hvalue, ⟨hread, hdecoded, hhalf⟩⟩
    exact ⟨_, _, _, hvalue, hread, hdecoded, Json.spellsHalf_of_read hhalf⟩
  · intro failure hsettings
    rw [run_of_error hread hsettings, ← not_or,
      ← @failureMessage?_eq_none_iff_of_error e i.config i.path? failure hsettings]
    cases failureMessage? i.path? failure with
    | some message => exact iff_of_true ⟨message, rfl⟩ nofun
    | none => exact iff_of_false nofun fun h => h rfl

/-- A limit that is too low is refused with a message on a terminal with notes; the directory it
lies in has no message. -/
theorem run_refused_iff_answered_of_low_limit :
    let tree := Files.Tree.empty.add "conf/c.json" "\x7b\"max_line_length\": 5\x7d".toUTF8
    let e : Environment := ⟨Platform.bare, "", tree.read, true, none⟩
    let p := Palette.choose true none
    settingsFor e (some (.text "conf//c.json")) =
        .error (.setting (some "max_line_length") (.lineLimitLow 5)) ∧
      (∃ message, run e "now" ["d", "-vc", "conf//c.json", "a", "b"] =
        .output ⟨2, "", p.paint p.red "Error:" ++ " " ++ message ++ "\n"⟩) ∧
      Unanswered e (.text "conf") ∧
      ∃ failure, failure ≠ .loneSurrogate ∧
        run e "now" ["format", "--config=conf", "a"] = .failed failure := by
  intro tree e p
  have hload : settingsFor e (some (.text "conf//c.json")) =
      .error (.setting (some "max_line_length") (.lineLimitLow 5)) :=
    eq_error_of_match (by decide +kernel)
  have hread : Invocation.read ["d", "-vc", "conf//c.json", "a", "b"] =
      .ok ⟨.diff "a" "b", some (.text "conf//c.json"), false, true⟩ :=
    eq_ok_of_toOption (by decide +kernel)
  have hdirectory : e.readFile (Files.Path.ofText "conf") = .error .isDirectory :=
    eq_error_of_match (by decide +kernel)
  have hother : Invocation.read ["format", "--config=conf", "a"] =
      .ok ⟨.format (some "a") false, some (.text "conf"), false, false⟩ :=
    eq_ok_of_toOption (by decide +kernel)
  obtain ⟨-, -, -, hrefused, -⟩ := run_refused_iff_answered e "now" hread
  obtain ⟨hfailed, -, -⟩ := run_refused_iff_answered e "now" hother
  have hunanswered : Unanswered e (.text "conf") := .unread hdirectory nofun
  have hanswered : ¬ Raises (settingsFor e (some (.text "conf//c.json"))) := by
    rw [hload]
    exact not_raises_setting _ _
  refine ⟨hload, (hrefused _ hload).2 ⟨?_, ?_⟩, hunanswered, hfailed.2 ⟨_, rfl, hunanswered⟩⟩
  · exact fun h => hanswered (raises_settingsFor_iff.2 (.inl h)).1
  · exact fun h => hanswered (raises_settingsFor_iff.2 (.inr h)).1

/-- Bytes that are no text, and a directory, end the program without a message. -/
theorem run_failed_of_undecodable_file :
    let tree := Files.Tree.empty.add "c.json" ⟨#[0xff]⟩
    let e : Environment := ⟨Platform.bare, "", tree.read, false, none⟩
    (∀ time, run e time ["templates", "--config", "c.json"] = .failed (.file .undecodable)) ∧
      (∀ time, run e time ["templates", "--config", "."] = .failed (.file .isDirectory)) ∧
      ¬ ∀ (e : Environment) (time : String) (arguments : List String) (i : Invocation)
          (failure : Failure), Invocation.read arguments = .ok i →
        settingsFor e i.config = .error failure →
          ∃ line, run e time arguments = .output ⟨2, "", line⟩ := by
  intro tree e
  have hread : ∀ path ∈ ["c.json", "."], Invocation.read ["templates", "--config", path] =
      .ok ⟨.templates, some (.text path), false, false⟩ := by
    simp only [List.mem_cons, List.not_mem_nil, or_false, forall_eq_or_imp, forall_eq]
    exact ⟨eq_ok_of_toOption (by decide +kernel), eq_ok_of_toOption (by decide +kernel)⟩
  have hbytes : settingsFor e (some (.text "c.json")) = .error (.file .undecodable) :=
    eq_error_of_match (by decide +kernel)
  have hdirectory : settingsFor e (some (.text ".")) = .error (.file .isDirectory) :=
    eq_error_of_match (by decide +kernel)
  have hfailed : ∀ time, run e time ["templates", "--config", "c.json"] =
      .failed (.file .undecodable) :=
    fun time => run_of_error (hread _ (by decide)) hbytes
  refine ⟨hfailed, fun time => run_of_error (hread _ (by decide)) hdirectory, ?_⟩
  intro hall
  obtain ⟨line, hline⟩ := hall e "" _ _ _ (hread "c.json" (by decide)) hbytes
  rw [hfailed] at hline
  cases hline

end TypeMismatch.Terminal
