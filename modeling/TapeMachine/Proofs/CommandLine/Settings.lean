import Mathlib.Tactic.SplitIfs
import TapeMachine.CommandLine.Run
import TapeMachine.Proofs.Result
import TapeMachine.Proofs.Value.Fields

/-!
# The settings of a command line

`Loads files path fields` says which named values are loaded: the defaults if no file is named, and
else those of the file over the defaults, if the file can be read and they pass the check.
The options are put over them and all is checked once more (`HasSettings`).  What an option says
holds then, whatever the file says (`HasSettings.obeys`), and what no option says is what is loaded
(`HasSettings.keeps`).
-/

namespace TapeMachine

open Text

/-! ### Checked settings -/

/-- A diagram is wanted, for a path. -/
def Settings.Draws (s : Settings) (path : RawText) : Prop := s.diagram = some path ∧ ¬ path.isEmpty

/-- **What is checked is what is used**: the values of the names, with at least one step if there is
a limit. -/
structure Settings.Reads (s : Settings) (fields : Fields) : Prop where
  maxSteps : ∀ n, fields.get? "max_steps" = some (.int n) → s.maxSteps = some n
  unlimited : fields.get? "max_steps" = some .null → s.maxSteps = none
  trace : ∀ b, fields.get? "trace" = some (.bool b) → s.trace = b
  logLevel : ∀ name l, fields.get? "log_level" = some (.text (.sound name)) →
    Log.Level.ofName? name = some l → s.logLevel = l
  diagram : ∀ path, fields.get? "diagram" = some (.text path) → s.diagram = some path
  noDiagram : fields.get? "diagram" = some .null → s.diagram = none
  cellSize : ∀ n, fields.get? "cell_size" = some (.int n) → s.cellSize = n
  caption : ∀ text, fields.get? "caption" = some (.text text) → s.caption = text
  atLeastOne : ∀ n, s.maxSteps = some n → 1 ≤ n

theorem Settings.reads_of_check {fields : Fields} {s : Settings}
    (h : Settings.check fields = .ok s) : s.Reads fields := by
  rw [Settings.check] at h
  split at h
  · obtain ⟨-, -, h⟩ := bind_eq_ok_iff.1 h
    rw [Settings.checkRanges] at h
    split_ifs at h with hsteps hcell
    cases hl : (Settings.checkRanges.text fields "log_level").string?.bind Log.Level.ofName? with
    | none =>
      rw [hl] at h
      contradiction
    | some l =>
      rw [hl] at h
      obtain rfl := Except.ok.inj h
      refine ⟨fun n hn => by simp [hn], fun hn => by simp [hn], fun b hb => by simp [hb],
        fun name l' hname hl' => ?_, fun path hpath => by simp [hpath],
        fun hpath => by simp [hpath], fun n hn => by simp [hn],
        fun text htext => by simp [Settings.checkRanges.text, htext], fun n hn => ?_⟩
      · simp only [Settings.checkRanges.text, hname, RawText.string?, Option.bind_some, hl',
          Option.some.injEq] at hl
        exact hl.symm
      · dsimp only at hn
        rw [hn] at hsteps
        simpa using hsteps
  · contradiction

theorem Settings.unknownKeys_eq_nil {fields : Fields} (h : ∀ f ∈ fields, f.1 ∈ Settings.names) :
    Settings.unknownKeys fields = [] := by
  have hnone : ((fields.map (·.1)).filter fun name => !Settings.names.contains name) = [] := by
    simpa using h
  rw [Settings.unknownKeys, hnone, List.mergeSort_nil]

namespace CommandLine

/-! ### Settings from a file -/

/-- **The named values of a settings file** that a value names, or the defaults if it names none. -/
inductive Loads (files : FileSystem) : Value → Fields → Prop
  | defaults : Loads files .null Settings.defaults
  | file {path : String} {bytes : List UInt8} {text : List Char} {fields : Fields} {s : Settings}
      (hnul : ¬ FileSystem.hasNul path) (hread : files.read path = .ok bytes)
      (htext : decodeUtf8 bytes = .ok text)
      (hjson : Json.read settingsLevels (unifyBreaks text) = .ok (.object fields))
      (hcheck : Settings.check (Settings.defaults.override fields) = .ok s) :
      Loads files (.text path) (Settings.defaults.override fields)

theorem has_of_read {files : FileSystem} {path : RawText} {bytes : List UInt8}
    (h : files.read path = .ok bytes) : files.has path := by
  obtain ⟨p, hp, -⟩ := bind_eq_ok_iff.1 h
  rw [FileSystem.has, hp]
  rfl

theorem merge_eq_ok_iff {path : String} {v : Value} {merged : Fields} :
    Settings.merge path v = .ok merged ↔ ∃ fields s, v = .object fields ∧
      Settings.check (Settings.defaults.override fields) = .ok s ∧
      merged = Settings.defaults.override fields := by
  cases v with
  | object fields =>
    dsimp only [Settings.merge]
    cases hcheck : Settings.check (Settings.defaults.override fields) with
    | error f => simp [hcheck]
    | ok s => simp [hcheck, eq_comm]
  | _ => simp [Settings.merge]

theorem ofBytes_eq_ok_iff {path : String} {bytes : List UInt8} {merged : Fields} :
    Settings.ofBytes settingsLevels path bytes = .ok merged ↔ ∃ text v,
      decodeUtf8 bytes = .ok text ∧ Json.read settingsLevels (unifyBreaks text) = .ok v ∧
      Settings.merge path v = .ok merged := by
  rw [Settings.ofBytes]
  cases decodeUtf8 bytes with
  | error f => simp
  | ok text =>
    dsimp only
    cases hjson : Json.read settingsLevels (unifyBreaks text) <;> simp [hjson]

theorem loadFile_eq_ok_iff {files : FileSystem} {path : String} {merged : Fields} :
    Settings.loadFile settingsLevels files path = .ok merged ↔ Loads files (.text path) merged := by
  rw [Settings.loadFile]
  constructor
  · intro h
    split_ifs at h with hno
    obtain ⟨hnul, -⟩ := not_or.1 (mt Bool.or_eq_true_iff.2 hno)
    cases hread : files.read path with
    | error f =>
      rw [hread] at h
      contradiction
    | ok bytes =>
      rw [hread] at h
      obtain ⟨text, v, htext, hjson, hmerge⟩ := ofBytes_eq_ok_iff.1 h
      obtain ⟨fields, s, rfl, hcheck, rfl⟩ := merge_eq_ok_iff.1 hmerge
      exact .file hnul hread htext hjson hcheck
  · intro h
    cases h with
    | file hnul hread htext hjson hcheck =>
      rw [if_neg (by simp [hnul, has_of_read hread]), hread]
      exact ofBytes_eq_ok_iff.2 ⟨_, _, htext, hjson, merge_eq_ok_iff.2 ⟨_, _, rfl, hcheck, rfl⟩⟩

theorem load_eq_ok_iff {files : FileSystem} {v : Value} {fields : Fields} :
    Settings.load settingsLevels files v = .ok fields ↔ Loads files v fields := by
  cases v with
  | null =>
    refine ⟨fun h => ?_, fun h => ?_⟩
    · obtain rfl := Except.ok.inj h
      exact .defaults
    · cases h
      rfl
  | text path =>
    cases path with
    | sound path => exact loadFile_eq_ok_iff
    | broken ps => exact ⟨nofun, nofun⟩
  | int n =>
    rw [Settings.load]
    split_ifs <;> exact ⟨nofun, nofun⟩
  | _ => exact ⟨nofun, nofun⟩

/-! ### Settings of a run -/

variable {files : FileSystem} {o : Arguments} {s : Settings}

/-- **The settings of a command line**: what is loaded and what the options put over it must be
valid. -/
def HasSettings (files : FileSystem) (o : Arguments) (s : Settings) : Prop :=
  ∃ fields, Loads files (o.config.getD .null) fields ∧
    Settings.check (fields.override (optionFields o)) = .ok s

theorem settings_eq_ok_iff : settings files o = .ok s ↔ HasSettings files o s := by
  rw [settings, bind_eq_ok_iff]
  simp only [mapError_eq_ok_iff, load_eq_ok_iff, HasSettings]

/-- **What the options say holds**, whatever the file says. -/
structure Obeys (o : Arguments) (s : Settings) : Prop where
  maxSteps : ∀ n, o.maxSteps = some (.int n) → s.maxSteps = some n
  quiet : o.quiet → s.trace = false
  diagram : ∀ path, o.diagram = some (.text path) → s.diagram = some path
  caption : ∀ text, o.caption = some (.text text) → s.caption = text
  verbose : o.verbose = 1 → s.logLevel = .info
  moreVerbose : 1 < o.verbose → s.logLevel = .debug

/-- **What no option says** is read from what is loaded. -/
def Keeps (files : FileSystem) (o : Arguments) (s : Settings) : Prop :=
  ∃ fields merged : Fields, Loads files (o.config.getD .null) fields ∧ s.Reads merged ∧
    ∀ name ∉ (optionFields o).map (·.1), merged.get? name = fields.get? name

theorem nodup_optionFields (o : Arguments) : ((optionFields o).map (·.1)).Nodup := by
  have one : ∀ (v : Option Value) (name : RawText),
      ((v.map fun v => (name, v)).toList.map (·.1)).Sublist [name] := by
    intro v name
    cases v <;> simp
  have hsub : ((optionFields o).map (·.1)).Sublist
      ([.sound "max_steps"] ++ [.sound "trace"] ++ [.sound "diagram"] ++ [.sound "caption"] ++
        [.sound "log_level"]) := by
    simp only [optionFields, List.map_append]
    refine ((((one _ _).append ?_).append (one _ _)).append (one _ _)).append ?_
    · by_cases h : o.quiet <;> simp [h]
    · by_cases h : o.verbose = 0 <;> simp [h]
  exact List.Sublist.nodup hsub (by decide)

theorem HasSettings.reads (h : HasSettings files o s) : ∃ fields : Fields,
    s.Reads (fields.override (optionFields o)) := by
  obtain ⟨fields, -, hcheck⟩ := h
  exact ⟨fields, Settings.reads_of_check hcheck⟩

theorem HasSettings.obeys (h : HasSettings files o s) : Obeys o s := by
  obtain ⟨fields, hreads⟩ := h.reads
  have hget := fun {name v} (h : (name, v) ∈ optionFields o) =>
    show (fields.override (optionFields o)).get? name = some v from
      Fields.get?_override_of_mem (nodup_optionFields o) h
  exact
    { maxSteps := fun n h => hreads.maxSteps n (hget (by simp [optionFields, h]))
      quiet := fun h => hreads.trace false (hget (by simp [optionFields, h]))
      diagram := fun path h => hreads.diagram path (hget (by simp [optionFields, h]))
      caption := fun text h => hreads.caption text (hget (by simp [optionFields, h]))
      verbose := fun h =>
        hreads.logLevel "INFO" .info (hget (by simp [optionFields, h])) (by decide)
      moreVerbose := fun h =>
        hreads.logLevel "DEBUG" .debug
          (hget (by simp [optionFields, show o.verbose ≠ 0 by omega, show o.verbose ≠ 1 by omega]))
          (by decide) }

theorem HasSettings.keeps (h : HasSettings files o s) : Keeps files o s := by
  obtain ⟨fields, hload, hcheck⟩ := h
  exact ⟨fields, _, hload, Settings.reads_of_check hcheck,
    fun _ hname => Fields.get?_override_of_not_mem hname⟩

end CommandLine

end TapeMachine
