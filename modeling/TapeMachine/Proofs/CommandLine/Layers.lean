import TapeMachine.Proofs.CommandLine.Outcome
import TapeMachine.Proofs.CommandLine.Validity
import TapeMachine.Proofs.Machine.Run

/-!
# Settings in layers

The values of a settings file lie over the defaults, and what the options say (`Says`) over both.
`Gives files v changes` says which values a file gives: those of the object in it, or none if no
file is named.  `Prevails o changes name v` is the value that a name has in the end.

Both layers are checked, one after the other (`settings_eq`): there are settings if and only if the
values with those of the file and the values with those of the options are valid, and if there are
none the first defect of the first layer that is not valid is reported (`settings_layered`).
-/

namespace TapeMachine

open Text

/-! ### What is drawn -/

/-- Configurations, at least one, in boxes that are visible are drawn unless there is no room for
them. -/
theorem Picture.Diagram.exists_size_of_draw_error {room : Room}
    {configurations : List Configuration} {side : Int} {f : Diagram.Fault}
    (hne : configurations ≠ []) (hside : 1 ≤ side)
    (h : Diagram.draw room configurations side none = .error f) : ∃ g, f = .size g := by
  cases configurations with
  | nil => exact absurd rfl hne
  | cons c rest =>
    rw [Diagram.draw, if_neg (by omega)] at h
    split at h
    next g hg => exact ⟨g, (Except.error.inj h).symm⟩
    next => cases h

namespace CommandLine

open Picture Settings

variable {files : FileSystem} {o : Arguments} {changes : Fields} {name : RawText} {v : Value}

/-! ### The layers -/

/-- **The values of the settings file** that a value names, of which there are none if it names no
file. -/
inductive Gives (files : FileSystem) : Value → Fields → Prop
  | nothing : Gives files .null []
  | object {path : String} {bytes : List UInt8} {text : List Char} {changes : Fields}
      (hnul : ¬ FileSystem.hasNul path) (hread : files.read path = .ok bytes)
      (htext : decodeUtf8 bytes = .ok text)
      (hjson : Json.read settingsLevels (unifyBreaks text) = .ok (.object changes)) :
      Gives files (.text path) changes

/-- **What the options say.** -/
inductive Says (o : Arguments) : RawText → Value → Prop
  | maxSteps {v : Value} (h : o.maxSteps = some v) : Says o "max_steps" v
  | quiet (h : o.quiet) : Says o "trace" (.bool false)
  | diagram {v : Value} (h : o.diagram = some v) : Says o "diagram" v
  | caption {v : Value} (h : o.caption = some v) : Says o "caption" v
  | verbose (h : o.verbose = 1) : Says o "log_level" (.text "INFO")
  | moreVerbose (h : 1 < o.verbose) : Says o "log_level" (.text "DEBUG")

/-- **The value of a name**: what the options say, or else the file, or else the default. -/
inductive Prevails (o : Arguments) (changes : Fields) (name : RawText) (v : Value) : Prop
  | option (h : Says o name v)
  | file (hoption : ∀ w, ¬ Says o name w) (h : (name, v) ∈ changes)
  | default (hoption : ∀ w, ¬ Says o name w) (hfile : ∀ w, (name, w) ∉ changes)
      (h : defaults.get? name = some v)

theorem Gives.nodup (h : Gives files v changes) : (changes.map (·.1)).Nodup := by
  cases h with
  | nothing => exact List.nodup_nil
  | object _ _ _ hjson => exact Json.nodup_of_read hjson

theorem mem_optionFields_iff : (name, v) ∈ optionFields o ↔ Says o name v := by
  constructor
  · intro h
    simp only [optionFields, List.mem_append, Option.mem_toList, Option.map_eq_some_iff,
      Prod.mk.injEq] at h
    rcases h with (((⟨w, hw, rfl, rfl⟩ | h) | ⟨w, hw, rfl, rfl⟩) | ⟨w, hw, rfl, rfl⟩) | h
    · exact .maxSteps hw
    · split_ifs at h with hquiet
      · cases List.mem_singleton.1 h
        exact .quiet hquiet
      · cases h
    · exact .diagram hw
    · exact .caption hw
    · split_ifs at h with hzero hone
      · cases h
      · cases List.mem_singleton.1 h
        exact .verbose hone
      · cases List.mem_singleton.1 h
        exact .moreVerbose (by omega)
  · intro h
    cases h with
    | maxSteps h => simp [optionFields, h]
    | quiet h => simp [optionFields, h]
    | diagram h => simp [optionFields, h]
    | caption h => simp [optionFields, h]
    | verbose h => simp [optionFields, h]
    | moreVerbose h => simp [optionFields, show o.verbose ≠ 0 by omega, show o.verbose ≠ 1 by omega]

theorem get?_layers_iff (hnodup : (changes.map (·.1)).Nodup) :
    ((defaults.override changes).override (optionFields o)).get? name = some v ↔
      Prevails o changes name v := by
  rw [Fields.get?_override_eq_some_iff (nodup_optionFields o),
    Fields.get?_override_eq_some_iff hnodup]
  simp only [mem_optionFields_iff]
  constructor
  · rintro (h | ⟨hoption, h | ⟨hfile, h⟩⟩)
    · exact .option h
    · exact .file hoption h
    · exact .default hoption hfile h
  · intro h
    cases h with
    | option h => exact .inl h
    | file hoption h => exact .inr ⟨hoption, .inl h⟩
    | default hoption hfile h => exact .inr ⟨hoption, .inr ⟨hfile, h⟩⟩

theorem nodup_defaults : (defaults.map (·.1)).Nodup := by decide

/-- The defaults are valid. -/
theorem valid_defaults : Valid defaults := by
  refine (check_passes_iff nodup_defaults).1 ⟨⟨none, true, .warning, none, 8, ""⟩, ?_⟩
  rw [check, unknownKeys_eq_nil (by decide)]
  rfl

/-! ### The checks -/

theorem load_of_object {path : String} {bytes : List UInt8} {text : List Char}
    (hnul : ¬ FileSystem.hasNul path) (hread : files.read path = .ok bytes)
    (htext : decodeUtf8 bytes = .ok text)
    (hjson : Json.read settingsLevels (unifyBreaks text) = .ok (.object changes)) :
    Settings.load settingsLevels files (.text path) = merge path (.object changes) := by
  rw [Settings.load, loadFile, if_neg (by simp [hnul, has_of_read hread]), hread]
  dsimp only
  rw [ofBytes, htext]
  dsimp only
  rw [hjson]

/-- **The layers are checked one after the other.** -/
theorem settings_eq (h : Gives files (o.config.getD .null) changes) :
    settings files o = (check (defaults.override changes)).mapError (fun f => .reported f.message)
      >>= fun _ => (check ((defaults.override changes).override (optionFields o))).mapError
        fun f => .reported f.message := by
  rw [settings]
  generalize o.config.getD .null = v at h
  cases h with
  | nothing =>
    obtain ⟨s, hs⟩ := (check_passes_iff nodup_defaults).2 valid_defaults
    have hchanges : defaults.override [] = defaults := rfl
    rw [hchanges, hs]
    rfl
  | object hnul hread htext hjson =>
    rw [load_of_object hnul hread htext hjson, merge]
    cases check (defaults.override changes) <;> rfl

/-- **Settings that are accepted**: they are read from values that stand in the order of the
defaults, each the one that prevails, and where a run with them halts it can be drawn unless there
is no room for that. -/
structure Accepts (o : Arguments) (changes merged : Fields) (s : Settings) : Prop where
  reads : s.Reads merged
  order : merged.map (·.1) = defaults.map (·.1)
  value : ∀ name v, merged.get? name = some v ↔ Prevails o changes name v
  drawn : ∀ (p : Program) (word : Value) (moments : Nat) (c : Configuration),
    ((beginRun s p word).drive moments).ending = some (.ok c) → ∀ room f,
    Diagram.draw room ((beginRun s p word).drive moments).configurations s.cellSize none
      = .error f → ∃ g, f = .size g

theorem mem_defaults_of_names : ∀ name ∈ names, name ∈ defaults.map (·.1) := by decide

theorem one_le_cellSize {fields : Fields} {s : Settings} (h : Valid fields) (hs : s.Reads fields) :
    1 ≤ s.cellSize := by
  obtain ⟨-, ⟨n, hn⟩, -⟩ := h.kinds.values
  rw [hs.cellSize n hn]
  exact h.cells n hn

/-- A run that halts has something to draw. -/
theorem configurations_ne_nil {s : Settings} {p : Program} {word : Value} {moments : Nat}
    {c : Configuration} (h : ((beginRun s p word).drive moments).ending = some (.ok c)) :
    ((beginRun s p word).drive moments).configurations ≠ [] := by
  have hlast := (Machine.Run.haltsAtLast_ofStart _ _ _ _).drive moments c h
  intro hnil
  rw [beginRun] at hnil
  rw [hnil] at hlast
  cases hlast

/-- Values that pass the check name nothing new, so that each takes the place of a default. -/
theorem accepts_of_check {s : Settings} (hnodup : (changes.map (·.1)).Nodup)
    (h : check ((defaults.override changes).override (optionFields o)) = .ok s) :
    Accepts o changes ((defaults.override changes).override (optionFields o)) s := by
  have hmerged : (((defaults.override changes).override (optionFields o)).map (·.1)).Nodup :=
    Fields.nodup_override (Fields.nodup_override nodup_defaults)
  have hvalid := (check_passes_iff hmerged).1 ⟨s, h⟩
  have hreads := reads_of_check h
  have hchanges : ∀ name ∈ changes.map (·.1), name ∈ defaults.map (·.1) := by
    intro name hname
    refine mem_defaults_of_names name (hvalid.known name ?_)
    rw [Fields.mem_map_fst_override_iff, Fields.mem_map_fst_override_iff]
    exact .inl (.inr hname)
  have hloaded := Fields.map_fst_override hchanges
  have hoptions : ∀ name ∈ (optionFields o).map (·.1),
      name ∈ (defaults.override changes).map (·.1) := by
    intro name hname
    rw [hloaded]
    refine mem_defaults_of_names name (hvalid.known name ?_)
    rw [Fields.mem_map_fst_override_iff]
    exact .inr hname
  exact
    { reads := hreads
      order := (Fields.map_fst_override hoptions).trans hloaded
      value := fun name v => get?_layers_iff hnodup
      drawn := fun p word moments c hc room f hf =>
        Diagram.exists_size_of_draw_error (configurations_ne_nil hc)
          (one_le_cellSize hvalid hreads) hf }

/-- **What is blamed for values that are refused**: their first defect, which is about a kind if and
only if all names are known and some value is of a wrong kind. -/
structure Blames (fields : Fields) (f : Settings.Fault) : Prop where
  first : FirstDefect fields f
  wrongKind : f.isWrongKind ↔ AllKnown fields ∧ ¬ OfKinds fields schema
  notMissing : ∀ name, f ≠ .missingKey name

theorem blames_of_check {fields : Fields} {f : Settings.Fault} (hnodup : (fields.map (·.1)).Nodup)
    (hall : ∀ name ∈ names, fields.get? name ≠ none) (h : check fields = .error f) :
    Blames fields f := by
  have hfirst := firstDefect_of_check hnodup h
  exact ⟨hfirst, hfirst.isWrongKind_iff hall, hfirst.ne_missingKey hall⟩

/-- **Settings come in layers.**  There are settings if and only if the defaults with the values of
the file over them and these with the options over them are both valid.  Those that are accepted
have the value of each name that prevails, and those that are refused are blamed for the first
defect of the first of the two that is not valid. -/
theorem settings_layered (hfile : Gives files (o.config.getD .null) changes) :
    let loaded := defaults.override changes
    let merged := loaded.override (optionFields o)
    ((∃ s, settings files o = .ok s) ↔ Valid loaded ∧ Valid merged) ∧
    (∀ s, settings files o = .ok s → Accepts o changes merged s) ∧
    ∀ stop, settings files o = .error stop → ∃ fields f,
      (fields = loaded ∨ Valid loaded ∧ fields = merged) ∧ Blames fields f ∧
      stop = .reported f.message := by
  intro loaded merged
  have hloaded : (loaded.map (·.1)).Nodup := Fields.nodup_override nodup_defaults
  have hmerged : (merged.map (·.1)).Nodup := Fields.nodup_override hloaded
  have hall : ∀ name ∈ names, loaded.get? name ≠ none := by
    intro name hname
    exact Fields.get?_override_ne_none
      (Fields.get?_ne_none_iff.2 (mem_defaults_of_names name hname))
  rw [settings_eq hfile]
  refine ⟨?_, ?_, ?_⟩
  · rw [← check_passes_iff hloaded, ← check_passes_iff hmerged]
    simp only [bind_eq_ok_iff, mapError_eq_ok_iff]
    constructor
    · rintro ⟨s, s', hs', hs⟩
      exact ⟨⟨s', hs'⟩, s, hs⟩
    · rintro ⟨⟨s', hs'⟩, s, hs⟩
      exact ⟨s, s', hs', hs⟩
  · intro s h
    obtain ⟨s', -, hs⟩ := bind_eq_ok_iff.1 h
    exact accepts_of_check hfile.nodup (mapError_eq_ok_iff.1 hs)
  · intro stop h
    rcases bind_eq_error_iff.1 h with h | ⟨s', hs', h⟩
    · obtain ⟨f, hf, rfl⟩ := mapError_eq_error_iff.1 h
      exact ⟨loaded, f, .inl rfl, blames_of_check hloaded hall hf, rfl⟩
    · obtain ⟨f, hf, rfl⟩ := mapError_eq_error_iff.1 h
      have hvalid := (check_passes_iff hloaded).1 ⟨s', mapError_eq_ok_iff.1 hs'⟩
      have hkept : ∀ name ∈ names, merged.get? name ≠ none := by
        intro name hname
        exact Fields.get?_override_ne_none (hall name hname)
      exact ⟨merged, f, .inr ⟨hvalid, rfl⟩, blames_of_check hmerged hkept hf, rfl⟩

/-! ### A settings file with one number -/

/-- A directory with the file. -/
def twoPixelFiles : FileSystem :=
  ⟨.directory [("p", .file ("\x7b\"cell_size\": 2\x7d".toList.map fun c => c.toNat.toUInt8))], []⟩

/-- A command line that names the file and prints nothing. -/
def twoPixelArguments : Arguments :=
  { Arguments.initial with
    config := some (.text "p")
    quiet := true }

/-- Whether a result is an object with one whole number. -/
def isNumberField (name : RawText) (n : Int) : Except Json.Fault Value → Bool
  | .ok (.object [(name', .int n')]) => name' = name ∧ n' = n
  | _ => false

theorem eq_of_isNumberField {n : Int} {r : Except Json.Fault Value} (h : isNumberField name n r) :
    r = .ok (.object [(name, .int n)]) := by
  unfold isNumberField at h
  split at h
  · obtain ⟨rfl, rfl⟩ := of_decide_eq_true h
    rfl
  · cases h

theorem twoPixelFiles_gives : Gives twoPixelFiles (.text "p") [("cell_size", .int 2)] := by
  have hascii : "\x7b\"cell_size\": 2\x7d".toList.all fun c => c.toNat < 0x80 := by decide +kernel
  refine .object (by decide) ?_ (decodeUtf8From_ascii hascii 0)
    (eq_of_isNumberField (by decide +kernel))
  rw [FileSystem.read, FileSystem.locate, namesOf_p]
  rfl

/-- Boxes have the side that the file gives, and nothing is printed. -/
theorem settings_layered_two_pixels :
    Gives twoPixelFiles (.text "p") [("cell_size", .int 2)] ∧
    ∃ s, settings twoPixelFiles twoPixelArguments = .ok s ∧ s.cellSize = 2 ∧ s.trace = false := by
  have hfile := twoPixelFiles_gives
  obtain ⟨hiff, haccepts, -⟩ := settings_layered (o := twoPixelArguments) hfile
  have hloaded : Valid (defaults.override [("cell_size", .int 2)]) := by
    refine (check_passes_iff (by decide)).1 ⟨⟨none, true, .warning, none, 2, ""⟩, ?_⟩
    rw [check, unknownKeys_eq_nil (by decide)]
    rfl
  have hmerged : Valid ((defaults.override [("cell_size", .int 2)]).override
      (optionFields twoPixelArguments)) := by
    refine (check_passes_iff (by decide)).1 ⟨⟨none, false, .warning, none, 2, ""⟩, ?_⟩
    rw [check, unknownKeys_eq_nil (by decide)]
    rfl
  obtain ⟨s, hs⟩ := hiff.2 ⟨hloaded, hmerged⟩
  have hreads := (haccepts s hs).reads
  exact ⟨hfile, s, hs, hreads.cellSize 2 rfl, hreads.trace false rfl⟩

end CommandLine

end TapeMachine
