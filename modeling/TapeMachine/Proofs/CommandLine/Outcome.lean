import TapeMachine.Picture.StandardLibrary
import TapeMachine.Proofs.CommandLine.Arguments
import TapeMachine.Proofs.CommandLine.Settings
import TapeMachine.Proofs.FileSystem.Path
import TapeMachine.Proofs.Machine.Ends
import TapeMachine.Proofs.Picture.Raised
import TapeMachine.Proofs.Program.Unbounded
import TapeMachine.Proofs.Text.Utf8

/-!
# What comes of a command line

A command line needs valid settings (`HasSettings`) and a program (`HasProgram`).  Then it runs
the machine of the program on the word, and prints what the run shows (`shown`), which is where
the unbounded machine is at each step up to the end of the run.  A diagram is drawn if the run
halts and one is wanted.  What fails on the way is reported, as long as the picture library raises
only what is expected (`RaisesExpected`), so there is nothing else that a command line can end
with: `run_outcome`.
-/

namespace TapeMachine.CommandLine

open Picture Text

variable {lib : Library} {files : FileSystem} {o : Arguments} {s : Settings} {p : Program}

/-- **The program of a command line**: its file must be UTF-8, and its text a program. -/
def HasProgram (files : FileSystem) (o : Arguments) (p : Program) : Prop :=
  ∃ bytes text, files.read (FileSystem.Path.ofText o.file.plain).text = .ok bytes ∧
    decodeUtf8 bytes = .ok text ∧ Program.ofText (String.ofList (unifyBreaks text)) = .ok p

/-- The unbounded machine of a program on the word of a command line. -/
def ideal (p : Program) (o : Arguments) : UnboundedMachine :=
  p.unbounded p.startState (.ofWord o.symbols)

/-- The configurations of a program on the word of a command line, up to so many steps. -/
def shown (p : Program) (o : Arguments) (k : Nat) : List Configuration :=
  (p.machine.run (String.ofList o.symbols) none (k + 1)).configurations

/-- **The picture library raises only what is expected** when the diagram of a run is drawn and
saved: for its size, for a caption, and for its file. -/
structure RaisesExpected (lib : Library) (files : FileSystem) (s : Settings) (path : RawText)
    (cs : List Configuration) (steps : Nat) : Prop where
  size : ∀ {f}, Diagram.draw lib.room cs s.cellSize none = .error (.size f) → f.isExpected
  opacity : ∀ {width height r}, lib.room.addOpacity width height = .error r → r.isExpected
  fonts : lib.fonts.RaisesExpected
  save : ∀ {diagram frame? r}, drawDiagram lib s cs steps = .ok (diagram, frame?) →
    lib.save files path diagram frame? = .error r → r.isExpected

/-! ### What is reported -/

/-- A stop that is reported. -/
def Stop.IsReported (stop : Stop) : Prop := ∃ message, stop = .reported message

theorem settings_error_isReported
    (hjson : ∀ text k, Settings.load settingsLevels files (o.config.getD .null)
      ≠ .error (.json text (.tooDeep k))) {stop : Stop} (h : settings files o = .error stop) :
    stop.IsReported := by
  rcases bind_eq_error_iff.1 h with h | ⟨fields, -, h⟩
  · obtain ⟨f, hf, rfl⟩ := mapError_eq_error_iff.1 h
    unfold stopOf
    split
    · exact absurd hf (hjson _ _)
    · exact ⟨_, rfl⟩
  · obtain ⟨f, -, rfl⟩ := mapError_eq_error_iff.1 h
    exact ⟨_, rfl⟩

theorem programOfBytes_eq_ok_iff {bytes : List UInt8} : Program.ofBytes bytes = .ok p ↔
    ∃ text, decodeUtf8 bytes = .ok text ∧
      Program.ofText (String.ofList (unifyBreaks text)) = .ok p := by
  rw [Program.ofBytes]
  cases decodeUtf8 bytes with
  | error f => simp
  | ok text =>
    dsimp only
    rw [mapError_eq_ok_iff]
    simp [Program.ofText]

theorem readProgram_eq_ok_iff (hnul : ¬ FileSystem.hasNul o.file.plain) :
    readProgram files o.file.plain = .ok p ↔ HasProgram files o p := by
  rw [readProgram, if_neg hnul, HasProgram]
  simp only [exists_and_left, ← programOfBytes_eq_ok_iff]
  cases files.read (FileSystem.Path.ofText o.file.plain).text with
  | error f => simp
  | ok bytes =>
    simp only [Except.ok.injEq, exists_eq_left']
    cases hp : Program.ofBytes bytes with
    | ok p' => simp
    | error f => cases f <;> simp

theorem readProgram_error_isReported {path : String} (hnul : ¬ FileSystem.hasNul path)
    {stop : Stop} (h : readProgram files path = .error stop) : stop.IsReported := by
  rw [readProgram, if_neg hnul] at h
  dsimp only at h
  split at h
  · obtain rfl := Except.error.inj h
    exact ⟨_, rfl⟩
  · split at h
    · cases h
    · obtain rfl := Except.error.inj h
      exact ⟨_, rfl⟩
    · obtain rfl := Except.error.inj h
      exact ⟨_, rfl⟩

theorem RaisesExpected.drawDiagram_error {path : RawText} {cs : List Configuration} {steps : Nat}
    (hlib : RaisesExpected lib files s path cs steps) {f : PictureFault}
    (h : drawDiagram lib s cs steps = .error f) : f.isExpected := by
  rcases bind_eq_error_iff.1 h with h | ⟨r, hr, h⟩
  · obtain ⟨f, hf, rfl⟩ := mapError_eq_error_iff.1 h
    cases f with
    | size f => exact hlib.size hf
    | noConfiguration => rfl
    | cellTooSmall => rfl
  · split at h
    · cases h
    rcases bind_eq_error_iff.1 h with h | ⟨frame, -, h⟩
    · obtain ⟨f, hf, rfl⟩ := mapError_eq_error_iff.1 h
      obtain ⟨hpos, hw, hh⟩ := Diagram.sides_of_draw (mapError_eq_ok_iff.1 hr)
      exact hlib.fonts.frame_error (.ofDiagram r) hlib.opacity hpos hw hh hf
    · cases h

theorem RaisesExpected.writeDiagram_error {path : RawText} {cs : List Configuration} {steps : Nat}
    (hlib : RaisesExpected lib files s path cs steps) {f : PictureFault}
    (h : writeDiagram lib files s path cs steps = .error f) : f.isExpected := by
  rcases bind_eq_error_iff.1 h with h | ⟨⟨diagram, frame?⟩, hdraw, h⟩
  · exact hlib.drawDiagram_error h
  rcases bind_eq_error_iff.1 h with h | ⟨file, -, h⟩
  · obtain ⟨r, hr, rfl⟩ := mapError_eq_error_iff.1 h
    exact hlib.save hdraw hr
  · cases h

/-! ### The run -/

theorem startOn_word (hword : o.word.items = .ok (o.symbols.map .ofSymbol)) :
    (p.machine.startOn o.word : Machine.Outcome Unit).result = .ok () ∧
      (p.machine.startOn o.word).machine
        = (p.machine.start (String.ofList o.symbols)).machine := by
  have htape : (Tape.ofValue o.word : Except Tape.Fault Tape) = .ok (Tape.ofWord o.symbols) := by
    rw [Tape.ofValue, hword]
    dsimp only
    rw [← Symbol.value_char, Symbol.ofValues_map_value]
  rw [Machine.start_of_fresh rfl, Machine.startOn, String.toList_ofList]
  dsimp only [Program.machine, Machine.new]
  rw [htape]
  exact ⟨rfl, rfl⟩

theorem underway_shown (p : Program) (o : Arguments) :
    (Machine.Run.ofStart (p.machine.start (String.ofList o.symbols)) (Machine.limitValue none) true
      false).Underway (ideal p o) none 0 := by
  have h := Machine.Run.underway_ofStart (.int p.startState) (.int p.endState)
    p.table.unchecked (String.ofList o.symbols) none true
  rwa [String.toList_ofList] at h

/-- **What is shown** is where the unbounded machine is at each step, if it does not stop before. -/
theorem shown_depicts {k : Nat} (hk : ∀ j < k, ¬ ((ideal p o).after j).Stopped) :
    List.Forall₂ (fun c j => c.Depicts ((ideal p o).after j) j) (shown p o k)
      (List.range (k + 1)) := by
  have hsound : (ideal p o).Sound := p.sound_unbounded ..
  have hunder := (underway_shown p o).drive hsound hk (by simp)
  rw [shown, Machine.run, Machine.Run.drive_add, Machine.Run.drive_succ]
  rcases hunder.advance_cases hsound with h | ⟨-, h⟩
  · exact h.emitted
  · exact h

/-- **When the run of a command line has ended**, its machine and the limit say how and after how
many steps, and it has shown what the machine shows without a limit up to there. -/
theorem beginRun_ends (hword : o.word.items = .ok (o.symbols.map .ofSymbol))
    (hs : HasSettings files o s) {moments : Nat} {e : Except Machine.Fault Configuration}
    (he : (Machine.Run.drive moments (beginRun s p o.word)).ending = some e) :
    ∃ k q, (ideal p o).Ends s.maxSteps k q ∧ (q = .halted ↔ ∃ c, e = .ok c) ∧
      (Machine.Run.drive moments (beginRun s p o.word)).configurations = shown p o k ∧
      (Machine.Run.drive moments (beginRun s p o.word)).machine.stepCount = k := by
  obtain ⟨hresult, hmachine⟩ := startOn_word (p := p) hword
  have hpath := Machine.Run.onPath_of_started hresult s.maxSteps s.trace
  rw [hmachine] at hpath
  have ht : (p.machine.start (String.ofList o.symbols)).machine.tape
      = some (Tape.ofWord (String.ofList o.symbols).toList) := Machine.tape_start ..
  -- It is not on its way any more, so it is at the end of it.
  obtain ⟨k, hr⟩ : ∃ k, (Machine.Run.drive moments (beginRun s p o.word)).EndedAt
      (p.machine.start (String.ofList o.symbols)).machine s.maxSteps k := by
    rcases hpath.drive ht moments with hr | ⟨k, -, hr⟩
    · have hnone : (Machine.Run.drive moments (beginRun s p o.word)).ending = none := hr.ending
      rw [hnone] at he
      contradiction
    · exact ⟨k, hr⟩
  have hunder := underway_shown p o
  have hfollows : (p.machine.start (String.ofList o.symbols)).machine.Follows (ideal p o) :=
    hunder.follows
  have hzero : (p.machine.start (String.ofList o.symbols)).machine.stepCount = 0 := hunder.stepCount
  have hsound : (ideal p o).Sound := p.sound_unbounded ..
  obtain ⟨q, e', he', hends, hhalted⟩ := hr.ends hfollows hsound hzero fun n hn => by
    obtain ⟨fields, hreads⟩ := hs.reads
    have := hreads.atLeastOne n hn
    omega
  obtain rfl : e = e' := Option.some.inj (he.symm.trans he')
  refine ⟨k, q, hends, hhalted, ?_, ?_⟩
  · have hunlimited := Machine.Run.onPath_ofStart (.int p.startState) (.int p.endState)
      p.table.unchecked (String.ofList o.symbols) none true
    exact List.map_injective_iff.2 (fun a b h => Except.ok.inj h)
      (hr.emitted.trans (hunlimited.emittedAlong_unlimited ht hr.goesOn).symm)
  · rw [hr.machine, (hfollows.afterSteps hsound hends.goesOn).2.2, hzero, Nat.zero_add]

/-! ### After the run -/

variable {r : Machine.Run} {e : Except Machine.Fault Configuration}

theorem Stop.stdout_report (stop : Stop) (stdout : String) (events : List Log.Event) :
    (stop.report stdout events).stdout = stdout := by cases stop <;> rfl

theorem Stop.written_report (stop : Stop) (stdout : String) (events : List Log.Event) :
    (stop.report stdout events).written = [] := by cases stop <;> rfl

theorem stdout_afterRun :
    (afterRun lib files s p r e).stdout = if s.trace then r.trace else "" := by
  cases e with
  | error f => rfl
  | ok c =>
    rw [afterRun]
    dsimp only
    split
    · rfl
    · split
      · rfl
      · split
        · exact Stop.stdout_report ..
        · rfl

/-- **Nothing is written** but the diagram of a run that has halted, if one is wanted. -/
theorem written_afterRun {w : Written} (h : w ∈ (afterRun lib files s p r e).written) :
    (∃ c, e = .ok c) ∧ ∃ path, s.Draws path ∧
      writeDiagram lib files s path r.configurations r.machine.stepCount = .ok w := by
  cases e with
  | error f => simp [afterRun, Stop.report] at h
  | ok c =>
    refine ⟨⟨c, rfl⟩, ?_⟩
    rw [afterRun] at h
    dsimp only at h
    split at h
    · simp at h
    · next path hpath =>
      split at h
      · simp at h
      · next hempty =>
        split at h
        · rw [Stop.written_report] at h
          simp at h
        · next w' hw =>
          obtain rfl := List.mem_singleton.1 h
          exact ⟨path, ⟨hpath, hempty⟩, hw⟩

/-- **What a run comes to**: all is well if it has halted and the diagram is written, if one is
wanted; and if the picture library raises only what is expected, all else is reported. -/
theorem ending_afterRun (hlib : ∀ path, (∃ c, e = .ok c) → s.Draws path →
      RaisesExpected lib files s path r.configurations r.machine.stepCount) :
    ((afterRun lib files s p r e).ending = .exit 0 ∨
        (afterRun lib files s p r e).ending = .exit 1) ∧
      ((afterRun lib files s p r e).ending = .exit 0 ↔ (∃ c, e = .ok c) ∧ ∀ path, s.Draws path →
        ∃ w, writeDiagram lib files s path r.configurations r.machine.stepCount = .ok w) := by
  cases e with
  | error f => exact ⟨.inr rfl, by simp [afterRun, Stop.report]⟩
  | ok c =>
    rw [afterRun]
    dsimp only
    cases hd : s.diagram with
    | none => exact ⟨.inl rfl, by simp [Settings.Draws, hd]⟩
    | some path =>
      dsimp only
      by_cases hempty : path.isEmpty
      · rw [if_pos hempty]
        exact ⟨.inl rfl, by simp [Settings.Draws, hd, hempty]⟩
      · rw [if_neg hempty]
        have hdraws : ∀ path', s.Draws path' ↔ path = path' := by
          intro path'
          simp only [Settings.Draws, hd, Option.some.injEq, and_iff_left_iff_imp]
          rintro rfl
          exact hempty
        simp only [hdraws, forall_eq']
        cases hw : writeDiagram lib files s path r.configurations r.machine.stepCount with
        | ok w => exact ⟨.inl rfl, by simp⟩
        | error f =>
          have hexpected := (hlib path ⟨c, rfl⟩ ((hdraws path).2 rfl)).writeDiagram_error hw
          dsimp only
          rw [stopOfPicture, if_pos hexpected]
          exact ⟨.inr rfl, by simp [Stop.report]⟩

/-! ### The command line -/

theorem begin_of_has (hnul : ¬ FileSystem.hasNul o.file.plain) (hs : HasSettings files o s)
    (hp : HasProgram files o p) : begin files o = .ok (.running s p (beginRun s p o.word)) :=
  bind_eq_ok_iff.2 ⟨s, settings_eq_ok_iff.2 hs,
    bind_eq_ok_iff.2 ⟨p, (readProgram_eq_ok_iff hnul).2 hp, rfl⟩⟩

theorem begin_error (hnul : ¬ FileSystem.hasNul o.file.plain)
    (hjson : ∀ text k, Settings.load settingsLevels files (o.config.getD .null)
      ≠ .error (.json text (.tooDeep k))) {stop : Stop} (h : begin files o = .error stop) :
    stop.IsReported ∧ ∀ s p, HasSettings files o s → ¬ HasProgram files o p := by
  refine ⟨?_, fun s p hs hp => ?_⟩
  · rcases bind_eq_error_iff.1 h with h | ⟨s, -, h⟩
    · exact settings_error_isReported hjson h
    · rcases bind_eq_error_iff.1 h with h | ⟨p, -, h⟩
      · exact readProgram_error_isReported hnul h
      · cases h
  · rw [begin_of_has hnul hs hp] at h
    cases h

theorem begin_ok (hnul : ¬ FileSystem.hasNul o.file.plain) {prepared : Prepared}
    (h : begin files o = .ok prepared) : ∃ s p, HasSettings files o s ∧ HasProgram files o p ∧
      prepared = .running s p (beginRun s p o.word) := by
  obtain ⟨s, hs, h⟩ := bind_eq_ok_iff.1 h
  obtain ⟨p, hp, h⟩ := bind_eq_ok_iff.1 h
  exact ⟨s, p, settings_eq_ok_iff.1 hs, (readProgram_eq_ok_iff hnul).1 hp, (Except.ok.inj h).symm⟩

theorem HasSettings.unique {s' : Settings} (h : HasSettings files o s)
    (h' : HasSettings files o s') : s = s' :=
  Except.ok.inj ((settings_eq_ok_iff.2 h).symm.trans (settings_eq_ok_iff.2 h'))

theorem HasProgram.unique {p' : Program} (hnul : ¬ FileSystem.hasNul o.file.plain)
    (h : HasProgram files o p) (h' : HasProgram files o p') : p = p' :=
  Except.ok.inj (((readProgram_eq_ok_iff hnul).2 h).symm.trans ((readProgram_eq_ok_iff hnul).2 h'))

theorem run_of_begin_error {argv : List String} (hparse : Arguments.parse argv = .ok o)
    {stop : Stop} (h : begin files o = .error stop) (moments : Nat) :
    run lib files argv moments = some (stop.report "" []) := by
  rw [run, prepare, hparse]
  dsimp only
  rw [h]

theorem run_of_begin_ok {argv : List String} (hparse : Arguments.parse argv = .ok o)
    {r : Machine.Run} (h : begin files o = .ok (.running s p r)) (moments : Nat) :
    run lib files argv moments
      = (r.drive moments).ending.map (afterRun lib files s p (r.drive moments)) := by
  rw [run, prepare, hparse]
  dsimp only
  rw [h]

/-- **What comes of a command line.**  It always ends with an exit code, as long as the picture
library raises only what is expected.  It exits with 0 if and only if there are settings and a
program, the unbounded machine halts on the word within the limit, and the diagram can be written,
if one is wanted.  It prints the line of each configuration up to the end of the run, unless it is
quiet, and nothing without settings and a program, and it writes nothing unless the machine has
halted and a diagram is wanted.  What its options say holds, and otherwise what its file says. -/
theorem run_outcome {argv : List String} (hparse : Arguments.parse argv = .ok o)
    (hnul : ¬ FileSystem.hasNul o.file.plain)
    (hjson : ∀ text k, Settings.load settingsLevels files (o.config.getD .null)
      ≠ .error (.json text (.tooDeep k)))
    (hlib : ∀ s p k path, HasSettings files o s → HasProgram files o p →
      (ideal p o).Ends s.maxSteps k .halted → s.Draws path →
      RaisesExpected lib files s path (shown p o k) k)
    {moments : Nat} {report : Report} (hrun : run lib files argv moments = some report) :
    (report.ending = .exit 0 ∨ report.ending = .exit 1) ∧
    (report.ending = .exit 0 ↔ ∃ s p k, HasSettings files o s ∧ HasProgram files o p ∧
      (ideal p o).Ends s.maxSteps k .halted ∧
      ∀ path, s.Draws path → ∃ w, writeDiagram lib files s path (shown p o k) k = .ok w) ∧
    ((∀ s p, HasSettings files o s → ¬ HasProgram files o p) →
      report.stdout = "" ∧ report.written = []) ∧
    (∀ s p, HasSettings files o s → HasProgram files o p →
      ∃ k q, (ideal p o).Ends s.maxSteps k q ∧
        List.Forall₂ (fun c j => c.Depicts ((ideal p o).after j) j) (shown p o k)
          (List.range (k + 1)) ∧
        report.stdout
          = (if s.trace then String.join ((shown p o k).map fun c => c.line ++ "\n") else "") ∧
        ∀ w ∈ report.written, q = .halted ∧
          ∃ path, s.Draws path ∧ writeDiagram lib files s path (shown p o k) k = .ok w) ∧
    ∀ s, HasSettings files o s → Obeys o s ∧ Keeps files o s := by
  cases hbegin : begin files o with
  | error stop =>
    obtain ⟨⟨message, rfl⟩, hnone⟩ := begin_error hnul hjson hbegin
    rw [run_of_begin_error hparse hbegin] at hrun
    obtain rfl := Option.some.inj hrun
    refine ⟨.inr rfl, ⟨fun h => ?_, fun ⟨s, p, _, hs, hp, _⟩ => absurd hp (hnone s p hs)⟩,
      fun _ => ⟨rfl, rfl⟩, fun s p hs hp => absurd hp (hnone s p hs),
      fun s hs => ⟨hs.obeys, hs.keeps⟩⟩
    simp [Stop.report] at h
  | ok prepared =>
    obtain ⟨s, p, hs, hp, rfl⟩ := begin_ok hnul hbegin
    rw [run_of_begin_ok hparse hbegin] at hrun
    obtain ⟨e, he, rfl⟩ := Option.map_eq_some_iff.1 hrun
    obtain ⟨k, q, hends, hhalted, hshown, hcount⟩ :=
      beginRun_ends (Arguments.parse_word hparse) hs he
    have hdepicts := shown_depicts hends.goesOn
    obtain ⟨hexit, hzero⟩ := ending_afterRun fun path hc hdraws => by
      rw [hshown, hcount]
      exact hlib s p k path hs hp (hhalted.2 hc ▸ hends) hdraws
    rw [hshown, hcount] at hzero
    refine ⟨hexit, hzero.trans ⟨fun ⟨hc, hw⟩ => ?_, fun ⟨s', p', k', hs', hp', hends', hw⟩ => ?_⟩,
      fun hnone => absurd hp (hnone s p hs), fun s' p' hs' hp' => ?_,
      fun s hs => ⟨hs.obeys, hs.keeps⟩⟩
    · exact ⟨s, p, k, hs, hp, hhalted.2 hc ▸ hends, hw⟩
    · obtain rfl := hs.unique hs'
      obtain rfl := hp.unique hnul hp'
      obtain ⟨rfl, rfl⟩ := hends.unique hends'
      exact ⟨hhalted.1 rfl, hw⟩
    · obtain rfl := hs.unique hs'
      obtain rfl := hp.unique hnul hp'
      refine ⟨k, q, hends, hdepicts, ?_, fun w hw => ?_⟩
      · rw [stdout_afterRun, Machine.Run.trace, hshown]
      · obtain ⟨hc, path, hdraws, hwrite⟩ := written_afterRun hw
        rw [hshown, hcount] at hwrite
        exact ⟨hhalted.2 hc, path, hdraws, hwrite⟩

/-! ### A program that makes an `a` a `b` -/

theorem decodeUtf8From_ascii {cs : List Char} (h : cs.all fun c => c.toNat < 0x80) (start : Nat) :
    decodeUtf8From start (cs.map fun c => c.toNat.toUInt8) = .ok cs := by
  rw [← utf8_ascii h]
  exact decodeUtf8From_utf8 cs start

/-- The program, which makes one step. -/
def relabel : Program := ⟨1, "a", "aB", 0, 1, [(⟨0, 'a'⟩, ⟨1, 'b', .right⟩)]⟩

/-- A directory with the file of the program. -/
def relabelFiles : FileSystem :=
  ⟨.directory [("p", .file (relabel.toText.toList.map fun c => c.toNat.toUInt8))], []⟩

/-- A command line that runs the program and asks for a diagram. -/
def relabelArguments : Arguments :=
  { Arguments.initial with
    file := .text "p"
    word := .text "a"
    diagram := some (.text "d.png") }

/-- The settings that it has. -/
def relabelSettings : Settings := ⟨none, true, .warning, some "d.png", 8, ""⟩

theorem relabel_hasSettings : HasSettings relabelFiles relabelArguments relabelSettings := by
  refine ⟨_, .defaults, ?_⟩
  rw [Settings.check, Settings.unknownKeys_eq_nil (by decide)]
  rfl

theorem splitPath_p : FileSystem.splitPath "p" = ["p"] := by
  rw [FileSystem.splitPath, FileSystem.splitOn_slash]
  decide

theorem namesOf_p : FileSystem.namesOf "p" = ["p"] := congrArg (List.map RawText.sound) splitPath_p

theorem relabel_hasProgram : HasProgram relabelFiles relabelArguments relabel := by
  have htext : (FileSystem.Path.ofText "p").text = "p" := by
    rw [FileSystem.Path.ofText, splitPath_p]
    decide
  have hascii : relabel.toText.toList.all fun c => c.toNat < 0x80 := by decide +kernel
  refine ⟨_, _, ?_, decodeUtf8From_ascii hascii 0, by decide +kernel⟩
  show relabelFiles.read (FileSystem.Path.ofText "p").text = _
  rw [htext, FileSystem.read, FileSystem.locate, namesOf_p]
  rfl

theorem relabel_ends : (ideal relabel relabelArguments).Ends none 1 .halted := by
  refine .halted ⟨.inl (by decide), fun j hj => ?_⟩ (by decide) nofun
  obtain rfl : j = 0 := by omega
  exact not_or.2 ⟨by decide, by decide⟩

theorem namesOf_png : FileSystem.namesOf "d.png" = ["d.png"] := by
  have hsplit : FileSystem.splitPath "d.png" = ["d.png"] := by
    rw [FileSystem.splitPath, FileSystem.splitOn_slash]
    decide
  exact congrArg (List.map RawText.sound) hsplit

/-- The file of the diagram can be written. -/
theorem save_png (diagram : Raster Color) :
    ∃ file, FileFormat.save relabelFiles "d.png" diagram none = .ok file := by
  have hformat : (FileName.extension "d.png").string?.bind FileFormat.ofExtension?
      = some ⟨"PNG", some .faithful⟩ := rfl
  have hpath : FileFormat.filePath "d.png" = .ok "d.png" := by rfl
  have htarget : relabelFiles.writeTarget "d.png" = .ok ⟨[], "d.png", true⟩ := by
    rw [FileSystem.writeTarget, namesOf_png]
    rfl
  unfold FileFormat.save
  dsimp only
  rw [hformat]
  dsimp only
  rw [hpath, ok_mapError, ok_bind, htarget]
  exact ⟨_, rfl⟩

theorem exists_draw_relabel : ∃ diagram, Diagram.draw Library.standard.room
    (shown relabel relabelArguments 1) relabelSettings.cellSize none = .ok diagram := by
  have hok : (Diagram.draw Library.standard.room (shown relabel relabelArguments 1)
      relabelSettings.cellSize none).isOk := by decide +kernel
  cases hdraw : Diagram.draw Library.standard.room (shown relabel relabelArguments 1)
      relabelSettings.cellSize none with
  | ok diagram => exact ⟨diagram, rfl⟩
  | error f =>
    rw [hdraw] at hok
    cases hok

theorem exists_writeDiagram_relabel : ∃ w, writeDiagram .standard relabelFiles relabelSettings
    "d.png" (shown relabel relabelArguments 1) 1 = .ok w := by
  obtain ⟨diagram, hdraw⟩ := exists_draw_relabel
  obtain ⟨file, hfile⟩ := save_png diagram
  refine ⟨⟨diagram, none, file⟩, bind_eq_ok_iff.2 ⟨(diagram, none), ?_, ?_⟩⟩
  · exact bind_eq_ok_iff.2 ⟨diagram, mapError_eq_ok_iff.2 hdraw, rfl⟩
  · exact bind_eq_ok_iff.2 ⟨file, mapError_eq_ok_iff.2 hfile, rfl⟩

theorem relabel_raisesExpected : RaisesExpected .standard relabelFiles relabelSettings "d.png"
    (shown relabel relabelArguments 1) 1 where
  size h := by
    obtain ⟨diagram, hdraw⟩ := exists_draw_relabel
    cases hdraw.symm.trans h
  opacity := nofun
  fonts := Fonts.raisesExpected_absent
  save hdraw h := by
    obtain ⟨r, -, hframe⟩ := bind_eq_ok_iff.1 hdraw
    obtain ⟨rfl, rfl⟩ := Prod.mk.inj (Except.ok.inj hframe)
    obtain ⟨file, hfile⟩ := save_png r
    cases hfile.symm.trans h

/-- One step is made, two lines are printed, and the diagram is written. -/
theorem run_outcome_relabel :
    let argv := ["--diagram", "d.png", "p", "a"]
    Arguments.parse argv = .ok relabelArguments ∧
    ∃ report, run .standard relabelFiles argv 2 = some report ∧ report.ending = .exit 0 ∧
      report.stdout = "...B[0]aB...\n...Bb[1]BB...\n" := by
  intro argv
  have hparse : Arguments.parse argv = .ok relabelArguments := by rfl
  have hnul : ¬ FileSystem.hasNul relabelArguments.file.plain := by decide
  have hs := relabel_hasSettings
  have hp := relabel_hasProgram
  obtain ⟨report, hrun⟩ : ∃ report, run .standard relabelFiles argv 2 = some report := by
    rw [run_of_begin_ok hparse (begin_of_has hnul hs hp)]
    refine Option.isSome_iff_exists.1 (Option.isSome_map.trans ?_)
    decide +kernel
  have hlib : ∀ s p k path, HasSettings relabelFiles relabelArguments s →
      HasProgram relabelFiles relabelArguments p →
      (ideal p relabelArguments).Ends s.maxSteps k .halted → s.Draws path →
      RaisesExpected .standard relabelFiles s path (shown p relabelArguments k) k := by
    intro s p k path hs' hp' hends hdraws
    obtain rfl := hs.unique hs'
    obtain rfl := hp.unique hnul hp'
    obtain ⟨rfl, -⟩ := relabel_ends.unique hends
    obtain rfl := Option.some.inj hdraws.1
    exact relabel_raisesExpected
  obtain ⟨-, hzero, -, hstdout, -⟩ := run_outcome hparse hnul nofun hlib hrun
  obtain ⟨k, q, hends, -, hprinted, -⟩ := hstdout _ _ hs hp
  obtain ⟨rfl, -⟩ := relabel_ends.unique hends
  refine ⟨hparse, report, hrun, hzero.2 ⟨_, _, 1, hs, hp, relabel_ends, ?_⟩, hprinted.trans ?_⟩
  · rintro path ⟨hpath, -⟩
    obtain rfl := Option.some.inj hpath
    exact exists_writeDiagram_relabel
  · decide +kernel

end TapeMachine.CommandLine
