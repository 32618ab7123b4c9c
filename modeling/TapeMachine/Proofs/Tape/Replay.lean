import TapeMachine.Log
import TapeMachine.Proofs.Tape.Simulation
import TapeMachine.Proofs.Text.Numeral

/-!
# Replaying the log of a tape

A tape logs each cell that it makes or drops, by its position.  `Extent.Takes u e line e'` says that
a line of the log takes the extent `e` to `e'` while `u` is the unbounded tape: the line names the
position behind the extent or before it, and it grows by that, or it names one of its ends, which
leaves it; then the extent has other positions, the head is elsewhere and the unbounded tape is
blank there.

`Tape.entries` are the lines that an operation logs, each with the unbounded tape as it is when the
line is logged: a tape grows before its head moves, and drops cells after that.  The lines of any
operations take the extent of the word to that of the live cells, one after another
(`Shows.replays_record`), and they can take it nowhere else, since a line tells its event
(`message_injective`, `Extent.Replays.unique`): `log_replays_extent`.
-/

namespace TapeMachine

open Text

/-! ### Lines tell their events -/

/-- Texts that begin in different ways are different. -/
theorem append_ne {s s' : String} (n : Nat) (h : n ≤ s.toList.length ∧ n ≤ s'.toList.length ∧
    s.toList.take n ≠ s'.toList.take n) (a a' : String) : s ++ a ≠ s' ++ a' := by
  intro he
  obtain ⟨hs, hs', hne⟩ := h
  have htake := congrArg (fun text : String => text.toList.take n) he
  simp only [String.toList_append, List.take_append_of_le_length hs,
    List.take_append_of_le_length hs'] at htake
  exact hne htake

theorem eq_of_append_integer {s : String} {p q : Int} (h : s ++ integer p = s ++ integer q) :
    p = q := by
  have hlists := congrArg String.toList h
  rw [String.toList_append, String.toList_append, List.append_right_inj] at hlists
  exact signed_injective (String.ofList_injective (String.toList_inj.1 hlists))

/-- **A line of the log tells what happened.** -/
theorem Tape.message_injective :
    Function.Injective fun e : Event => (Log.Event.tape e).message := by
  intro e e' h
  cases e with
  | grewRight p =>
    cases e' with
    | grewRight q => exact congrArg Event.grewRight (eq_of_append_integer h)
    | grewLeft q => exact absurd h (append_ne 22 (by decide) _ _)
    | dropped q => exact absurd h (append_ne 22 (by decide) _ _)
  | grewLeft p =>
    cases e' with
    | grewRight q => exact absurd h (append_ne 22 (by decide) _ _)
    | grewLeft q => exact congrArg Event.grewLeft (eq_of_append_integer h)
    | dropped q => exact absurd h (append_ne 22 (by decide) _ _)
  | dropped p =>
    cases e' with
    | grewRight q => exact absurd h (append_ne 22 (by decide) _ _)
    | grewLeft q => exact absurd h (append_ne 22 (by decide) _ _)
    | dropped q => exact congrArg Event.dropped (eq_of_append_integer h)

/-! ### Extents -/

/-- The positions from one to another. -/
structure Extent where
  first : Int
  last : Int

namespace Extent

/-- **A line of the log takes an extent to the next**, while the unbounded tape is `u`. -/
inductive Takes (u : UnboundedTape) : Extent → String → Extent → Prop
  | grewRight (first last : Int) :
      Takes u ⟨first, last⟩ ("Extended tape to the right at " ++ integer (last + 1))
        ⟨first, last + 1⟩
  | grewLeft (first last : Int) :
      Takes u ⟨first, last⟩ ("Extended tape to the left at " ++ integer (first - 1))
        ⟨first - 1, last⟩
  | droppedFirst {first last : Int} (hlt : first < last) (hhead : first ≠ u.head)
      (hblank : u.symbol first = blank) :
      Takes u ⟨first, last⟩ ("Dropped blank cell at " ++ integer first) ⟨first + 1, last⟩
  | droppedLast {first last : Int} (hlt : first < last) (hhead : last ≠ u.head)
      (hblank : u.symbol last = blank) :
      Takes u ⟨first, last⟩ ("Dropped blank cell at " ++ integer last) ⟨first, last - 1⟩

/-- **Lines of the log lead from an extent to another**, each logged while the unbounded tape is as
beside it. -/
inductive Replays : Extent → List (UnboundedTape × String) → Extent → Prop
  | nil (e : Extent) : Replays e [] e
  | cons {u : UnboundedTape} {line : String} {e e' e'' : Extent}
      {rest : List (UnboundedTape × String)} (h : e.Takes u line e') (hrest : Replays e' rest e'') :
      Replays e ((u, line) :: rest) e''

/-- The extent after an event: a position that is dropped is the first one or the last one. -/
def next (e : Extent) : Tape.Event → Extent
  | .grewRight p => ⟨e.first, p⟩
  | .grewLeft p => ⟨p, e.last⟩
  | .dropped p => if p = e.first then ⟨p + 1, e.last⟩ else ⟨e.first, p - 1⟩

variable {u v : UnboundedTape} {e e' e₁ e₂ : Extent} {line : String}
  {l l' : List (UnboundedTape × String)}

theorem Takes.exists_event (h : e.Takes u line e') :
    ∃ ev, line = (Log.Event.tape ev).message ∧ e' = e.next ev := by
  cases h with
  | grewRight first last => exact ⟨.grewRight (last + 1), rfl, rfl⟩
  | grewLeft first last => exact ⟨.grewLeft (first - 1), rfl, rfl⟩
  | @droppedFirst first last => exact ⟨.dropped first, rfl, (if_pos rfl).symm⟩
  | @droppedLast first last hlt => exact ⟨.dropped last, rfl, (if_neg hlt.ne').symm⟩

/-- **A line takes an extent to one other only**, whatever the unbounded tape is. -/
theorem Takes.unique (h : e.Takes u line e₁) (h' : e.Takes v line e₂) : e₁ = e₂ := by
  obtain ⟨ev, rfl, rfl⟩ := h.exists_event
  obtain ⟨ev', hline, rfl⟩ := h'.exists_event
  rw [Tape.message_injective hline]

theorem Replays.append (h : e.Replays l e₁) (h' : e₁.Replays l' e₂) : e.Replays (l ++ l') e₂ := by
  induction h with
  | nil => exact h'
  | cons ht _ ih => exact .cons ht (ih h')

/-- **Lines of the log lead to one extent only.** -/
theorem Replays.unique (h : e.Replays l e₁) (h' : e.Replays l' e₂)
    (hl : l.map Prod.snd = l'.map Prod.snd) : e₁ = e₂ := by
  induction h generalizing l' with
  | nil =>
    obtain rfl := List.map_eq_nil_iff.1 hl.symm
    cases h'
    rfl
  | cons ht _ ih =>
    cases h' with
    | nil => cases hl
    | cons ht' hrest' =>
      obtain ⟨hline, hlines⟩ := List.cons.inj hl
      dsimp only at hline
      subst hline
      obtain rfl := ht.unique ht'
      exact ih hrest' hlines

end Extent

namespace Tape

open Extent (Replays)

variable {t : Tape} {f : Int → Nat} {u : UnboundedTape}

/-! ### What operations log -/

/-- The extent of the live cells: so many positions from the first one on. -/
def extent (t : Tape) : Extent := ⟨t.firstPosition, t.firstPosition + t.length - 1⟩

/-- What an operation reports; a refused one reports nothing. -/
def events (t : Tape) : Operation → List Event
  | .read | .write _ => []
  | .move v => ((t.moveValue v).map Prod.snd).toOption.getD []
  | .trim => t.trim.2

/-- What operations one after another report. -/
def log (t : Tape) : List Operation → List Log.Event
  | [] => []
  | o :: ops => (t.events o).map .tape ++ (t.perform o).log ops

/-- The lines of events that are reported while the unbounded tape stays as it is. -/
def entriesAt (u : UnboundedTape) (events : List Event) : List (UnboundedTape × String) :=
  events.map fun e => (u, (Log.Event.tape e).message)

/-- The lines that an operation logs, each with the unbounded tape as it is when it is logged. -/
def entries (t : Tape) (u : UnboundedTape) : Operation → List (UnboundedTape × String)
  | .read | .write _ => []
  | .move v =>
    match Direction.ofValue? v with
    | none | some .stay => []
    | some d => entriesAt u (t.reach d).2 ++ entriesAt (u.move d) (t.reach d).1.trim.2
  | .trim => entriesAt u t.trim.2

/-- The lines that operations log one after another. -/
def record (t : Tape) (u : UnboundedTape) : List Operation → List (UnboundedTape × String)
  | [] => []
  | o :: ops => t.entries u o ++ (t.perform o).record (u.perform o) ops

theorem map_snd_entriesAt (u : UnboundedTape) (events : List Event) :
    (entriesAt u events).map Prod.snd = events.map fun e => (Log.Event.tape e).message :=
  List.map_map

theorem map_snd_entries (t : Tape) (u : UnboundedTape) (o : Operation) :
    (t.entries u o).map Prod.snd = (t.events o).map fun e => (Log.Event.tape e).message := by
  cases o with
  | read => rfl
  | write v => rfl
  | trim => exact map_snd_entriesAt u _
  | move v =>
    rw [entries, events, moveValue]
    cases hv : Direction.ofValue? v with
    | none => rfl
    | some d =>
      cases d with
      | stay => rfl
      | left => simp [move, map_snd_entriesAt, Except.map, Except.toOption]
      | right => simp [move, map_snd_entriesAt, Except.map, Except.toOption]

/-- **The lines of a record are the log.** -/
theorem map_snd_record (t : Tape) (u : UnboundedTape) (ops : List Operation) :
    (t.record u ops).map Prod.snd = (t.log ops).map Log.Event.message := by
  induction ops generalizing t u with
  | nil => rfl
  | cons o ops ih =>
    rw [record, log, List.map_append, List.map_append, map_snd_entries, ih, List.map_map]
    rfl

/-! ### The log leads to the live cells -/

theorem LaidOut.extent_eq (h : t.LaidOut f) : t.extent = ⟨t.firstPosition, t.lastPosition⟩ := by
  have hl := h.length_eq
  rw [extent, Extent.mk.injEq]
  omega

/-- A loop that drops cells logs right lines if each round does. -/
theorem replays_dropAll {P : Tape → Prop} {new? : Tape → Option Nat}
    {drop : Tape → Nat → Tape × Event}
    (hstep : ∀ t i, P t → new? t = some i → P (drop t i).1 ∧
      t.extent.Takes u (Log.Event.tape (drop t i).2).message (drop t i).1.extent)
    (n : Nat) (h : P t) :
    t.extent.Replays (entriesAt u (dropAll new? drop n t).2) (dropAll new? drop n t).1.extent := by
  induction n generalizing t with
  | zero => exact .nil _
  | succ n ih =>
    cases hi : new? t with
    | none =>
      rw [dropAll_of_none hi]
      exact .nil _
    | some i =>
      obtain ⟨hkeeps, htakes⟩ := hstep t i h hi
      rw [dropAll, hi]
      exact .cons htakes (ih hkeeps)

namespace Shows

theorem takes_dropFirst (h : t.Shows f u) (hlt : t.firstPosition < t.position)
    (hb : t.blankAt t.first) :
    t.extent.Takes u (Log.Event.tape (.dropped t.firstPosition)).message
      (t.dropFirst (f (t.firstPosition + 1))).1.extent := by
  have hle := h.le_last
  rw [← h.first, h.blankAt_iff h.first_mem] at hb
  rw [h.extent_eq, (h.toLaidOut.dropFirst hlt).extent_eq]
  refine .droppedFirst (by omega) ?_ hb
  rw [← h.position_eq]
  exact hlt.ne

theorem takes_dropLast (h : t.Shows f u) (hlt : t.position < t.lastPosition)
    (hb : t.blankAt t.last) :
    t.extent.Takes u (Log.Event.tape (.dropped t.lastPosition)).message
      (t.dropLast (f (t.lastPosition - 1))).1.extent := by
  have hle := h.first_le
  rw [← h.last, h.blankAt_iff h.last_mem] at hb
  rw [h.extent_eq, (h.toLaidOut.dropLast hlt).extent_eq]
  refine .droppedLast (by omega) ?_ hb
  rw [← h.position_eq]
  exact hlt.ne'

theorem dropLast (h : t.Shows f u) (hlt : t.position < t.lastPosition) (hb : t.blankAt t.last) :
    (t.dropLast (f (t.lastPosition - 1))).1.Shows f u := by
  have hd := h.mirror.dropFirst (Int.neg_lt_neg hlt) (by rwa [blankAt_mirror])
  rw [LaidOut.neg_next_mirror, ← mirror_dropLast] at hd
  simpa using hd.of_mirror

/-- **Trimming logs the cells that it drops**, first those at the left end. -/
theorem replays_trim (h : t.Shows f u) :
    t.extent.Replays (entriesAt u t.trim.2) t.trim.1.extent := by
  have hfirst := replays_dropAll (P := fun t => t.Shows f u) (fun t i h hi => by
    obtain ⟨hd, rfl⟩ := h.newFirst?_eq_some_iff.1 hi
    obtain ⟨hlt, hb⟩ := h.dropsFirst_iff.1 hd
    exact ⟨h.dropFirst hlt hb, h.takes_dropFirst hlt hb⟩) t.length h
  have hlast := replays_dropAll (P := fun t => t.Shows f u) (fun t i h hi => by
    obtain ⟨hd, rfl⟩ := h.newLast?_eq_some_iff.1 hi
    obtain ⟨hlt, hb⟩ := h.dropsLast_iff.1 hd
    exact ⟨h.dropLast hlt hb, h.takes_dropLast hlt hb⟩)
    (dropAll newFirst? Tape.dropFirst t.length t).1.length (h.dropAllFirst t.length)
  have hall := hfirst.append hlast
  rwa [entriesAt, entriesAt, ← List.map_append] at hall

/-- **Reaching the next cell logs the one that is made for it**, if one is. -/
theorem replays_reach (h : t.Shows f u) (d : Direction) :
    t.extent.Replays (entriesAt u (t.reach d).2) (t.reach d).1.extent := by
  obtain ⟨g, hg⟩ := h.reach d
  rw [h.extent_eq, hg.extent_eq]
  cases d with
  | stay => exact .nil _
  | right =>
    rw [Tape.reach]
    cases t.chain.right? t.head with
    | some i => exact .nil _
    | none => exact .cons (.grewRight _ _) (.nil _)
  | left =>
    rw [Tape.reach]
    cases t.chain.left? t.head with
    | some i => exact .nil _
    | none => exact .cons (.grewLeft _ _) (.nil _)

/-- **An operation logs how the live cells change.** -/
theorem replays_entries (h : t.Shows f u) (o : Operation) :
    t.extent.Replays (t.entries u o) (t.perform o).extent := by
  cases o with
  | read => exact .nil _
  | write v =>
    cases hv : v.symbol? with
    | none =>
      rw [perform_write_of_none t hv]
      exact .nil _
    | some c =>
      rw [perform_write_of_some t hv]
      exact .nil _
  | trim => exact h.replays_trim
  | move v =>
    rw [entries]
    cases hv : Direction.ofValue? v with
    | none =>
      rw [perform_move_of_none t hv]
      exact .nil _
    | some d =>
      obtain ⟨g, hg⟩ := h.reach d
      have hmove := (h.replays_reach d).append hg.replays_trim
      rw [perform_move_of_some t hv]
      cases d with
      | stay => exact .nil _
      | left => exact hmove
      | right => exact hmove

/-- **The lines of a record lead to the live cells.** -/
theorem replays_record (h : t.Shows f u) (ops : List Operation) :
    t.extent.Replays (t.record u ops) (t.after ops).extent := by
  induction ops generalizing t f u with
  | nil => exact .nil _
  | cons o ops ih =>
    obtain ⟨g, hg⟩ := h.perform o
    exact (h.replays_entries o).append (ih hg)

end Shows

theorem extent_ofWord (w : List Char) :
    (ofWord w : Tape).extent = ⟨0, max ((w.length : Int) - 1) 0⟩ := by
  rw [(laidOut_ofWord w).extent_eq, firstPosition_ofWord, lastPosition_ofWord]
  cases w with
  | nil => rfl
  | cons s rest =>
    rw [Extent.mk.injEq]
    refine ⟨rfl, ?_⟩
    rw [cellsOf, List.length_cons]
    omega

/-- **The log of a tape replays its live cells.**  Beginning with the extent of the word, every line
that operations log is right about the extent and about the unbounded tape as it is then, and takes
the extent to the next one, up to that of the live cells.  Lines that say the same lead nowhere
else. -/
theorem log_replays_extent (w : List Char) (ops : List Operation) :
    let t : Tape := ofWord w
    let start : Extent := ⟨0, max ((w.length : Int) - 1) 0⟩
    let lines := t.record (UnboundedTape.ofWord w) ops
    let live : Extent := ⟨(t.after ops).firstPosition,
      (t.after ops).firstPosition + (t.after ops).length - 1⟩
    lines.map Prod.snd = (t.log ops).map Log.Event.message ∧ start.Replays lines live ∧
      ∀ lines' e, lines'.map Prod.snd = (t.log ops).map Log.Event.message →
        start.Replays lines' e → e = live := by
  intro t start lines live
  have hlines := map_snd_record t (UnboundedTape.ofWord w) ops
  have hreplays : start.Replays lines live := by
    have h := (shows_ofWord w).replays_record ops
    rwa [extent_ofWord] at h
  refine ⟨hlines, hreplays, fun lines' e hlines' h => ?_⟩
  exact h.unique hreplays (hlines'.trans hlines.symm)

/-- A blank cell is dropped when the head has left it, a cell made when the head has nowhere to
go. -/
example : ((ofWord ['B', '1'] : Tape).log [.move (.int 1), .move (.int 1)]).map Log.Event.message =
    ["Dropped blank cell at 0", "Extended tape to the right at 2"] := by
  decide +kernel

end Tape

end TapeMachine
