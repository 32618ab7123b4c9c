import Mathlib.Logic.Function.Basic
import TapeMachine.Tape.Basic

/-!
# Unbounded tapes

An unbounded tape has a symbol at every position and a head at one of them; nothing
grows or is dropped.  It is what a tape is meant to be, and a tape and an unbounded
one can be put through the same operations (`Tape.after`, `UnboundedTape.after`).

An operation takes unchecked values.  A write of what is no symbol and a move by what
is no offset are refused, which leaves both kinds of tapes as they were, and to trim a
tape is nothing to an unbounded one.
-/

namespace TapeMachine

/-- What is done to a tape from outside. -/
inductive Tape.Operation
  | read
  | write (v : Value)
  | move (v : Value)
  | trim

section

variable {σ : Type}

/-- The tape after an operation; a refused one leaves it as it was. -/
def Tape.perform [Symbol σ] (t : Tape σ) : Tape.Operation → Tape σ
  | .read => t
  | .write v => (t.writeValue v).toOption.getD t
  | .move v => ((t.moveValue v).map Prod.fst).toOption.getD t
  | .trim => t.trim.1

/-- The tape after operations one after another. -/
def Tape.after [Symbol σ] (t : Tape σ) (ops : List Tape.Operation) : Tape σ :=
  ops.foldl Tape.perform t

/-- A tape without ends: a symbol at every position, and the position of the head. -/
@[ext] structure UnboundedTape (σ : Type := Char) where
  symbol : Int → σ
  head : Int

namespace UnboundedTape

/-- The unbounded tape that holds a word from position 0 on, with the head on position 0. -/
def ofWord [Symbol σ] (word : List σ) : UnboundedTape σ where
  symbol p := if 0 ≤ p then word[p.toNat]?.getD (Symbol.ofChar blank) else Symbol.ofChar blank
  head := 0

/-- The symbol under the head. -/
def read (u : UnboundedTape σ) : σ := u.symbol u.head

/-- Write a symbol under the head. -/
def write (u : UnboundedTape σ) (c : σ) : UnboundedTape σ :=
  { u with symbol := Function.update u.symbol u.head c }

/-- Move the head. -/
def move (u : UnboundedTape σ) (d : Direction) : UnboundedTape σ :=
  { u with head := u.head + d.offset }

/-- The unbounded tape after an operation; a refused one leaves it as it was. -/
def perform [Symbol σ] (u : UnboundedTape σ) : Tape.Operation → UnboundedTape σ
  | .read | .trim => u
  | .write v => ((Symbol.written? v).map u.write).getD u
  | .move v => ((Direction.ofValue? v).map u.move).getD u

/-- The unbounded tape after operations one after another. -/
def after [Symbol σ] (u : UnboundedTape σ) (ops : List Tape.Operation) : UnboundedTape σ :=
  ops.foldl perform u

/-- The unbounded tape seen from the other side. -/
def mirror (u : UnboundedTape σ) : UnboundedTape σ := ⟨fun p => u.symbol (-p), -u.head⟩

@[simp] theorem mirror_mirror (u : UnboundedTape σ) : u.mirror.mirror = u := by simp [mirror]

theorem mirror_move_right (u : UnboundedTape σ) :
    (u.move .right).mirror = u.mirror.move .left := by
  rw [mirror, move, mirror, move, UnboundedTape.mk.injEq]
  refine ⟨rfl, ?_⟩
  show -(u.head + 1) = -u.head + -1
  omega

@[simp] theorem move_stay (u : UnboundedTape σ) : u.move .stay = u := by
  simp [move, Direction.offset]

end UnboundedTape

namespace Tape

/-! ### Operations -/

variable [Symbol σ] (t : Tape σ) {v : Value}

theorem perform_write_of_some {c : σ} (h : Symbol.written? v = some c) :
    t.perform (.write v) = t.write c := by
  simp [perform, writeValue, h, Except.toOption]

theorem perform_write_of_none (h : (Symbol.written? v : Option σ) = none) :
    t.perform (.write v) = t := by
  simp [perform, writeValue, h, Except.toOption]

theorem perform_move_of_some {d : Direction} (h : Direction.ofValue? v = some d) :
    t.perform (.move v) = (t.move d).1.markOffset v d := by
  simp [perform, moveValue, h, Except.toOption, Except.map]

theorem perform_move_of_none (h : Direction.ofValue? v = none) : t.perform (.move v) = t := by
  simp [perform, moveValue, h, Except.toOption, Except.map]

/-- What holds of the tape of a word and is kept by every operation holds after all operations. -/
theorem after_keeps {P : Tape σ → UnboundedTape σ → Prop}
    (hstep : ∀ t u o, P t u → P (t.perform o) (u.perform o)) {t : Tape σ} {u : UnboundedTape σ}
    (h : P t u) (ops : List Operation) : P (t.after ops) (u.after ops) := by
  induction ops generalizing t u with
  | nil => exact h
  | cons o ops ih => exact ih (hstep t u o h)

end Tape

end

end TapeMachine
