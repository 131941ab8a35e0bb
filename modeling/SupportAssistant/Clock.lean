import SupportAssistant.Runtime

/-!
# Time as a dependency

The deterministic clock: every reading is a fixed tick after the one before.
-/

namespace SupportAssistant.Clock

open SupportAssistant.Runtime

/-- `time + timedelta(microseconds=tick)`. -/
def plus (time : Reading) (tick : Int) : Reading :=
  ⟨{ time.val with wall := time.val.wall + tick }, time.property⟩

/-- Midnight of the first of January 2026. -/
def defaultStart : Reading := ⟨⟨1767225600000000, some 0⟩, rfl⟩

/-- Ten milliseconds. -/
def defaultTick : Int := 10000

structure FrozenClock where
  next : Reading
  tick : Int

namespace FrozenClock

def create (start : Reading) (tick : Int) : FrozenClock :=
  { next := start, tick }

/-- The reading, and the clock after it. -/
def now (clock : FrozenClock) : Reading × FrozenClock :=
  (clock.next, { clock with next := plus clock.next clock.tick })

/-- The clock after so many readings. -/
def after : Nat → FrozenClock → FrozenClock
  | 0, clock => clock
  | count + 1, clock => after count clock.now.2

/-- What the clock is read as after so many readings. -/
def reading (clock : FrozenClock) (count : Nat) : Reading :=
  (after count clock).now.1

theorem reading_eq (clock : FrozenClock) (count : Nat) :
    (clock.reading count).val =
      { clock.next.val with
        wall := clock.next.val.wall + count * clock.tick } := by
  induction count generalizing clock with
  | zero => simp [reading, after, now]
  | succ count induction =>
      change (clock.now.2.reading count).val = _
      rw [induction]
      simp only [now, plus, DateTime.mk.injEq, and_true]
      push_cast
      ring

theorem instant_reading (clock : FrozenClock) (count : Nat) :
    (clock.reading count).val.instant =
      clock.next.val.instant + count * clock.tick := by
  rw [DateTime.instant, DateTime.instant, reading_eq]
  ring

end FrozenClock

end SupportAssistant.Clock
