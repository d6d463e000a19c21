import Scratchpad.Elapsed
import Scratchpad.Proofs.Text.Ends
import Scratchpad.Proofs.Text.Numeral

/-!
# Elapsed times read back

The text of an elapsed time is a clock with hours, minutes, seconds and ticks (`Clock.Written`). Reading
accepts exactly the texts that are so written (`Clock.read?_eq_some_iff`), so a text stands for one clock
only. Clocks below a hundred hours have texts of one length, and these are in the order of the
times (`Clock.Written.lt_iff`).
-/

namespace Scratchpad

open Text (Numeral SameOrder)

/-- What the text of an elapsed time says. A tick is a ten-millionth of a second. -/
structure Clock where
  hours : Nat
  minutes : Fin 60
  seconds : Fin 60
  ticks : Fin 10000000
  deriving DecidableEq

namespace Clock

def wholeSeconds (clock : Clock) : Nat :=
  clock.hours * 3600 + clock.minutes * 60 + clock.seconds

/-- How a clock is written: the hours with two digits, or with as many as they need, the minutes and the
seconds with two, and the ticks with seven. -/
inductive Written (clock : Clock) : String → Prop
  | marked {hours minutes seconds ticks : String}
      (hhours : Numeral clock.hours hours)
      (hhoursLength : hours.length = max 2 (toString clock.hours).length)
      (hminutes : Numeral clock.minutes minutes) (hminutesLength : minutes.length = 2)
      (hseconds : Numeral clock.seconds seconds) (hsecondsLength : seconds.length = 2)
      (hticks : Numeral clock.ticks ticks) (hticksLength : ticks.length = 7) :
      Written clock (hours ++ ":" ++ minutes ++ ":" ++ seconds ++ "." ++ ticks)

/-! ## Reading -/

/-- The parts of a text before, between and after its marks. -/
def parts? (text : String) : Option (String × String × String × String) := do
  let (hours, rest) ← Text.splitFirst? ':' text
  let (minutes, rest) ← Text.splitFirst? ':' rest
  let (seconds, ticks) ← Text.splitFirst? '.' rest
  return (hours, minutes, seconds, ticks)

/-- The number of hours, if it is written without needless zeros. -/
def readHours? (s : String) : Option Nat :=
  (Text.readDigits? s.toList).filter fun n => s.length = max 2 (toString n).length

/-- The number below `bound` that is written with `width` digits. -/
def readBelow? (bound width : Nat) (s : String) : Option (Fin bound) := do
  let n ← Text.readDigits? s.toList
  if h : n < bound ∧ s.length = width then some ⟨n, h.1⟩ else none

def read? (text : String) : Option Clock := do
  let (hours, minutes, seconds, ticks) ← parts? text
  let hours ← readHours? hours
  let minutes ← readBelow? 60 2 minutes
  let seconds ← readBelow? 60 2 seconds
  let ticks ← readBelow? 10000000 7 ticks
  return ⟨hours, minutes, seconds, ticks⟩

theorem parts?_eq_some_iff {text hours minutes seconds ticks : String} :
    parts? text = some (hours, minutes, seconds, ticks) ↔
      text = hours ++ ":" ++ minutes ++ ":" ++ seconds ++ "." ++ ticks ∧
        ':' ∉ hours.toList ∧ ':' ∉ minutes.toList ∧ '.' ∉ seconds.toList := by
  have hcolon : String.singleton ':' = ":" := rfl
  have hpoint : String.singleton '.' = "." := rfl
  constructor
  · intro hparts
    simp only [parts?, Option.bind_eq_bind, Option.bind_eq_some_iff] at hparts
    obtain ⟨⟨first, rest⟩, hfirst, ⟨second, rest'⟩, hsecond, ⟨third, last⟩, hthird, hparts⟩ := hparts
    obtain ⟨rfl, rfl, rfl, rfl⟩ : first = hours ∧ second = minutes ∧ third = seconds ∧ last = ticks := by
      simpa using hparts
    obtain ⟨rfl, hhours⟩ := Text.splitFirst?_eq_some_iff.mp hfirst
    obtain ⟨rfl, hminutes⟩ := Text.splitFirst?_eq_some_iff.mp hsecond
    obtain ⟨rfl, hseconds⟩ := Text.splitFirst?_eq_some_iff.mp hthird
    refine ⟨?_, hhours, hminutes, hseconds⟩
    simp only [hcolon, hpoint, String.append_assoc]
  · rintro ⟨rfl, hhours, hminutes, hseconds⟩
    have hfirst : Text.splitFirst? ':' (hours ++ ":" ++ minutes ++ ":" ++ seconds ++ "." ++ ticks) =
        some (hours, minutes ++ ":" ++ seconds ++ "." ++ ticks) :=
      Text.splitFirst?_eq_some_iff.mpr ⟨by simp only [hcolon, String.append_assoc], hhours⟩
    have hsecond : Text.splitFirst? ':' (minutes ++ ":" ++ seconds ++ "." ++ ticks) =
        some (minutes, seconds ++ "." ++ ticks) :=
      Text.splitFirst?_eq_some_iff.mpr ⟨by simp only [hcolon, String.append_assoc], hminutes⟩
    have hthird : Text.splitFirst? '.' (seconds ++ "." ++ ticks) = some (seconds, ticks) :=
      Text.splitFirst?_eq_some_iff.mpr ⟨by rw [hpoint], hseconds⟩
    simp only [parts?, hfirst, hsecond, hthird, Option.bind_eq_bind, Option.bind_some]
    rfl

theorem readHours?_eq_some_iff {s : String} {n : Nat} :
    readHours? s = some n ↔ Numeral n s ∧ s.length = max 2 (toString n).length := by
  rw [readHours?, Option.filter_eq_some_iff, Text.readDigits?_toList_eq_some_iff, decide_eq_true_eq]

theorem readBelow?_eq_some_iff {bound width : Nat} {s : String} {n : Fin bound} :
    readBelow? bound width s = some n ↔ Numeral n s ∧ s.length = width := by
  rw [readBelow?, Option.bind_eq_bind, Option.bind_eq_some_iff]
  constructor
  · rintro ⟨value, hvalue, hread⟩
    split at hread
    · rename_i hbelow
      obtain rfl := Option.some.inj hread
      exact ⟨Text.readDigits?_toList_eq_some_iff.mp hvalue, hbelow.2⟩
    · cases hread
  · rintro ⟨hnumeral, hwidth⟩
    exact ⟨n, Text.readDigits?_toList_eq_some_iff.mpr hnumeral, dif_pos ⟨n.isLt, hwidth⟩⟩

/-- **Reading accepts exactly the texts of a clock.** -/
theorem read?_eq_some_iff {text : String} {clock : Clock} :
    read? text = some clock ↔ Written clock text := by
  constructor
  · intro hread
    simp only [read?, Option.bind_eq_bind, Option.bind_eq_some_iff] at hread
    obtain ⟨⟨hours, minutes, seconds, ticks⟩, hparts, h, hhours, m, hminutes, s, hseconds, t, hticks,
      hclock⟩ := hread
    obtain rfl := Option.some.inj hclock
    obtain ⟨rfl, -⟩ := parts?_eq_some_iff.mp hparts
    obtain ⟨hhours, hhoursLength⟩ := readHours?_eq_some_iff.mp hhours
    obtain ⟨hminutes, hminutesLength⟩ := readBelow?_eq_some_iff.mp hminutes
    obtain ⟨hseconds, hsecondsLength⟩ := readBelow?_eq_some_iff.mp hseconds
    obtain ⟨hticks, hticksLength⟩ := readBelow?_eq_some_iff.mp hticks
    exact .marked hhours hhoursLength hminutes hminutesLength hseconds hsecondsLength hticks hticksLength
  · intro hwritten
    cases hwritten with
    | @marked hours minutes seconds ticks hhours hhoursLength hminutes hminutesLength hseconds
        hsecondsLength hticks hticksLength =>
      -- digits are no marks, so the first marks are those between the numerals
      have hparts : parts? (hours ++ ":" ++ minutes ++ ":" ++ seconds ++ "." ++ ticks) =
          some (hours, minutes, seconds, ticks) :=
        parts?_eq_some_iff.mpr ⟨rfl, hhours.not_mem (by decide), hminutes.not_mem (by decide),
          hseconds.not_mem (by decide)⟩
      simp only [read?, hparts, readHours?_eq_some_iff.mpr ⟨hhours, hhoursLength⟩,
        readBelow?_eq_some_iff.mpr ⟨hminutes, hminutesLength⟩,
        readBelow?_eq_some_iff.mpr ⟨hseconds, hsecondsLength⟩,
        readBelow?_eq_some_iff.mpr ⟨hticks, hticksLength⟩, Option.bind_eq_bind, Option.bind_some]
      rfl

example : read? "01:02:05.1234567" = some ⟨1, 2, 5, 1234567⟩ := by decide +kernel

example : read? "01:60:05.1234567" = none := by decide +kernel

theorem Written.unique {clock other : Clock} {text : String} (hclock : Written clock text)
    (hother : Written other text) : clock = other := by
  have hread := read?_eq_some_iff.mpr hclock
  rw [read?_eq_some_iff.mpr hother] at hread
  exact (Option.some.inj hread).symm

/-! ## The order of the texts -/

theorem Written.sameOrder {clock other : Clock} {text text' : String} (hclock : Written clock text)
    (hother : Written other text') (hhundred : clock.hours < 100) (hhundred' : other.hours < 100) :
    SameOrder text text'
      (toLex (toLex (toLex (clock.hours, clock.minutes.val), clock.seconds.val), clock.ticks.val))
      (toLex (toLex (toLex (other.hours, other.minutes.val), other.seconds.val), other.ticks.val)) := by
  have hwidth := Text.length_toString_le (by decide : 0 < 2) hhundred
  have hwidth' := Text.length_toString_le (by decide : 0 < 2) hhundred'
  cases hclock with
  | marked hhours hhoursLength hminutes hminutesLength hseconds hsecondsLength hticks hticksLength =>
  cases hother with
  | marked hhours' hhoursLength' hminutes' hminutesLength' hseconds' hsecondsLength' hticks'
      hticksLength' =>
  have horderHours := hhours.sameOrder hhours' (by omega)
  have horderMinutes := hminutes.sameOrder hminutes' (by omega)
  have horderSeconds := hseconds.sameOrder hseconds' (by omega)
  have horderTicks := hticks.sameOrder hticks' (by omega)
  exact ((horderHours.marked ":" horderMinutes).marked ":" horderSeconds).marked "." horderTicks

theorem Written.lt_iff {clock other : Clock} {text text' : String} (hclock : Written clock text)
    (hother : Written other text') (hhundred : clock.hours < 100) (hhundred' : other.hours < 100) :
    text < text' ↔
      toLex (clock.wholeSeconds, clock.ticks.val) < toLex (other.wholeSeconds, other.ticks.val) := by
  rw [(hclock.sameOrder hother hhundred hhundred').lt_iff]
  simp only [Prod.Lex.toLex_lt_toLex, toLex_inj, Prod.mk.injEq, wholeSeconds]
  -- minutes and seconds are below 60, so the first of the three numbers that differs decides
  omega

end Clock

namespace Elapsed

/-- The clock of an elapsed time, which leaves out what is less than a tick. -/
def clock (elapsed : Elapsed) (hnanos : elapsed.nanos < 1000000000) : Clock where
  hours := elapsed.seconds / 3600
  minutes := ⟨elapsed.seconds / 60 % 60, by omega⟩
  seconds := ⟨elapsed.seconds % 60, by omega⟩
  ticks := ⟨elapsed.nanos / 100, by omega⟩

theorem wholeSeconds_clock (elapsed : Elapsed) (hnanos : elapsed.nanos < 1000000000) :
    (elapsed.clock hnanos).wholeSeconds = elapsed.seconds := by
  simp only [Clock.wholeSeconds, clock]
  omega

theorem written_render (elapsed : Elapsed) (hnanos : elapsed.nanos < 1000000000) :
    Clock.Written (elapsed.clock hnanos) elapsed.render := by
  have hminutes : elapsed.seconds / 60 % 60 < 10 ^ 2 := by omega
  have hseconds : elapsed.seconds % 60 < 10 ^ 2 := by omega
  have hticks : elapsed.nanos / 100 < 10 ^ 7 := by omega
  exact .marked (Text.numeral_padded 2 _) (Text.length_padded 2 _)
    (Text.numeral_padded 2 _) (Text.length_padded_of_lt (by decide) hminutes)
    (Text.numeral_padded 2 _) (Text.length_padded_of_lt (by decide) hseconds)
    (Text.numeral_padded 7 _) (Text.length_padded_of_lt (by decide) hticks)

theorem clock_eq_iff {a b : Elapsed} (ha : a.nanos < 1000000000) (hb : b.nanos < 1000000000) :
    a.clock ha = b.clock hb ↔ a.seconds = b.seconds ∧ a.nanos / 100 = b.nanos / 100 := by
  simp only [clock, Clock.mk.injEq, Fin.mk.injEq]
  omega

theorem render_eq_iff {a b : Elapsed} (ha : a.nanos < 1000000000) (hb : b.nanos < 1000000000) :
    a.render = b.render ↔ a.seconds = b.seconds ∧ a.nanos / 100 = b.nanos / 100 := by
  constructor
  · intro hsame
    have hwritten := written_render b hb
    rw [← hsame] at hwritten
    exact (clock_eq_iff ha hb).mp ((written_render a ha).unique hwritten)
  · rintro ⟨hseconds, hticks⟩
    rw [render, render, hseconds, hticks]

theorem render_lt_iff {a b : Elapsed} (ha : a.nanos < 1000000000) (hb : b.nanos < 1000000000)
    (hhundred : a.seconds < 100 * 3600) (hhundred' : b.seconds < 100 * 3600) :
    a.render < b.render ↔ toLex (a.seconds, a.nanos / 100) < toLex (b.seconds, b.nanos / 100) := by
  have horder := (written_render a ha).lt_iff (written_render b hb)
    (Nat.div_lt_of_lt_mul (by omega)) (Nat.div_lt_of_lt_mul (by omega))
  rw [wholeSeconds_clock, wholeSeconds_clock] at horder
  exact horder

theorem between_nanos_lt (start stop : Nat) : (between start stop).nanos < 1000000000 :=
  Nat.mod_lt _ (by decide)

/-- **The text of an elapsed time is faithful.** It is a clock, with at least two digits of hours, two of
minutes, two of seconds and seven of ticks, and reading it gives back the seconds and the ticks. So two
times have the same text exactly if these are the same, and below a hundred hours the texts are in
the order of the times. -/
theorem render_faithful (a : Elapsed) (ha : a.nanos < 1000000000) :
    (∃ clock : Clock, clock.Written a.render ∧ Clock.read? a.render = some clock ∧
        clock.hours * 3600 + clock.minutes * 60 + clock.seconds = a.seconds ∧
        clock.ticks.val = a.nanos / 100) ∧
      ∀ b : Elapsed, b.nanos < 1000000000 →
        (a.render = b.render ↔ a.seconds = b.seconds ∧ a.nanos / 100 = b.nanos / 100) ∧
          (a.seconds < 100 * 3600 → b.seconds < 100 * 3600 →
            (a.render < b.render ↔
              toLex (a.seconds, a.nanos / 100) < toLex (b.seconds, b.nanos / 100))) := by
  have hwritten := written_render a ha
  refine ⟨⟨a.clock ha, hwritten, Clock.read?_eq_some_iff.mpr hwritten, wholeSeconds_clock a ha, rfl⟩, ?_⟩
  intro b hb
  exact ⟨render_eq_iff ha hb, render_lt_iff ha hb⟩

/-- The longest time that fits into 64 bits of seconds, and two measured times one tick apart that are the
last below a hundred hours. -/
theorem render_faithful_limits :
    let longest : Elapsed := ⟨18446744073709551615, 999999999⟩
    let early := between 5 359999999999805
    let late := between 5 359999999999905
    (∃ clock : Clock, Clock.read? longest.render = some clock ∧
        clock.hours * 3600 + clock.minutes * 60 + clock.seconds = 18446744073709551615 ∧
        clock.ticks.val = 9999999) ∧
      longest.render = (⟨18446744073709551615, 999999900⟩ : Elapsed).render ∧
      longest.render ≠ early.render ∧ early.render < late.render ∧ ¬ late.render < early.render := by
  intro longest early late
  obtain ⟨⟨clock, -, hread, hseconds, hticks⟩, hlongest⟩ := render_faithful longest (by decide)
  have hearly := between_nanos_lt 5 359999999999805
  have hlate := between_nanos_lt 5 359999999999905
  obtain ⟨-, horder⟩ := (render_faithful early hearly).2 late hlate
  obtain ⟨-, horder'⟩ := (render_faithful late hlate).2 early hearly
  refine ⟨⟨clock, hread, hseconds, hticks.trans (by decide)⟩,
    (hlongest _ (by decide)).1.mpr (by decide), ?_, ?_, ?_⟩
  · exact fun hsame => absurd ((hlongest early hearly).1.mp hsame) (by decide)
  · exact (horder (by decide) (by decide)).mpr (by decide)
  · exact fun hless => absurd ((horder' (by decide) (by decide)).mp hless) (by decide)

end Elapsed

end Scratchpad
