import GrokDesktop.Domain.Basic
import GrokDesktop.Lib.Except
import GrokDesktop.Lib.Gregorian

/-!
# Automation schedules

The closed recurrence cadences of the daemon, their canonical text and the calendar calculator that
turns a UTC window into due and skipped local slots. Calendar dates are day numbers and naive local
times are milliseconds since the local start of 1970; the class `TimezoneLibrary` is the timezone
database.
-/

namespace GrokDesktop

open Except
open Gregorian (Date)

/-! ## Limits -/

/-- Version of the schedule-to-occurrence rules. -/
def automationScheduleCalculatorVersion : ℕ := 1
/-- Maximum UTF-8 byte length accepted by any schedule parser. -/
def maxAutomationScheduleBytes : ℕ := 256
/-- Maximum UTC window accepted by one calendar evaluation. -/
def maxAutomationScheduleWindowDays : ℕ := 370
/-- Maximum decisions returned by one calendar evaluation. -/
def maxAutomationScheduleDecisions : ℕ := 370
/-- The milliseconds of a day. -/
def millisPerDay : ℕ := 86400000

/-! ## Third-party libraries -/

/-- The instants that a local time belongs to, as the calendar library reports them. -/
inductive LocalResult where
  /-- The local time is jumped over. -/
  | missing
  /-- The local time belongs to one instant. -/
  | single (instant : ℤ)
  /-- The local time belongs to several instants. -/
  | ambiguous (first second : ℤ)

/-- A timezone of the database: its canonical name and its map between UTC and local time. -/
structure Timezone where
  name : String
  /-- The local time at an instant. -/
  localTime : ℤ → ℤ
  /-- The instants with a local time. -/
  fromLocal : ℤ → LocalResult

/-- The timezone database. -/
class TimezoneLibrary where
  /-- The timezone with an IANA name. -/
  parse : String → Option Timezone

/-- The last date of the calendar library, 31 December 262142. -/
def maxDate : ℤ := (Date.mk 262142 12 31).dayNumber

/-! ## Schedules -/

/-- Invalid schedule text, timezone, timestamp, or evaluation bound. -/
inductive AutomationScheduleError where
  | tooLong
  | invalidCanonical
  | invalidNormalization
  | invalidTimezone
  | invalidLocalDateTime
  | timestampOutOfRange
  | invalidWindow
  | invalidLimit
  deriving DecidableEq

/-- Closed recurrence cadence; weekdays count from Sunday. -/
inductive AutomationCadence where
  | daily
  | weekdays
  | weekly (weekday : ℕ)
  | monthly (dayOfMonth : ℕ)
  deriving DecidableEq

/-- The weekday or day of the month exists. -/
def AutomationCadence.wellFormed : AutomationCadence → Bool
  | daily | weekdays => true
  | weekly weekday => weekday ≤ 6
  | monthly dayOfMonth => 1 ≤ dayOfMonth && dayOfMonth ≤ 31

/-- Canonical local recurring schedule. Only validated values exist. -/
structure AutomationSchedule where
  cadence : AutomationCadence
  hour : ℕ
  minute : ℕ
  /-- The time of day and the day of the cadence exist. -/
  valid : hour ≤ 23 ∧ minute ≤ 59 ∧ cadence.wellFormed = true
  deriving DecidableEq

namespace AutomationSchedule

/-- Creates a validated schedule from typed fields. -/
def new (cadence : AutomationCadence) (hour minute : ℕ) :
    Except AutomationScheduleError AutomationSchedule :=
  if h : hour ≤ 23 ∧ minute ≤ 59 ∧ cadence.wellFormed = true then .ok ⟨cadence, hour, minute, h⟩
  else .error .invalidCanonical

def twoDigits (n : ℕ) : String := if n < 10 then "0" ++ toString n else toString n

def toCanonicalString (schedule : AutomationSchedule) : String :=
  let time := twoDigits schedule.hour ++ ":" ++ twoDigits schedule.minute
  match schedule.cadence with
  | .daily => "v1;daily;" ++ time
  | .weekdays => "v1;weekdays;" ++ time
  | .weekly weekday => "v1;weekly;" ++ toString weekday ++ ";" ++ time
  | .monthly dayOfMonth => "v1;monthly;" ++ toString dayOfMonth ++ ";" ++ time

end AutomationSchedule

/-! ## Parsing -/

/-- `str::parse::<u8>`: decimal digits after an optional plus sign. -/
def parseU8 (value : String) : Option ℕ :=
  let digits := match value.toList with
    | '+' :: rest => rest
    | chars => chars
  if digits.isEmpty || !digits.all Char.isDigit then none
  else
    let n := digits.foldl (fun n c => 10 * n + (c.toNat - '0'.toNat)) 0
    if n ≤ 255 then some n else none

/-- Bounds the bytes of a schedule text. -/
def validateScheduleLength (value : String) : Except AutomationScheduleError Unit := do
  rejectIf value.isEmpty .invalidCanonical
  rejectIf (maxAutomationScheduleBytes < value.utf8ByteSize) .tooLong

/-- Parses a time of day of five ASCII characters. -/
def parseTime (value : String) : Except AutomationScheduleError (ℕ × ℕ) :=
  match value.toList with
  | [h₁, h₂, ':', m₁, m₂] => do
      rejectIf (!([h₁, h₂, m₁, m₂].all Char.isDigit)) .invalidCanonical
      let hour ← okOr (parseU8 (String.ofList [h₁, h₂])) .invalidCanonical
      let minute ← okOr (parseU8 (String.ofList [m₁, m₂])) .invalidCanonical
      return (hour, minute)
  | _ => .error .invalidCanonical

/-- Parses a number that is written as it is printed. -/
def parseCanonicalU8 (value : String) : Except AutomationScheduleError ℕ := do
  let parsed ← okOr (parseU8 value) .invalidCanonical
  rejectIf (toString parsed ≠ value) .invalidCanonical
  return parsed

/-- The fields of a text between separators. -/
def splitFields (separator : Char → Bool) (value : String) : List String :=
  (value.toList.splitOnP separator).map String.ofList

namespace AutomationSchedule

/-- The schedule that the fields of a canonical text name. -/
def ofFields : List String → Except AutomationScheduleError AutomationSchedule
  | ["v1", "daily", time] => do
      let (hour, minute) ← parseTime time
      new .daily hour minute
  | ["v1", "weekdays", time] => do
      let (hour, minute) ← parseTime time
      new .weekdays hour minute
  | ["v1", "weekly", weekday, time] => do
      let (hour, minute) ← parseTime time
      let weekday ← parseCanonicalU8 weekday
      new (.weekly weekday) hour minute
  | ["v1", "monthly", dayOfMonth, time] => do
      let (hour, minute) ← parseTime time
      let dayOfMonth ← parseCanonicalU8 dayOfMonth
      new (.monthly dayOfMonth) hour minute
  | _ => .error .invalidCanonical

/-- Parses only the exact canonical representation. -/
def parseCanonical (value : String) : Except AutomationScheduleError AutomationSchedule := do
  validateScheduleLength value
  let schedule ← ofFields (splitFields (· = ';') value)
  rejectIf (schedule.toCanonicalString ≠ value) .invalidCanonical
  return schedule

end AutomationSchedule

def parseTimezone [TimezoneLibrary] (value : String) : Except AutomationScheduleError Timezone :=
  okOr (TimezoneLibrary.parse value) .invalidTimezone

/-! ## Local slots and decisions -/

/-- Nominal local calendar slot, also of times that a gap jumps over. -/
@[ext]
structure AutomationLocalDateTime where
  year : ℤ
  month : ℕ
  day : ℕ
  hour : ℕ
  minute : ℕ
  deriving DecidableEq

namespace AutomationLocalDateTime

/-- The slot at a time of a day. -/
def fromDate (date : ℤ) (hour minute : ℕ) : AutomationLocalDateTime where
  year := (Gregorian.ofDayNumber date).year
  month := (Gregorian.ofDayNumber date).month
  day := (Gregorian.ofDayNumber date).day
  hour := hour
  minute := minute

def date (slot : AutomationLocalDateTime) : Date := ⟨slot.year, slot.month, slot.day⟩

/-- The naive local time of a slot, when its date and time exist. -/
def toNaive (slot : AutomationLocalDateTime) : Except AutomationScheduleError ℤ := do
  rejectIf (¬ slot.date.Valid ∨ slot.year < -262143 ∨ 262142 < slot.year ∨ 23 < slot.hour
    ∨ 59 < slot.minute) .invalidLocalDateTime
  return slot.date.dayNumber * millisPerDay + (slot.hour * 60 + slot.minute) * 60000

/-- Slots are ordered by year, month, day, hour and minute. -/
def Before (a b : AutomationLocalDateTime) : Prop :=
  a.date.Before b.date ∨ a.date = b.date ∧
    (a.hour < b.hour ∨ a.hour = b.hour ∧ a.minute < b.minute)

instance : DecidableRel Before := fun _ _ => by
  unfold Before Gregorian.Date.Before
  infer_instance

end AutomationLocalDateTime

/-- One calendar decision. -/
inductive AutomationScheduleDecision where
  /-- A local slot with its UTC instant, the earlier one in a fold. -/
  | due (nominalLocal : AutomationLocalDateTime) (scheduledFor : UnixMillis)
  /-- A local slot that a gap jumps over. -/
  | skippedNonexistentLocalTime (nominalLocal : AutomationLocalDateTime)
  deriving DecidableEq

namespace AutomationScheduleDecision

/-- The nominal slot of a decision. -/
def nominalLocal : AutomationScheduleDecision → AutomationLocalDateTime
  | due nominal _ | skippedNonexistentLocalTime nominal => nominal

/-- The UTC instant of a decision, absent for a gap. -/
def scheduledFor : AutomationScheduleDecision → Option UnixMillis
  | due _ scheduledFor => some scheduledFor
  | skippedNonexistentLocalTime _ => none

end AutomationScheduleDecision

/-- Bounded calendar evaluation result. -/
structure AutomationScheduleEvaluation where
  decisions : List AutomationScheduleDecision
  /-- More decisions were in the window. -/
  truncated : Bool
  deriving DecidableEq

/-! ## The calculator -/

/-- The UTC instant of a Unix timestamp, within the range of the calendar library. -/
def utcFromMillis (value : UnixMillis) : Except AutomationScheduleError ℤ := do
  rejectIf ((maxDate + 1) * millisPerDay ≤ value) .timestampOutOfRange
  return value

/-- The Unix timestamp of an instant. -/
def positiveTimestamp (value : ℤ) : Except AutomationScheduleError UnixMillis :=
  if value < 0 then .error .timestampOutOfRange else .ok value.toNat

/-- The local date of a naive local time. -/
def localDate (naive : ℤ) : ℤ := naive / millisPerDay

/-- Adds a resolved slot that lies in the window. -/
def pushResolvedDecision (decisions : List AutomationScheduleDecision)
    (nominalLocal : AutomationLocalDateTime) (value : ℤ)
    (afterExclusive throughInclusive : UnixMillis) :
    Except AutomationScheduleError (List AutomationScheduleDecision) := do
  let scheduledFor ← positiveTimestamp value
  if afterExclusive < scheduledFor ∧ scheduledFor ≤ throughInclusive then
    return decisions ++ [.due nominalLocal scheduledFor]
  else return decisions

namespace AutomationSchedule

/-- The cadence has a slot on the date; 1 January 1970 was a Thursday. -/
def matchesDate (schedule : AutomationSchedule) (date : ℤ) : Bool :=
  let weekday := (date + 4) % 7
  match schedule.cadence with
  | .daily => true
  | .weekdays => weekday ≠ 6 && weekday ≠ 0
  | .weekly selected => weekday = selected
  | .monthly dayOfMonth => (Gregorian.ofDayNumber date).day = dayOfMonth

end AutomationSchedule

/-- The day after a date of the calendar library. -/
def succDate (date : ℤ) : Except AutomationScheduleError ℤ := do
  rejectIf (maxDate ≤ date) .timestampOutOfRange
  return date + 1

/-- The two ends of an evaluated window, in UTC and in local time. -/
structure EvaluationWindow where
  afterExclusive : UnixMillis
  throughInclusive : UnixMillis
  afterLocal : ℤ
  throughLocal : ℤ

namespace EvaluationWindow

/-- The dates of the window: from the local date of its start to the local date of its end. -/
def dates (window : EvaluationWindow) : ℕ :=
  (localDate window.throughLocal + 1 - localDate window.afterLocal).toNat

/-- The window between two timestamps. -/
def new (timezone : Timezone) (afterExclusive throughInclusive : UnixMillis) :
    EvaluationWindow where
  afterExclusive := afterExclusive
  throughInclusive := throughInclusive
  afterLocal := timezone.localTime afterExclusive
  throughLocal := timezone.localTime throughInclusive

end EvaluationWindow

/-- Adds the decision of one nominal slot. -/
def pushDecision (timezone : Timezone) (window : EvaluationWindow)
    (nominal : AutomationLocalDateTime) (decisions : List AutomationScheduleDecision) :
    Except AutomationScheduleError (List AutomationScheduleDecision) := do
  let naive ← nominal.toNaive
  match timezone.fromLocal naive with
  | .single value =>
      pushResolvedDecision decisions nominal value window.afterExclusive window.throughInclusive
  | .ambiguous first second =>
      pushResolvedDecision decisions nominal (if first ≤ second then first else second)
        window.afterExclusive window.throughInclusive
  | .missing =>
      if window.afterLocal < naive ∧ naive ≤ window.throughLocal then
        return decisions ++ [.skippedNonexistentLocalTime nominal]
      else return decisions

namespace AutomationSchedule

variable (schedule : AutomationSchedule)

def slot (date : ℤ) : AutomationLocalDateTime :=
  .fromDate date schedule.hour schedule.minute

/-- Walks over the dates of a window and collects their decisions up to a limit. -/
def decisionLoop (timezone : Timezone) (window : EvaluationWindow) (limit : ℕ) :
    ℕ → ℤ → List AutomationScheduleDecision →
      Except AutomationScheduleError AutomationScheduleEvaluation
  | 0, _, decisions => return { decisions := decisions, truncated := false }
  | remaining + 1, date, decisions =>
      if schedule.matchesDate date then do
        let decisions ← pushDecision timezone window (schedule.slot date) decisions
        if limit < decisions.length then
          return { decisions := decisions.take limit, truncated := true }
        else do
          let next ← succDate date
          decisionLoop timezone window limit remaining next decisions
      else do
        let next ← succDate date
        decisionLoop timezone window limit remaining next decisions

section Zones

variable [TimezoneLibrary]

/-- Calculates ordered decisions inside one bounded UTC window. -/
def decisionsBetween (timezone : String) (afterExclusive throughInclusive : UnixMillis)
    (limit : ℕ) : Except AutomationScheduleError AutomationScheduleEvaluation := do
  rejectIf (limit < 1 ∨ maxAutomationScheduleDecisions < limit) .invalidLimit
  rejectIf (throughInclusive < afterExclusive) .invalidWindow
  rejectIf (maxAutomationScheduleWindowDays * millisPerDay < throughInclusive - afterExclusive)
    .invalidWindow
  let timezone ← parseTimezone timezone
  let _ ← utcFromMillis afterExclusive
  let _ ← utcFromMillis throughInclusive
  let window := EvaluationWindow.new timezone afterExclusive throughInclusive
  schedule.decisionLoop timezone window limit window.dates (localDate window.afterLocal) []

/-- The first calendar decision strictly after a timestamp. -/
def nextDecisionAfter (timezone : String) (after : UnixMillis) :
    Except AutomationScheduleError AutomationScheduleDecision := do
  let through ← okOr (checkedAdd after (maxAutomationScheduleWindowDays * millisPerDay))
    .timestampOutOfRange
  let evaluation ← schedule.decisionsBetween timezone after through 1
  okOr evaluation.decisions.head? .timestampOutOfRange

/-- Resolves one exact nominal slot of the schedule. -/
def decisionForNominal (timezone : String) (nominalLocal : AutomationLocalDateTime) :
    Except AutomationScheduleError AutomationScheduleDecision := do
  let naive ← nominalLocal.toNaive
  rejectIf (nominalLocal.hour ≠ schedule.hour ∨ nominalLocal.minute ≠ schedule.minute
    ∨ !schedule.matchesDate (localDate naive)) .invalidLocalDateTime
  let timezone ← parseTimezone timezone
  match timezone.fromLocal naive with
  | .single value => return .due nominalLocal (← positiveTimestamp value)
  | .ambiguous first second =>
      return .due nominalLocal (← positiveTimestamp (if first ≤ second then first else second))
  | .missing => return .skippedNonexistentLocalTime nominalLocal

/-- Binds the schedule to its timezone and calculator rules. -/
def fingerprint [Sha256Library] (timezone : String) : Except AutomationScheduleError Digest := do
  let timezone ← parseTimezone timezone
  return Sha256Library.digest <|
    utf8Bytes "grok-desktop/automation-schedule\x00" ++
      bigEndian 4 automationScheduleCalculatorVersion ++ [0] ++
      utf8Bytes schedule.toCanonicalString ++ [0] ++ utf8Bytes timezone.name

end Zones

end AutomationSchedule

end GrokDesktop
