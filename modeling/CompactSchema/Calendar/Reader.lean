import CompactSchema.Calendar.Date
import CompactSchema.Calendar.Scan

/-
Reading dates and times.

A text is taken for a date or a time if one of several forms fits it: the internet
timestamp, the date of a mail header, three orders of year, month and day, and four
combinations of a date with a time of day.  White space around the text does not
count.
-/

namespace CompactSchema
namespace Calendar

open Scanner

structure Fields where
  year : Int := 0
  month : Nat := 1
  day : Nat := 1
  hour : Nat := 0
  minute : Nat := 0
  second : Nat := 0
  deriving DecidableEq

def Fields.date (fields : Fields) : Date := ⟨fields.year, fields.month, fields.day⟩

/-- Every field is in its range and the date exists.  A leap second is in range. -/
def Fields.valid (fields : Fields) : Bool :=
  decide (fields.hour ≤ 23 ∧ fields.minute ≤ 59 ∧ fields.second ≤ 60) && fields.date.exists?

/-- The moment that the fields mean in a zone at an offset of so many minutes falls on
a day that exists. -/
def Fields.inCalendar (fields : Fields) (offset : Int) : Bool :=
  let minutes := (fields.date.toDayNumber * 24 + fields.hour) * 60 + fields.minute - offset
  (Date.ofDayNumber (minutes / (24 * 60))).exists?

inductive Item where
  | year
  | month
  | day
  | hour
  | minute
  | second
  | fraction
  | blanks
  | literal (c : Char)

/-- Reads a year: up to four digits, or a sign and any number of digits. -/
def year : Scanner Int := do
  blanks
  if ← charIf '-' then
    let (value, _) ← numberFrom 1
    return -(value : Int)
  else if ← charIf '+' then
    let (value, _) ← numberFrom 1
    return value
  else
    let value ← numberBetween 1 4
    return value

def twoDigits : Scanner Nat := do
  blanks
  numberBetween 1 2

def fraction : Scanner Unit := do
  if ← charIf '.' then
    let _ ← numberBetween 1 9
    fun text => some ((), text.dropWhile Char.isDigit)

def Item.scan (fields : Fields) : Item → Scanner Fields
  | .year => do return { fields with year := ← Calendar.year }
  | .month => do return { fields with month := ← twoDigits }
  | .day => do return { fields with day := ← twoDigits }
  | .hour => do return { fields with hour := ← twoDigits }
  | .minute => do return { fields with minute := ← twoDigits }
  | .second => do return { fields with second := ← twoDigits }
  | .fraction => do Calendar.fraction; return fields
  | .blanks => do Scanner.blanks; return fields
  | .literal c => do char c; return fields

def scanItems : List Item → Fields → Scanner Fields
  | [], fields => pure fields
  | item :: rest, fields => do scanItems rest (← item.scan fields)

def fits (form : List Item) (text : List Char) : Bool :=
  match scanItems form {} text with
  | some (fields, []) => fields.valid
  | _ => false

def dateForms : List (List Item) :=
  [[.year, .literal '-', .month, .literal '-', .day],
   [.year, .literal '/', .month, .literal '/', .day],
   [.month, .literal '/', .day, .literal '/', .year]]

def dateTimeForms : List (List Item) :=
  [[.year, .literal '-', .month, .literal '-', .day, .literal 'T',
    .hour, .literal ':', .minute, .literal ':', .second, .fraction],
   [.year, .literal '-', .month, .literal '-', .day, .blanks,
    .hour, .literal ':', .minute, .literal ':', .second, .fraction],
   [.year, .literal '-', .month, .literal '-', .day, .literal 'T',
    .hour, .literal ':', .minute],
   [.year, .literal '-', .month, .literal '-', .day, .blanks,
    .hour, .literal ':', .minute]]

def exactlyTwoDigits : Scanner Nat := numberBetween 2 2

def numericZone (colon minusSign : Bool) : Scanner Int := do
  let sign ← oneOf (if minusSign then ['+', '-', '−'] else ['+', '-'])
  let hours ← exactlyTwoDigits
  if colon then char ':'
  let minutes ← exactlyTwoDigits
  require (minutes ≤ 59)
  let offset : Int := hours * 60 + minutes
  return if sign = '+' then offset else -offset

def timestampZone : Scanner Int := do
  match ← attempt (oneOf ['Z', 'z']) with
  | some _ => return 0
  | none => numericZone true true

def zoneNames : List (String × Int) :=
  [("gmt", 0), ("ut", 0), ("z", 0), ("edt", -4), ("est", -5), ("cdt", -5), ("cst", -6), ("mdt", -6),
   ("mst", -7), ("pdt", -7), ("pst", -8)]

/-- Single letters that stand for a zone; nothing is known about it. -/
def isMilitaryZone (c : Char) : Bool := c.isAlpha && c.toLower != 'j' && c.toLower != 'z'

def mailZone : Scanner Int := fun text =>
  let name := text.takeWhile Char.isAlpha
  let rest := text.dropWhile Char.isAlpha
  if name.isEmpty then numericZone false false text
  else
    match zoneNames.lookup (String.ofList (name.map Char.toLower)), name with
    | some hours, _ => some (hours * 60, rest)
    | none, [c] => if isMilitaryZone c then some (0, rest) else none
    | none, _ => none

def zoneInRange (offset : Int) : Bool := decide (offset.natAbs < 24 * 60)

def timestamp : Scanner Unit := do
  let year ← numberBetween 4 4
  char '-'
  let month ← exactlyTwoDigits
  char '-'
  let day ← exactlyTwoDigits
  let _ ← oneOf ['T', 't', ' ']
  let hour ← exactlyTwoDigits
  char ':'
  let minute ← exactlyTwoDigits
  char ':'
  let second ← exactlyTwoDigits
  fraction
  let offset ← timestampZone
  require (zoneInRange offset)
  let fields : Fields := { year := year, month, day, hour, minute, second }
  require fields.valid

def weekdays : List String := ["mon", "tue", "wed", "thu", "fri", "sat", "sun"]

def months : List String :=
  ["jan", "feb", "mar", "apr", "may", "jun", "jul", "aug", "sep", "oct", "nov", "dec"]

def optionalWeekday : Scanner (Option Nat) := do
  match ← attempt (wordOf weekdays) with
  | some weekday =>
      char ','
      return some weekday
  | none => return none

/-- Reads a year.  Two digits mean the years from 1950 to 2049, and three digits are
counted from 1900. -/
def mailYear : Scanner Nat := do
  let (value, digits) ← numberFrom 2
  return match digits with
    | 2 => if value ≤ 49 then value + 2000 else value + 1900
    | 3 => value + 1900
    | _ => value

def optionalSecond : Scanner (Option Nat) := do
  match ← attempt (do blanks; char ':') with
  | some _ =>
      let second ← exactlyTwoDigits
      return some second
  | none => return none

/-- Drops the inside of a comment with its end, at a depth of nested comments; a
backslash hides the character behind it. -/
def dropComment : Nat → Bool → List Char → Option (List Char)
  | _, _, [] => none
  | depth, true, _ :: rest => dropComment depth false rest
  | depth, false, c :: rest =>
      if c = '\\' then dropComment depth true rest
      else if c = '(' then dropComment (depth + 1) false rest
      else if c = ')' then
        match depth with
        | 0 => some rest
        | depth + 1 => dropComment depth false rest
      else dropComment depth false rest

/-- Drops comments and the white space before them, at most `rounds` of them. -/
def dropComments : Nat → List Char → List Char
  | 0, text => text
  | rounds + 1, text =>
      match Unicode.WhiteSpace.trimStart text with
      | '(' :: rest =>
          match dropComment 0 false rest with
          | some behind => dropComments rounds behind
          | none => text
      | _ => text

def mailDate : Scanner Unit := do
  blanks
  let weekday ← optionalWeekday
  blanks
  let day ← numberBetween 1 2
  someBlanks
  let month ← wordOf months
  someBlanks
  let year ← mailYear
  someBlanks
  let hour ← exactlyTwoDigits
  blanks
  char ':'
  blanks
  let minute ← exactlyTwoDigits
  let second ← optionalSecond
  someBlanks
  let offset ← mailZone
  fun text => some ((), dropComments text.length text)
  require (zoneInRange offset)
  let fields : Fields :=
    { year := year, month := month + 1, day, hour, minute, second := second.getD 0 }
  require fields.valid
  require (weekday.all (· == fields.date.weekday))
  require (fields.inCalendar offset)

/-- The text is a date or a time in one of the known forms, white space around it not
counted. -/
def isDateLike (text : String) : Bool :=
  let chars := Unicode.WhiteSpace.trim text.toList
  !chars.isEmpty &&
    (timestamp.accepts chars || mailDate.accepts chars || dateForms.any (fits · chars) ||
      dateTimeForms.any (fits · chars))

end Calendar
end CompactSchema
