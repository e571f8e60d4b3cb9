import CompactSchema.Calendar.Reader
import CompactSchema.Regex.Matching
import CompactSchema.Schema.Basic

/-
Recognising strings of a named format.

Three formats have a fixed shape and are recognised by a regular expression; dates
and times are read.
-/

namespace CompactSchema
namespace Format

def oneOrMore (set : CharSet) : Regex := .repeated (.chars set) 1 none true

def exactly (count : Nat) (set : CharSet) : Regex := .repeated (.chars set) count (some count) true

def one (c : Char) : Regex := .chars (.single c)

def whole (parts : List Regex) : Regex :=
  .sequence (.look .textStart :: (parts ++ [.look .textEnd]))

def addressChars : CharSet := .complement (.union .space (.single '@'))

/-- A local part, a domain with a dot inside, and one separator between them. -/
def emailRegex : Regex :=
  whole [oneOrMore addressChars, one '@', oneOrMore addressChars, one '.', oneOrMore addressChars]

def hexChars : CharSet := .ranges [(0x30, 0x39), (0x61, 0x66)]

def uuidRegex : Regex :=
  whole
    [exactly 8 hexChars, one '-',
     exactly 4 hexChars, one '-',
     .chars (.span 0x31 0x35), exactly 3 hexChars, one '-',
     .chars (.ranges [(0x38, 0x39), (0x61, 0x62)]), exactly 3 hexChars, one '-',
     exactly 12 hexChars]

def phoneRegex : Regex :=
  whole [.repeated (one '+') 0 (some 1) true, .repeated (.chars .asciiDigits) 10 (some 15) true]

def isEmail (text : String) : Bool := emailRegex.isMatch text.toList

def isUuid (text : String) : Bool := uuidRegex.isMatch text.toList

def isPhoneNumber (text : String) : Bool := phoneRegex.isMatch text.toList

end Format

/-- The text has the format.  A date with a time is accepted as a date, and a date
alone as a date with a time; an unknown format accepts every text. -/
def StringFormat.accepts (text : String) : StringFormat → Bool
  | .email => Format.isEmail text
  | .phoneNumber => Format.isPhoneNumber text
  | .date | .dateTime => Calendar.isDateLike text
  | .uuid => Format.isUuid text
  | .other _ => true

end CompactSchema
