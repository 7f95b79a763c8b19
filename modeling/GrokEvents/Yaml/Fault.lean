/-
**What can be wrong with a document.**

Most faults are of the document's form and have no wording of their own. A scalar whose tag
promises a number, a boolean or a date may fail to be one in ways that are worded.
-/

import GrokEvents.Value.Shown

namespace GrokEvents.Yaml

/-- Why a document has no value. -/
inductive Fault where
  /-- The text is no document, or no value is known for one of its tags. -/
  | malformed
  /-- An escape above the greatest code point. -/
  | codeTooLarge
  /-- An escape that is no machine integer. -/
  | codeOverflow
  | notInteger (base : Nat) (text : Text)
  | numeralTooLong (digits : Nat)
  | notReal (text : Text)
  /-- A number without characters. -/
  | emptyNumber
  | notBoolean (text : Text)
  | notTimestamp
  | dateOutOfRange (fault : Time.DateFault) (year : Nat)
  | timeOutOfRange (fault : Time.TimeFault)
  | offsetOutOfRange (microseconds : Int)
deriving DecidableEq, Repr

/-- The start of a quoted text, as far as a message quotes it. -/
def quotedStart (text : Text) : Text :=
  (Text.quoted text).take 200

/-- The text of a fault. -/
def Fault.message : Fault → Text
  | .malformed => "not a well-formed document".toList
  | .codeTooLarge => "chr() arg not in range(0x110000)".toList
  | .codeOverflow => "Python int too large to convert to C int".toList
  | .notInteger base text =>
    "invalid literal for int() with base ".toList ++ Text.ofNat base ++ ':' :: ' ' ::
      quotedStart text
  | .numeralTooLong digits =>
    "Exceeds the limit (4300 digits) for integer string conversion: value has ".toList ++
      Text.ofNat digits ++
      " digits; use sys.set_int_max_str_digits() to increase the limit".toList
  | .notReal text => "could not convert string to float: ".toList ++ Text.quoted text
  | .emptyNumber => "string index out of range".toList
  | .notBoolean text => Text.quoted text
  | .notTimestamp => "'NoneType' object has no attribute 'groupdict'".toList
  | .dateOutOfRange .year year => "year ".toList ++ Text.ofNat year ++ " is out of range".toList
  | .dateOutOfRange .month _ => "month must be in 1..12".toList
  | .dateOutOfRange .day _ => "day is out of range for month".toList
  | .timeOutOfRange .hour => "hour must be in 0..23".toList
  | .timeOutOfRange .minute => "minute must be in 0..59".toList
  | .timeOutOfRange .second => "second must be in 0..59".toList
  | .offsetOutOfRange microseconds =>
    "offset must be a timedelta strictly between -timedelta(hours=24) and ".toList ++
      "timedelta(hours=24), not ".toList ++ Value.shownSpan microseconds ++ ['.']

end GrokEvents.Yaml
