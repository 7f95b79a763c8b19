/-
**Records of an access log.**

What a web server writes down about a request, as a line of the combined format. Every part carries what
makes it well-formed, so that each record has a line.

* `Record.line`: the line of a record.
* `Record.fields`: the fields that are to be read back from it.
* `Record.event`: the event that they are to become.
-/

import GrokEvents.Event.OfFields

namespace GrokEvents.AccessLog

open Text Time

/-! ### Parts -/

/-- At least one character, all of a kind. -/
structure Stretch (test : Char → Bool) where
  text : Text
  text_ne_nil : text ≠ []
  passes : ∀ char ∈ text, test char = true

/-- So many digits. -/
structure Digits (count : Nat) where
  text : Text
  length_eq : text.length = count
  digits : ∀ char ∈ text, char.isDigit = true

/-- A plus or a minus. -/
inductive Sign where
  | plus
  | minus
deriving DecidableEq, Repr

def Sign.char : Sign → Char
  | .plus => '+'
  | .minus => '-'

/-! ### Hosts and users -/

def isLabelChar (char : Char) : Bool :=
  char.isAlphanum || char == '-'

def isUserChar (char : Char) : Bool :=
  char.isAlphanum || char == '.' || char == '_' || char == '-'

/-- A part of a host name. It begins with a letter or a digit. -/
structure Label where
  first : Char
  others : Text
  first_isAlphanum : first.isAlphanum = true
  others_isLabelChar : ∀ char ∈ others, isLabelChar char = true

def Label.text (label : Label) : Text :=
  label.first :: label.others

/-- A label after a dot. -/
def Label.dotted (label : Label) : Text :=
  '.' :: label.text

/-- A host name or an address: labels with dots between them. -/
structure Host where
  first : Label
  others : List Label

def Host.text (host : Host) : Text :=
  host.first.text ++ (host.others.map Label.dotted).flatten

/-! ### Dates -/

/-- A date as a web server writes it, with any digits. -/
structure Date where
  day : Digits 2
  month : Fin AccessDate.monthNames.length
  year : Digits 4
  hour : Digits 2
  minute : Digits 2
  second : Digits 2
  sign : Sign
  offset : Digits 4

namespace Date

def monthName (date : Date) : Text :=
  AccessDate.monthNames[date.month]

def clock (date : Date) : List Text :=
  [date.hour.text, date.minute.text, date.second.text]

def zone (date : Date) : Text :=
  date.sign.char :: date.offset.text

def text (date : Date) : Text :=
  join ['/'] [date.day.text, date.monthName, join [':'] (date.year.text :: date.clock)] ++
    ' ' :: date.zone

/-- The date in ISO order. -/
def iso (date : Date) : Text :=
  join ['-'] [date.year.text, padded 2 (date.month + 1), date.day.text] ++
    'T' :: join [':'] date.clock ++ date.zone

end Date

/-- A date with a capital letter and two small ones for its month. -/
structure LooseDate where
  day : Digits 2
  capital : Char
  small : Text
  isUpper_capital : capital.isUpper = true
  length_small : small.length = 2
  isLower_small : ∀ char ∈ small, char.isLower = true
  year : Digits 4
  hour : Digits 2
  minute : Digits 2
  second : Digits 2
  sign : Sign
  offset : Digits 4

def LooseDate.text (date : LooseDate) : Text :=
  join ['/'] [date.day.text, date.capital :: date.small,
      join [':'] [date.year.text, date.hour.text, date.minute.text, date.second.text]] ++
    ' ' :: date.sign.char :: date.offset.text

/-! ### Numbers -/

/-- A number without its sign. -/
inductive Magnitude where
  | whole (digits : Stretch Char.isDigit)
  | decimal (digits behind : Stretch Char.isDigit)
  | fraction (digits : Stretch Char.isDigit)

def Magnitude.text : Magnitude → Text
  | .whole digits => digits.text
  | .decimal digits behind => digits.text ++ '.' :: behind.text
  | .fraction digits => '.' :: digits.text

namespace Magnitude

/-- Without its sign, a number is made of digits and a point. -/
theorem mem_text {size : Magnitude} {char : Char} (member : char ∈ size.text) :
    char.isDigit = true ∨ char = '.' := by
  cases size with
  | whole digits => exact .inl (digits.passes char member)
  | decimal digits behind =>
    rcases List.mem_append.mp member with inDigits | inPoint
    · exact .inl (digits.passes char inDigits)
    · rcases List.mem_cons.mp inPoint with isPoint | inBehind
      · exact .inr isPoint
      · exact .inl (behind.passes char inBehind)
  | fraction digits =>
    rcases List.mem_cons.mp member with isPoint | inDigits
    · exact .inr isPoint
    · exact .inl (digits.passes char inDigits)

theorem text_ne_nil (size : Magnitude) : size.text ≠ [] := by
  cases size with
  | whole digits => exact digits.text_ne_nil
  | decimal digits behind => exact List.append_ne_nil_of_left_ne_nil digits.text_ne_nil _
  | fraction digits => exact List.cons_ne_nil _ _

theorem text_eq_cons (size : Magnitude) :
    ∃ char others, size.text = char :: others ∧ (char.isDigit = true ∨ char = '.') := by
  obtain ⟨char, others, same⟩ := List.exists_cons_of_ne_nil size.text_ne_nil
  exact ⟨char, others, same, mem_text (same ▸ List.mem_cons_self)⟩

/-- Without its sign, a number does not begin with one. -/
theorem text_unsigned (size : Magnitude) :
    ∃ char others, size.text = char :: others ∧ char ≠ '+' ∧ char ≠ '-' := by
  obtain ⟨char, others, same, isFirst⟩ := size.text_eq_cons
  refine ⟨char, others, same, ?_⟩
  rcases isFirst with digit | rfl
  · constructor <;> (rintro rfl; cases digit)
  · decide

end Magnitude

/-- A number as it is written. -/
structure Number where
  sign : Option Sign
  size : Magnitude

def Number.text (number : Number) : Text :=
  (number.sign.map Sign.char).toList ++ number.size.text

/-- The integer that a number is, if it is one of not too many digits. -/
def Number.integer? (number : Number) : Option Int :=
  match number.size with
  | .whole digits =>
    if digits.text.length ≤ Event.digitLimit then
      let size : Int := toNat 10 digits.text
      some (if number.sign = some .minus then -size else size)
    else none
  | _ => none

/-! ### Quoted texts -/

/-- A character between double quotes, with a backslash before it where it is escaped. -/
inductive QuotedPiece where
  | plain (char : Char) (isPlain : char ≠ '"' ∧ char ≠ '\\')
  | escaped (char : Char) (sameLine : char ≠ '\n')

def QuotedPiece.text : QuotedPiece → Text
  | .plain char _ => [char]
  | .escaped char _ => ['\\', char]

/-- What stands between the quotes. -/
def inside (pieces : List QuotedPiece) : Text :=
  (pieces.map QuotedPiece.text).flatten

def quoted (pieces : List QuotedPiece) : Text :=
  '"' :: inside pieces ++ ['"']

/-! ### Records -/

/-- What is written down about a request. -/
structure Record where
  host : Host
  ident : Stretch isUserChar
  auth : Stretch isUserChar
  date : Date
  method : Stretch isWordChar
  request : Stretch (!isAsciiBlank ·)
  version : Option Number
  code : Number
  bytes : Option Number
  referrer : List QuotedPiece
  agent : List QuotedPiece

namespace Record

/-- The request line: the method, what is asked for and, if it is known, the version. -/
def requestLine (record : Record) : Text :=
  join [' '] (record.method.text :: record.request.text ::
    (record.version.map fun version => "HTTP/".toList ++ version.text).toList)

/-- The line of a record in the combined format. -/
def line (record : Record) : Text :=
  join [' ']
    [record.host.text, record.ident.text, record.auth.text, '[' :: record.date.text ++ [']'],
      '"' :: record.requestLine ++ ['"'], record.code.text,
      (record.bytes.map Number.text).getD ['-'], quoted record.referrer, quoted record.agent]

/-- The fields of a record, as they are written in its line. -/
def parts (record : Record) : Fields :=
  [("client_ip".toList, record.host.text), ("ident".toList, record.ident.text),
    ("auth".toList, record.auth.text), ("timestamp".toList, record.date.text),
    ("http_method".toList, record.method.text), ("request".toList, record.request.text)] ++
  (record.version.map fun version => ("http_version".toList, version.text)).toList ++
  [("response_code".toList, record.code.text)] ++
  (record.bytes.map fun bytes => ("bytes".toList, bytes.text)).toList ++
  [("referrer".toList, quoted record.referrer), ("user_agent".toList, quoted record.agent)]

/-- The fields of a record with its date in ISO order. -/
def fields (record : Record) : Fields :=
  record.parts ++ [(Filter.timestampField, record.date.iso)]

/-- A member of an object, unless its text is empty. -/
def textMember (name : String) (text : Text) : List (String × Json) :=
  if text.isEmpty then [] else [(name, .text text)]

/-- The event of a record. -/
def event (record : Record) : Json :=
  let (action, severity) := Event.classify record.code.integer?
  Event.objectOf
    [("metadata", Event.objectOf
      [("event_type", .text "NETWORK_HTTP".toList), ("event_timestamp", .text record.date.iso)]),
     ("principal", Event.objectOf
      [("ip", .array [.text record.host.text]),
       ("user", Event.objectOf [("userid", .text record.ident.text)])]),
     ("network", Event.objectOf
      [("http", Event.objectOf
        (("method", .text record.method.text) ::
          (record.code.integer?.map fun code => ("response_code", .int code)).toList ++
          textMember "user_agent" (inside record.agent) ++
          textMember "referer" (inside record.referrer)))]),
     ("security_result", .array [Event.objectOf
      [("action", .text action.name.toList), ("severity", .text severity.name.toList),
       ("category", .text "HTTP_REQUEST".toList)]]),
     ("additional", Event.objectOf [("parsed_fields", .ofFields record.fields)])]

end Record

end GrokEvents.AccessLog
