/-
**UTF-8.**

Bytes are read as characters in their shortest form, surrogates excluded. Where that fails, the
fault tells which bytes are at fault and how: a byte that starts no character, a character that
breaks off, or one that the bytes end within.
-/

import GrokEvents.Text.Basic

namespace GrokEvents.Text

/-- How a sequence of bytes fails to be UTF-8. -/
inductive Utf8Reason where
  | invalidStart
  | invalidContinuation
  | unexpectedEnd
deriving DecidableEq, Repr

/-- Where and how bytes fail to be UTF-8: the first byte at fault, at its place, and how many bytes
are at fault together. -/
structure Utf8Fault where
  place : Nat
  count : Nat
  first : Nat
  reason : Utf8Reason
deriving DecidableEq, Repr

namespace Utf8Fault

/-- The wording of a reason. -/
def reasonText : Utf8Reason → String
  | .invalidStart => "invalid start byte"
  | .invalidContinuation => "invalid continuation byte"
  | .unexpectedEnd => "unexpected end of data"

/-- The text of a fault. -/
def message (fault : Utf8Fault) : Text :=
  "'utf-8' codec can't decode ".toList ++
    (if fault.count = 1 then
      "byte 0x".toList ++ hexadecimal 2 fault.first ++ " in position ".toList ++
        ofNat fault.place
    else
      "bytes in position ".toList ++ ofNat fault.place ++ '-' ::
        ofNat (fault.place + fault.count - 1)) ++
    ':' :: ' ' :: (reasonText fault.reason).toList

end Utf8Fault

/-- How many bytes follow a first byte, and the least and greatest second byte. -/
def continuations? (first : Nat) : Option (Nat × Nat × Nat) :=
  if 0xC2 ≤ first && first ≤ 0xDF then some (1, 0x80, 0xBF)
  else if first = 0xE0 then some (2, 0xA0, 0xBF)
  else if first = 0xED then some (2, 0x80, 0x9F)
  else if 0xE1 ≤ first && first ≤ 0xEF then some (2, 0x80, 0xBF)
  else if first = 0xF0 then some (3, 0x90, 0xBF)
  else if 0xF1 ≤ first && first ≤ 0xF3 then some (3, 0x80, 0xBF)
  else if first = 0xF4 then some (3, 0x80, 0x8F)
  else none

/-- The code point of a character whose remaining `count` bytes come next; `read` bytes of it have
been read. -/
def continueUtf8 : (count least greatest code read : Nat) → List Nat →
    Except (Nat × Utf8Reason) Nat
  | 0, _, _, code, _, _ => .ok code
  | _ + 1, _, _, _, read, [] => .error (read, .unexpectedEnd)
  | count + 1, least, greatest, code, read, byte :: rest =>
    if least ≤ byte && byte ≤ greatest then
      continueUtf8 count 0x80 0xBF (code * 64 + byte % 64) (read + 1) rest
    else .error (read, .invalidContinuation)

/-- The characters of bytes from a place on, of which `skip` belong to the character read last. -/
def decodeUtf8From : (place skip : Nat) → List Nat → Except Utf8Fault Text
  | _, _, [] => .ok []
  | place, skip + 1, _ :: rest => decodeUtf8From (place + 1) skip rest
  | place, 0, first :: rest =>
    if first < 0x80 then
      (decodeUtf8From (place + 1) 0 rest).map (Char.ofNat first :: ·)
    else
      match continuations? first with
      | none => .error ⟨place, 1, first, .invalidStart⟩
      | some (count, least, greatest) =>
        let lead := first % (if count = 1 then 32 else if count = 2 then 16 else 8)
        match continueUtf8 count least greatest lead 1 rest with
        | .error (read, reason) => .error ⟨place, read, first, reason⟩
        | .ok code => (decodeUtf8From (place + 1) count rest).map (Char.ofNat code :: ·)

/-- The characters of bytes. -/
def decodeUtf8 (bytes : List Nat) : Except Utf8Fault Text :=
  decodeUtf8From 0 0 bytes

/-- A text in which every line ends with a line feed alone. -/
def unifyLines : Text → Text
  | [] => []
  | [char] => [if char = '\r' then '\n' else char]
  | char :: next :: rest =>
    if char = '\r' then
      if next = '\n' then '\n' :: unifyLines rest else '\n' :: unifyLines (next :: rest)
    else char :: unifyLines (next :: rest)

end GrokEvents.Text
