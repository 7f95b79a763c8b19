/-
**Files.**

What opening a file can lead to, the names of files, the text of their bytes, and what loading the
document in a file can lead to.

* `File.text`: the text of a file, or where its bytes are at fault.
* `Loader`: what makes documents of files.
-/

import GrokEvents.Text.Utf8
import GrokEvents.Text.Quoted
import GrokEvents.Value.Basic

namespace GrokEvents

/-- Why a file cannot be opened. -/
inductive OpenFault where
  | missing
  | denied
  | directory
  | notDirectory
deriving DecidableEq, Repr

namespace OpenFault

/-- The number and wording of a fault. -/
def reason : OpenFault → String
  | .missing => "[Errno 2] No such file or directory"
  | .denied => "[Errno 13] Permission denied"
  | .directory => "[Errno 21] Is a directory"
  | .notDirectory => "[Errno 20] Not a directory"

/-- The text of a fault with a file of a name. -/
def message (fault : OpenFault) (name : Text) : Text :=
  fault.reason.toList ++ ':' :: ' ' :: Text.quoted name

end OpenFault

/-- What the name of a file leads to: the bytes of the file, or the fault of opening it. -/
abbrev Opened := Except OpenFault (List Nat)

/-- Files by name. -/
abbrev Files := Text → Opened

namespace File

/-- Whether a name leads to something, a directory included. -/
def exists? (files : Files) (name : Text) : Bool :=
  match files name with
  | .ok _ | .error .directory | .error .denied => true
  | .error .missing | .error .notDirectory => false

/-- A name less empty and dot components; two slashes at the start are kept. -/
def normalize (name : Text) : Text :=
  let slashes := (name.takeWhile (· == '/')).length
  let root : Text := if slashes = 0 then [] else if slashes = 2 then ['/', '/'] else ['/']
  let parts := (Text.splitOn '/' name).filter fun part => !part.isEmpty && part != ['.']
  let normal := root ++ Text.join ['/'] parts
  if normal.isEmpty then ['.'] else normal

/-- The text of the bytes of a file, its lines ended by line feeds. -/
def text (bytes : List Nat) : Except Text.Utf8Fault Text :=
  (Text.decodeUtf8 bytes).map Text.unifyLines

/-- The same for a file read piece by piece: bytes that end within a character are counted from
the start of that character. -/
def streamedText (bytes : List Nat) : Except Text.Utf8Fault Text :=
  match text bytes with
  | .error fault =>
    if fault.reason = .unexpectedEnd then .error { fault with place := 0 } else .error fault
  | .ok text => .ok text

end File

/-- A failure that whoever has a document loaded does not reckon with: its kind and its text. -/
structure LoadFailure where
  kind : Text
  message : Text
deriving DecidableEq, Repr

/-- Why a file has no document. -/
inductive LoadFault where
  /-- What stands in the file is no document. -/
  | malformed (detail : Text)
  /-- A text or a value that stands in the file is refused. -/
  | refused (message : Text)
  | failed (failure : LoadFailure)
deriving DecidableEq, Repr

/-- What makes the value of a document of the bytes of a file. -/
abbrev Loader := List Nat → Except LoadFault Value

end GrokEvents
