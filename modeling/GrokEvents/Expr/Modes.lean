/-
**Modes.**

The letters that change how an expression is read and matched, for the whole of it or for one
group.

* `readFlags`: the letters after the question mark of a group, up to its closing parenthesis or
  colon.
-/

import GrokEvents.Expr.Escape

namespace GrokEvents.Expr

/-- The modes in force at a place of an expression. -/
structure Modes where
  ignoreCase : Bool := false
  multiline : Bool := false
  dotAll : Bool := false
  verbose : Bool := false
  /-- Kinds of characters take in all scripts. -/
  wide : Bool := false
  /-- The whole expression has no loops. -/
  loopless : Bool := false
deriving DecidableEq, Repr

/-- A mode's letter. -/
inductive Flag where
  | ignoreCase
  | multiline
  | dotAll
  | verbose
  | ascii
  | wide
  | loopless
deriving DecidableEq, Repr

namespace Flag

/-- The flag of a letter. -/
def ofChar? : Char → Option Flag
  | 'i' => some .ignoreCase
  | 'm' => some .multiline
  | 's' => some .dotAll
  | 'x' => some .verbose
  | 'a' => some .ascii
  | 'u' => some .wide
  | 't' => some .loopless
  | _ => none

/-- Whether a flag chooses the alphabet of the character kinds. -/
def choosesAlphabet (flag : Flag) : Bool :=
  flag = .ascii || flag = .wide

/-- Whether a flag may be set for one group alone. -/
def isLocal (flag : Flag) : Bool :=
  flag != .loopless

/-- The modes with a flag turned on or off. -/
def set (value : Bool) (modes : Modes) : Flag → Modes
  | .ignoreCase => { modes with ignoreCase := value }
  | .multiline => { modes with multiline := value }
  | .dotAll => { modes with dotAll := value }
  | .verbose => { modes with verbose := value }
  | .ascii => { modes with wide := !value }
  | .wide => { modes with wide := value }
  | .loopless => { modes with loopless := value }

end Flag

/-- What a group of letters asks for. -/
inductive FlagGroup where
  /-- Letters for the whole expression. -/
  | global (on : List Flag)
  /-- Letters turned on and off for the body of a group. -/
  | scoped (on off : List Flag)
deriving DecidableEq, Repr

/-- The letters after the minus sign, up to the colon. At least one stands there, and the
alphabet cannot be turned off. -/
def readOffFlags (on : List Flag) :
    List Flag → List Lexeme → Except Flaw (FlagGroup × List Lexeme)
  | off, .plain char :: rest =>
    match Flag.ofChar? char with
    | some flag =>
      if flag.choosesAlphabet || !flag.isLocal then malformed .badFlags
      else readOffFlags on (flag :: off) rest
    | none =>
      if char = ':' && !off.isEmpty && !off.any on.contains then .ok (.scoped on off, rest)
      else malformed .badFlags
  | _, _ => malformed .badFlags

/-- The letters of a group. The two alphabets exclude each other. -/
def readFlags : List Flag → List Lexeme → Except Flaw (FlagGroup × List Lexeme)
  | on, .plain char :: rest =>
    match Flag.ofChar? char with
    | some flag =>
      if flag.choosesAlphabet && on.any fun other => other.choosesAlphabet && other != flag then
        malformed .badFlags
      else readFlags (flag :: on) rest
    | none =>
      if char = ')' && !on.isEmpty then .ok (.global on, rest)
      else if !on.all Flag.isLocal then malformed .badFlags
      else if char = '-' then readOffFlags on [] rest
      else if char = ':' && !on.isEmpty then .ok (.scoped on [], rest)
      else malformed .badFlags
  | _, _ => malformed .badFlags

/-- The modes for the body of a group with letters of its own. -/
def Modes.scoped (modes : Modes) (on off : List Flag) : Modes :=
  off.foldl (Flag.set false) (on.foldl (Flag.set true) modes)

/-! ## Comments and spacing -/

/-- What follows a comment group, after its sign. -/
def skipComment : List Lexeme → Except Flaw (List Lexeme)
  | [] => malformed .openComment
  | .plain ')' :: rest => .ok rest
  | _ :: rest => skipComment rest

/-- What follows a comment that runs to the end of its line. A dangling backslash is not passed
over. -/
def skipLine : List Lexeme → List Lexeme
  | [] => []
  | .plain '\n' :: rest => rest
  | .dangling :: rest => .dangling :: rest
  | _ :: rest => skipLine rest

/-- Whether a verbose expression passes over a character. -/
def isSpacing (char : Char) : Bool :=
  Text.isAsciiBlank char

/-! ## The opening of an expression -/

/-- The modes that an expression opens with, whether it asks for all scripts, and the lexemes after
that: groups of global letters may stand only here, among comments. -/
def readOpening : Nat → Modes → Bool → List Lexeme → Except Flaw (Modes × Bool × List Lexeme)
  | 0, _, _, _ => malformed .unfinished
  | fuel + 1, modes, clash, lexemes =>
    match lexemes with
    | .plain '(' :: .plain '?' :: .plain '#' :: rest => do
      readOpening fuel modes clash (← skipComment rest)
    | .plain '(' :: .plain '?' :: .plain char :: rest =>
      if (Flag.ofChar? char).isNone then .ok (modes, clash, lexemes)
      else do
        match ← readFlags [] (.plain char :: rest) with
        | (.global on, left) =>
          let opened := on.foldl (Flag.set true) modes
          readOpening fuel { opened with wide := modes.wide }
            (clash || on.contains .wide) left
        | (.scoped .., _) => return (modes, clash, lexemes)
    | .plain char :: rest =>
      if modes.verbose && isSpacing char then readOpening fuel modes clash rest
      else if modes.verbose && char = '#' then readOpening fuel modes clash (skipLine rest)
      else .ok (modes, clash, lexemes)
    | lexemes => .ok (modes, clash, lexemes)

end GrokEvents.Expr
