/-
**Decoding a pattern.**

A decoder reads an escaped pattern once from the left and gives a backslash for two, a quote for a
backslash and a quote, and every other character for itself. Undoing the escapes goes three times
over the text instead and sets escaped backslashes aside as NUL on the way. What it gives is the
decoded text, but that a NUL of the text itself comes back as a backslash, like those that were set
aside.

* `unescape_eq_map_decode`: the three replacements against the decoder.
* `decode_escape`: the decoder gives every pattern back.
* `unescape_escape`: the escapes of a pattern without NUL are undone.
* `unescape_eq_decode_iff`: where both are the same.
-/

import GrokEvents.Proofs.Filter.Escape

namespace GrokEvents.Filter

open Text

/-! ### The decoder -/

/-- A text read once from the left, with the given texts in the place of an escaped backslash and of an
escaped quote. Every other character is copied. -/
def decodeAs (backslash quote : Text) : Text → Text
  | '\\' :: '\\' :: rest => backslash ++ decodeAs backslash quote rest
  | '\\' :: '"' :: rest => quote ++ decodeAs backslash quote rest
  | char :: rest => char :: decodeAs backslash quote rest
  | [] => []

/-- The pattern that an escaped text stands for. -/
def decode (text : Text) : Text :=
  decodeAs ['\\'] ['"'] text

/-- A backslash for the character that escaped backslashes are set aside as. -/
def takenBack (char : Char) : Char :=
  if char = '\x00' then '\\' else char

/-- The decoder gives every pattern back, whatever is in it. -/
theorem decode_escape (pattern : Text) : decode (escape pattern) = pattern := by
  rw [decode]
  induction pattern with
  | nil => rfl
  | cons char rest ih =>
    rw [escape_cons]
    by_cases backslash : char = '\\'
    · subst backslash
      exact congrArg ('\\' :: ·) ih
    · by_cases quote : char = '"'
      · subst quote
        exact congrArg ('"' :: ·) ih
      · rw [escapeChar_of_plain backslash quote, List.singleton_append, decodeAs, ih]
        · exact fun _ same => absurd same backslash
        · exact fun _ same => absurd same backslash

theorem nul_mem_decode_iff {text : Text} : '\x00' ∈ decode text ↔ '\x00' ∈ text := by
  rw [decode]
  fun_induction decodeAs ['\\'] ['"'] text with
  | case1 rest ih => simp [ih]
  | case2 rest ih => simp [ih]
  | case3 char rest _ _ ih => rw [List.mem_cons, List.mem_cons, ih]
  | case4 => rfl

/-! ### The three replacements -/

/-- The first replacement sets the escaped backslashes aside. A backslash that escapes nothing is passed
over like any other character. -/
theorem replaceFrom_backslashes (text : Text) :
    replaceFrom ['\\', '\\'] ['\x00'] 0 text = decodeAs ['\x00'] ['\\', '"'] text := by
  fun_induction decodeAs ['\x00'] ['\\', '"'] text with
  | case1 rest ih => simpa [replaceFrom] using ih
  | case2 rest ih => simpa [replaceFrom] using ih
  | case3 char rest notBackslash _ ih =>
    have plain : ['\\', '\\'].isPrefixOf (char :: rest) = false := by
      rw [← Bool.not_eq_true, List.isPrefixOf_iff_prefix]
      rintro ⟨after, written⟩
      obtain ⟨rfl, behind⟩ := List.cons.inj written
      exact notBackslash after rfl behind.symm
    rw [replaceFrom, plain, ← ih]
    rfl
  | case4 => rfl

/-- The second replacement restores the quotes. What is left of a backslash that escapes nothing cannot
come to stand before a quote. -/
theorem replaceFrom_quotes (text : Text) :
    replaceFrom ['\\', '"'] ['"'] 0 (decodeAs ['\x00'] ['\\', '"'] text) =
      decodeAs ['\x00'] ['"'] text := by
  fun_induction decodeAs ['\x00'] ['"'] text with
  | case1 rest ih => simpa [decodeAs, replaceFrom] using ih
  | case2 rest ih => simpa [decodeAs, replaceFrom] using ih
  | case3 char rest notBackslash notQuote ih =>
    rw [decodeAs]
    · have plain : ['\\', '"'].isPrefixOf (char :: decodeAs ['\x00'] ['\\', '"'] rest) = false := by
        rw [← Bool.not_eq_true, List.isPrefixOf_iff_prefix]
        rintro ⟨after, written⟩
        obtain ⟨rfl, behind⟩ := List.cons.inj written
        cases rest with
        | nil => cases behind
        | cons next rest =>
          by_cases backslash : next = '\\'
          · exact notBackslash rest rfl (by rw [backslash])
          · rw [decodeAs] at behind
            · exact notQuote rest rfl (by rw [(List.cons.inj behind).1])
            · exact fun _ same => absurd same backslash
            · exact fun _ same => absurd same backslash
      rw [replaceFrom, plain, ← ih]
      rfl
    · exact notBackslash
    · exact notQuote
  | case4 => rfl

/-- The third replacement takes every NUL for a backslash. -/
theorem replaceFrom_placeholder (text : Text) :
    replaceFrom ['\x00'] ['\\'] 0 text = text.map takenBack := by
  induction text with
  | nil => rfl
  | cons char rest ih =>
    rw [List.map_cons, ← ih, takenBack]
    by_cases aside : char = '\x00'
    · subst aside
      rfl
    · simp [replaceFrom, aside, Ne.symm aside]

/-- Once every NUL is taken back, it does not matter which escaped backslashes were set aside. -/
theorem map_takenBack (text : Text) :
    (decodeAs ['\x00'] ['"'] text).map takenBack = (decode text).map takenBack := by
  rw [decode]
  fun_induction decodeAs ['\x00'] ['"'] text with
  | case1 rest ih => exact congrArg ('\\' :: ·) ih
  | case2 rest ih => exact congrArg ('"' :: ·) ih
  | case3 char rest notBackslash notQuote ih =>
    rw [decodeAs, List.map_cons, List.map_cons, ih]
    · exact notBackslash
    · exact notQuote
  | case4 => rfl

/-- Undoing the escapes gives the decoded text with a backslash for each NUL that is in it. -/
theorem unescape_eq_map_decode (text : Text) : unescape text = (decode text).map takenBack := by
  simp only [unescape, replace]
  rw [replaceFrom_backslashes, replaceFrom_quotes, replaceFrom_placeholder, map_takenBack]

theorem map_takenBack_eq_self_iff {text : Text} : text.map takenBack = text ↔ '\x00' ∉ text := by
  have pointwise : text.map takenBack = text.map id ↔ ∀ char ∈ text, takenBack char = id char :=
    List.map_inj_left
  rw [List.map_id] at pointwise
  rw [pointwise]
  constructor
  · intro same member
    cases same '\x00' member
  · intro clean char member
    have ordinary : char ≠ '\x00' := fun nul => clean (nul ▸ member)
    exact if_neg ordinary

/-- Undoing the escapes of a pattern without NUL gives the pattern back. -/
theorem unescape_escape {pattern : Text} (clean : '\x00' ∉ pattern) :
    unescape (escape pattern) = pattern := by
  rw [unescape_eq_map_decode, decode_escape, map_takenBack_eq_self_iff.mpr clean]

/-! ### Where it is the decoder -/

/-- **Undoing the escapes against the decoder.** It gives the decoded text with a backslash for each NUL
that is in the text. So it is the decoder on the texts without NUL and on no other text, and it gives a
text back from its escaped form just where the text has no NUL, while the decoder always does. -/
theorem unescape_eq_decode_iff (text : Text) :
    unescape text = (decode text).map takenBack ∧
      (unescape text = decode text ↔ '\x00' ∉ text) ∧
        decode (escape text) = text ∧ (unescape (escape text) = text ↔ '\x00' ∉ text) := by
  refine ⟨unescape_eq_map_decode text, ?_, decode_escape text, ?_⟩
  · rw [unescape_eq_map_decode, map_takenBack_eq_self_iff, nul_mem_decode_iff]
  · rw [unescape_eq_map_decode, decode_escape, map_takenBack_eq_self_iff]

/-- A NUL is no escape, and comes back as a backslash all the same. -/
theorem unescape_nul : decode ['\x00'] = ['\x00'] ∧ escape ['\x00'] = ['\x00'] ∧
    unescape ['\x00'] = ['\\'] ∧ ¬ ∀ text, unescape text = decode text := by
  have taken : unescape ['\x00'] = ['\\'] := by decide
  have kept : decode ['\x00'] = ['\x00'] := by decide
  refine ⟨kept, rfl, taken, fun same => ?_⟩
  have equal := same ['\x00']
  rw [taken, kept] at equal
  cases equal

end GrokEvents.Filter
