/-
**Dropping a tag.**

Without its tag a token of a plain source still gives way to the same fragment, which then stands in
the text without a group around it. The built-in fragments are made such that this is the same to
what stands beside them: the pattern matches the same lines in the same ways, and finds the other
fields there.

* `rowPhrase_append`: the phrase of a source, part by part.
* `match_untagged`: compiling and matching without the tag of one token.
-/

import GrokEvents.Proofs.Expr.Dropping
import GrokEvents.Proofs.Grok.Plain

namespace GrokEvents.Grok

open Expr

/-- The phrase of one source behind another. -/
theorem rowPhrase_append (before after : List Piece) :
    rowPhrase (before ++ after) = (rowPhrase before).append (rowPhrase after) := by
  induction before with
  | nil => rfl
  | cons piece before ih =>
    rw [List.cons_append]
    match piece with
    | .literal char => rw [rowPhrase, ih, rowPhrase, Phrase.append]
    | .token ⟨name, none⟩ => rw [rowPhrase, ih, rowPhrase, Phrase.append_assoc]
    | .token ⟨name, some tag⟩ => rw [rowPhrase, ih, rowPhrase, Phrase.append]

/-- A plain row stays plain without a tag. -/
theorem plain_untagged {before after : List Piece} {name : Text} {tag : Option Tag}
    (plain : ∀ piece ∈ before ++ .token ⟨name, tag⟩ :: after, piece.IsPlain) :
    ∀ piece ∈ before ++ .token ⟨name, none⟩ :: after, piece.IsPlain := by
  intro piece member
  rcases List.mem_append.mp member with inBefore | here
  · exact plain piece (List.mem_append_left _ inBefore)
  · rcases List.mem_cons.mp here with rfl | inAfter
    · have tagged : Token.WellFormed ⟨name, tag⟩ :=
        plain (.token ⟨name, tag⟩) (List.mem_append_right _ List.mem_cons_self)
      exact Token.WellFormed.mk tagged.name_ne_nil tagged.name_chars nofun
    · exact plain piece (List.mem_append_right _ (List.mem_cons_of_mem _ inAfter))

/-- **Dropping a tag does not change what matches.** Where a plain source over the built-in table
has an expression, it has one without the tag of any of its tokens, whatever was compiled before.
Both match the same texts, and what is found without the tag is what is found with it, but for the
field of the tag. -/
theorem match_untagged [Expr.CharacterNames] {passes : Nat} (enough : 3 ≤ passes) (cacheSize : Nat)
    (requests : List Request) {source : Text} (plain : IsPlain source) {before after : List Piece}
    {name : Text} {tag : Tag}
    (stands : pieces source = before ++ .token ⟨name, some tag⟩ :: after) {pattern : Pattern}
    (compiled : ((served (.fresh .builtin passes cacheSize) requests).compile source).value.1 =
      .ok pattern)
    (usable : pattern.expression.isSome = true) :
    ∃ bare, ((served (.fresh .builtin passes cacheSize) requests).compile
        ((before ++ .token ⟨name, none⟩ :: after).flatMap Piece.spell)).value.1 = .ok bare ∧
      bare.expression.isSome = true ∧
      pattern.expansion.fields.Perm (tag.field :: bare.expansion.fields) ∧
      ∀ text, bare.match? text = (pattern.match? text).map (Entries.erase tag.field) := by
  obtain ⟨row, isPlain, rfl⟩ := plain
  rw [pieces_of_plain isPlain] at stands
  subst stands
  obtain ⟨other, isOther, -, fullNamed, fullGood, fullBad⟩ :=
    compile_row enough cacheSize requests isPlain
  obtain rfl : pattern = other := Except.ok.inj (compiled.symm.trans isOther)
  obtain ⟨bare, isBare, -, bareNamed, bareGood, -⟩ :=
    compile_row enough cacheSize requests (plain_untagged isPlain)
  have full : rowPhrase (before ++ .token ⟨name, some tag⟩ :: after) = (rowPhrase before).append
      (.group (some tag.field) (.only (namePhrase name)) none (rowPhrase after)) :=
    rowPhrase_append before _
  have less : rowPhrase (before ++ .token ⟨name, none⟩ :: after) =
      (rowPhrase before).append ((namePhrase name).append (rowPhrase after)) :=
        rowPhrase_append before _
  rw [full] at fullNamed fullGood fullBad
  rw [less] at bareNamed bareGood
  have names : ((rowPhrase before).append
      (.group (some tag.field) (.only (namePhrase name)) none (rowPhrase after))).names.Perm
        (tag.field :: ((rowPhrase before).append
          ((namePhrase name).append (rowPhrase after))).names) := by
    rw [Phrase.names_append, Phrase.names_append, Phrase.names_append]
    exact List.perm_middle
  obtain ⟨distinct, judged⟩ : Nameable [] (Phrase.names _) := by
    by_contra refused
    rw [fullBad refused] at usable
    cases usable
  obtain ⟨unused, others⟩ := List.nodup_cons.mp (names.nodup_iff.mp distinct)
  have nameable : Nameable [] (Phrase.names _) :=
    ⟨others, fun other member => judged other (names.mem_iff.mpr (List.mem_cons_of_mem _ member))⟩
  refine ⟨bare, isBare, by rw [bareGood nameable]; rfl,
    fullNamed.trans (names.trans (bareNamed.symm.cons _)), fun text => ?_⟩
  rw [Phrase.names_append, Phrase.names_append] at unused
  have drops := drops_group unused
  rw [Pattern.match?, Pattern.match?, bareGood nameable, fullGood ⟨distinct, judged⟩]
  exact drops.fields? text

/-- A path is matched without its tag between two fields, the second of which moves up. -/
theorem match_untagged_path :
    let source := "%\x7bWORD:verb\x7d %\x7bPATH:path:text\x7d %\x7bINT:size\x7d".toList
    IsPlain source ∧ ∃ pattern bare,
      ((served (.fresh .builtin 3 8) []).compile source).value.1 = .ok pattern ∧
      ((served (.fresh .builtin 3 8) []).compile
        "%\x7bWORD:verb\x7d %\x7bPATH\x7d %\x7bINT:size\x7d".toList).value.1 = .ok bare ∧
      pattern.match? "GET /a/b 7".toList =
        some [("verb".toList, "GET".toList), ("path".toList, "/a/b".toList),
        ("size".toList, "7".toList)] ∧
      bare.match? "GET /a/b 7".toList =
        some [("verb".toList, "GET".toList), ("size".toList, "7".toList)] := by
  intro source
  have plain : IsPlain source := by decide +kernel
  have outcome : ((served (.fresh .builtin 3 8) []).compile source).value.1.toOption.map
      (fun pattern => (pattern.expression.isSome, pattern.match? "GET /a/b 7".toList)) =
        some (true, some [("verb".toList, "GET".toList), ("path".toList, "/a/b".toList),
          ("size".toList, "7".toList)]) := by
    decide +kernel
  cases compiled : ((served (.fresh .builtin 3 8) []).compile source).value.1 with
  | error fault =>
    rw [compiled] at outcome
    cases outcome
  | ok pattern =>
    rw [compiled] at outcome
    obtain ⟨usable, found⟩ := Prod.mk.inj (Option.some.inj outcome)
    have stands : pieces source =
        [.token ⟨"WORD".toList, some ⟨"verb".toList, none⟩⟩, .literal ' '] ++
          .token ⟨"PATH".toList, some ⟨"path".toList, some "text".toList⟩⟩ ::
            [.literal ' ', .token ⟨"INT".toList, some ⟨"size".toList, none⟩⟩] := by
      decide +kernel
    have spelled : ([.token ⟨"WORD".toList, some ⟨"verb".toList, none⟩⟩, .literal ' '] ++
        .token ⟨"PATH".toList, none⟩ ::
          [.literal ' ', .token ⟨"INT".toList, some ⟨"size".toList, none⟩⟩] :
          List Piece).flatMap Piece.spell =
        "%\x7bWORD:verb\x7d %\x7bPATH\x7d %\x7bINT:size\x7d".toList := by
      decide +kernel
    obtain ⟨bare, isBare, -, -, without⟩ := match_untagged (le_refl 3) 8 [] plain stands compiled usable
    rw [spelled] at isBare
    refine ⟨plain, pattern, bare, rfl, isBare, found, ?_⟩
    rw [without, found]
    decide +kernel

end GrokEvents.Grok
