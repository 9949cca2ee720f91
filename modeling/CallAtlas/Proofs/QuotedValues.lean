/-
Values between quotes.

A value is written with its backslashes, quotes and line breaks escaped. Whether a quote is escaped is told by the
backslashes right before it: by an odd run it is, by an even run it closes the value.
- `escaped_eq_replace`: one pass over the value writes what three replacements write, each on what the one before has
  written.
- `Enclosed.append`: texts in which every quote is escaped, and which leave a quote after them unescaped, stay such when
  they are put together. So `enclosed_escaped` comes from the four ways to write one character.
- `Enclosed.closing_unique`: a quote closes only one such text.
- `readValue?_eq_some_iff`: a value is read from its escaped text and the quote after it, and from no other text.
- `value_enclosed`: all of it together.
-/
import Mathlib.Data.List.DropRight
import Mathlib.Algebra.Ring.Parity
import CallAtlas.Text.Replaced
import CallAtlas.Proofs.DrawingText

namespace CallAtlas.Dot

/-! ## Three replacements -/

/-- one character after the three replacements -/
theorem replacement_in_turn (c : Char) :
    ((Text.replacement '\\' "\\\\" c).flatMap fun d =>
      (Text.replacement '"' "\\\"" d).flatMap (Text.replacement '\n' "\\n")) = escapedChar c := by
  unfold escapedChar
  split_ifs with hbackslash hquote hbreak
  · rw [hbackslash]
    decide
  · rw [hquote]
    decide
  · rw [hbreak]
    decide
  · simp [Text.replacement, hbackslash, hquote, hbreak]

/-- **One pass escapes as three replacements do**: backslashes first, so that none of those written later is doubled. -/
theorem escaped_eq_replace (s : String) :
    escaped s = ((s.replace '\\' "\\\\").replace '"' "\\\"").replace '\n' "\\n" := by
  rw [← String.toList_inj, escaped, String.toList_ofList, Text.toList_replace, Text.toList_replace, Text.toList_replace,
    List.flatMap_assoc, List.flatMap_assoc]
  exact List.flatMap_congr fun c _ => (replacement_in_turn c).symm

/-! ## Runs of backslashes -/

/-- the number of backslashes at the end -/
def backslashes (cs : List Char) : Nat :=
  (cs.rtakeWhile (· = '\\')).length

theorem backslashes_concat (cs : List Char) (c : Char) :
    backslashes (cs ++ [c]) = if c = '\\' then backslashes cs + 1 else 0 := by
  rw [backslashes, List.rtakeWhile_concat]
  by_cases hc : c = '\\'
  · simp [hc, backslashes]
  · simp [hc]

/-- an even run before a text leaves each run of the text as odd or even as it is -/
theorem even_backslashes_append {a : List Char} (ha : Even (backslashes a)) (b : List Char) :
    Even (backslashes (a ++ b)) ↔ Even (backslashes b) := by
  induction b using List.reverseRecOn with
  | nil => simpa [backslashes] using ha
  | append_singleton b c ih =>
    rw [← List.append_assoc, backslashes_concat, backslashes_concat]
    split
    · rw [Nat.even_add_one, Nat.even_add_one, ih]
    · rfl

/-! ## Texts between quotes -/

/-- text up to the quote that closes it: every quote of its own is escaped, and one right after it is not -/
structure Enclosed (cs : List Char) : Prop where
  quotes : ∀ before after, cs = before ++ '"' :: after → Odd (backslashes before)
  ending : Even (backslashes cs)

namespace Enclosed

variable {a b : List Char}

theorem nil : Enclosed [] := by
  constructor
  case quotes => simp
  case ending => decide

theorem append (ha : Enclosed a) (hb : Enclosed b) : Enclosed (a ++ b) := by
  constructor
  case quotes =>
    intro before after h
    obtain ⟨c, rfl, hc⟩ | ⟨c, hc, hafter⟩ := List.append_eq_append_iff.1 h
    · -- a quote of `b`, whose run may go on into `a`
      rw [← Nat.not_even_iff_odd, even_backslashes_append ha.ending, Nat.not_even_iff_odd]
      exact hb.quotes c after hc
    · obtain ⟨rfl, rfl⟩ | ⟨c, rfl, rfl⟩ := List.cons_eq_append_iff.1 hafter
      · exact absurd (hb.quotes [] after rfl) (by decide)
      · exact ha.quotes before c hc
  case ending => exact (even_backslashes_append ha.ending b).2 hb.ending

/-- a backslash and the character it escapes -/
theorem pair (c : Char) : Enclosed ['\\', c] := by
  constructor
  case quotes =>
    intro before after h
    obtain ⟨-, hquote⟩ | ⟨between, rfl, hc⟩ := List.cons_eq_append_iff.1 h
    · simp at hquote
    · obtain ⟨rfl, -⟩ | ⟨-, hnone⟩ := List.append_eq_singleton_iff.1 hc.symm
      · decide
      · simp at hnone
  case ending =>
    rw [← List.singleton_append, backslashes_concat]
    split
    · decide
    · decide

theorem singleton {c : Char} (hbackslash : c ≠ '\\') (hquote : c ≠ '"') : Enclosed [c] := by
  constructor
  case quotes =>
    intro before after h
    have hmem : '"' ∈ [c] := h ▸ List.mem_append_right before List.mem_cons_self
    exact absurd (List.mem_singleton.1 hmem).symm hquote
  case ending =>
    rw [← List.nil_append [c], backslashes_concat, if_neg hbackslash]
    decide

/-- an enclosed text does not go on after a quote that is not escaped -/
theorem not_append_quote (ha : Even (backslashes a)) (r : List Char) : ¬Enclosed (a ++ '"' :: r) :=
  fun h => Nat.not_odd_iff_even.2 ha (h.quotes a r rfl)

/-- **A quote closes only one such text**: the first quote that is not escaped. -/
theorem closing_unique (ha : Enclosed a) (hb : Enclosed b) {r r' : List Char} (h : a ++ '"' :: r = b ++ '"' :: r') :
    a = b ∧ r = r' := by
  obtain ⟨c, rfl, hc⟩ | ⟨c, rfl, hc⟩ := List.append_eq_append_iff.1 h
  · obtain ⟨rfl, hr⟩ | ⟨c, rfl, -⟩ := List.cons_eq_append_iff.1 hc
    · simpa [eq_comm] using hr
    · exact absurd hb (not_append_quote ha.ending c)
  · obtain ⟨rfl, hr⟩ | ⟨c, rfl, -⟩ := List.cons_eq_append_iff.1 hc
    · simpa [eq_comm] using hr
    · exact absurd ha (not_append_quote hb.ending c)

end Enclosed

theorem enclosed_escapedChar (c : Char) : Enclosed (escapedChar c) := by
  unfold escapedChar
  split_ifs with hbackslash hquote hbreak
  · exact Enclosed.pair '\\'
  · exact Enclosed.pair '"'
  · exact Enclosed.pair 'n'
  · exact Enclosed.singleton hbackslash hquote

theorem enclosed_escaped (s : String) : Enclosed (escaped s).toList := by
  rw [escaped, String.toList_ofList]
  induction s.toList with
  | nil => exact Enclosed.nil
  | cons c cs ih =>
    rw [List.flatMap_cons]
    exact (enclosed_escapedChar c).append ih

/-! ## One line -/

theorem notMem_newline_escapedChar (c : Char) : '\n' ∉ escapedChar c := by
  unfold escapedChar
  split_ifs with hbackslash hquote hbreak
  · decide
  · decide
  · decide
  · simpa [eq_comm] using hbreak

theorem notMem_newline_escaped (s : String) : '\n' ∉ (escaped s).toList := by
  rw [escaped, String.toList_ofList, List.mem_flatMap]
  rintro ⟨c, -, hc⟩
  exact notMem_newline_escapedChar c hc

/-! ## Reading -/

theorem escapedChar_of_unescaped? {c d : Char} (h : unescaped? d = some c) : escapedChar c = ['\\', d] := by
  unfold unescaped? at h
  split_ifs at h with hbreak hself
  · cases h
    rw [hbreak]
    rfl
  · cases h
    obtain rfl | rfl := hself
    · rfl
    · rfl

/-- what is read as a value was written for it: a value has no second spelling -/
theorem eq_of_readValue? {text value rest : List Char} (h : readValue? text = some (value, rest)) :
    text = value.flatMap escapedChar ++ '"' :: rest := by
  fun_induction readValue? text generalizing value rest with
  | case1 => cases h
  | case2 =>
    cases h
    rfl
  | case3 => cases h
  | case4 => cases h
  | case5 d r _ _ ih =>
    simp only [Option.bind_eq_bind, Option.bind_eq_some_iff, Option.pure_def, Option.some.injEq, Prod.mk.injEq] at h
    obtain ⟨c, hc, ⟨value, rest⟩, hvalue, rfl, rfl⟩ := h
    rw [List.flatMap_cons, escapedChar_of_unescaped? hc, ih hvalue]
    rfl
  | case6 c r hquote hbreak hbackslash ih =>
    simp only [Option.bind_eq_bind, Option.bind_eq_some_iff, Option.pure_def, Option.some.injEq, Prod.mk.injEq] at h
    obtain ⟨⟨value, rest⟩, hvalue, rfl, rfl⟩ := h
    rw [List.flatMap_cons, escapedChar, if_neg hbackslash, if_neg hquote, if_neg hbreak, ih hvalue]
    rfl

/-- **A value is read from its escaped text**, and from no other. -/
theorem readValue?_eq_some_iff {text rest : List Char} {s : String} :
    readValue? text = some (s.toList, rest) ↔ text = (escaped s).toList ++ '"' :: rest := by
  rw [escaped, String.toList_ofList]
  constructor
  · exact eq_of_readValue?
  · rintro rfl
    exact readValue?_escaped s.toList rest

/-! ## All together -/

/-- **Values between quotes.** Escaping a value replaces its backslashes, then its quotes, then its line breaks. What it
gives holds no line break, every quote in it follows an odd run of backslashes, and it does not end in such a run. So
whatever comes after the closing quote, that quote is the one that closes the value. Exactly this text is read as the
value, and the text of two values put together is the texts of both. -/
theorem value_enclosed (s : String) :
    escaped s = ((s.replace '\\' "\\\\").replace '"' "\\\"").replace '\n' "\\n" ∧
    '\n' ∉ (escaped s).toList ∧
    (∀ before after, (escaped s).toList = before ++ '"' :: after → Odd (backslashes before)) ∧
    Even (backslashes (escaped s).toList) ∧
    (∀ inside rest after, Enclosed inside ∧ (escaped s).toList ++ '"' :: rest = inside ++ '"' :: after ↔
      inside = (escaped s).toList ∧ after = rest) ∧
    (∀ text rest, readValue? text = some (s.toList, rest) ↔ text = (escaped s).toList ++ '"' :: rest) ∧
    ∀ t, escaped (s ++ t) = escaped s ++ escaped t := by
  refine ⟨escaped_eq_replace s, notMem_newline_escaped s, (enclosed_escaped s).quotes, (enclosed_escaped s).ending, ?_,
    fun _ _ => readValue?_eq_some_iff, escaped_append s⟩
  intro inside rest after
  constructor
  · rintro ⟨hinside, htext⟩
    obtain ⟨rfl, rfl⟩ := Enclosed.closing_unique (enclosed_escaped s) hinside htext
    exact ⟨rfl, rfl⟩
  · rintro ⟨rfl, rfl⟩
    exact ⟨enclosed_escaped s, rfl⟩

/-- a value that ends in a backslash, with quotes around a part of it and a line break -/
theorem value_enclosed_hostile :
    (escaped "\"a\"\n\\").toList = "\\\"a".toList ++ ['\\'] ++ '"' :: "\\n\\\\".toList ∧
    Odd (backslashes ("\\\"a".toList ++ ['\\'])) := by
  have htext : (escaped "\"a\"\n\\").toList = "\\\"a".toList ++ ['\\'] ++ '"' :: "\\n\\\\".toList := by decide
  exact ⟨htext, (value_enclosed "\"a\"\n\\").2.2.1 _ _ htext⟩

end CallAtlas.Dot
