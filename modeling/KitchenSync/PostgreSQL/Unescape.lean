import Mathlib.Algebra.Ring.Parity
import Mathlib.Data.List.GetD
import KitchenSync.PostgreSQL.ColumnLister

/-!
# Where `unescape_string_value` reads

The loop of `PostgreSQLColumnLister::unescape_string_value` walks an index `n` over the
escaped text. On a `\` or a `'` it steps `n` on by one before `result += escaped[n]`, so
that the escape character is dropped and the character after it kept, whatever it is.
This file models the loop over its index and shows that it appends what
`unescapeStringValue` returns. The loop reads inside the text, and once past it: after an
odd run of escape characters at the end of the text, its last read is of the terminating
`'\0'`, which the value then ends with.
-/

namespace KitchenSync

namespace PostgreSQLColumnLister

/-- The loop of `unescape_string_value` from index `n` on, as the indices that
`result += escaped[n]` reads, in order: an escape character at `n` moves the read on to
`n + 1`, and the loop resumes after the index it read. -/
def unescapeReads (escaped : String) (n : ℕ) : List ℕ :=
  if n < escaped.length then
    let read := if charAt escaped n = '\\' ∨ charAt escaped n = '\x27' then n + 1 else n
    read :: unescapeReads escaped (read + 1)
  else []
termination_by escaped.length - n
decreasing_by all_goals split <;> omega

/-- The number of escape characters, `\` or `'`, that end a list of characters. -/
def trailingEscapes (cs : List Char) : ℕ :=
  (cs.reverse.takeWhile fun c => c = '\\' ∨ c = '\x27').length

/-! ### The run of escape characters at the end -/

/-- An empty text ends in no escapes. -/
@[simp] theorem trailingEscapes_nil : trailingEscapes [] = 0 := rfl

/-- A text ends in at most as many escapes as it has characters. -/
theorem trailingEscapes_le_length (cs : List Char) : trailingEscapes cs ≤ cs.length :=
  List.length_reverse cs ▸ (List.takeWhile_prefix _).length_le

/-- A character before a list lengthens the run only when it is an escape character and the
whole list is the run. -/
theorem trailingEscapes_cons (c : Char) (cs : List Char) :
    trailingEscapes (c :: cs) =
      if (c = '\\' ∨ c = '\x27') ∧ trailingEscapes cs = cs.length then cs.length + 1
      else trailingEscapes cs := by
  have hrun : trailingEscapes (c :: cs) =
      (if trailingEscapes cs = cs.length then
        cs.reverse ++ [c].takeWhile fun c => c = '\\' ∨ c = '\x27'
      else cs.reverse.takeWhile fun c => c = '\\' ∨ c = '\x27').length := by
    rw [trailingEscapes, List.reverse_cons, List.takeWhile_append, List.length_reverse]
    rfl
  rw [hrun]
  by_cases hall : trailingEscapes cs = cs.length
  · by_cases hc : c = '\\' ∨ c = '\x27' <;> simp [hall, hc]
  · rw [if_neg hall, if_neg fun h => hall h.2]
    rfl

/-- A character other than an escape character ends no run. -/
theorem trailingEscapes_cons_of_not_escape {c : Char} (cs : List Char)
    (hc : ¬(c = '\\' ∨ c = '\x27')) : trailingEscapes (c :: cs) = trailingEscapes cs := by
  rw [trailingEscapes_cons, if_neg fun h => hc h.1]

/-- An escape character with the character after it leaves the parity of the run. -/
theorem odd_trailingEscapes_escape_cons {c : Char} (d : Char) (cs : List Char)
    (hc : c = '\\' ∨ c = '\x27') :
    Odd (trailingEscapes (c :: d :: cs)) ↔ Odd (trailingEscapes cs) := by
  have hle := trailingEscapes_le_length cs
  rw [trailingEscapes_cons, trailingEscapes_cons, Nat.odd_iff, Nat.odd_iff]
  simp only [hc, true_and, List.length_cons]
  split_ifs <;> omega

/-! ### One iteration -/

/-- What the characters from `n` on say about the text: `n` is inside it, and the first of
them is `escaped[n]`. -/
private theorem unescape_drop_eq_cons {escaped : String} {n : ℕ} {c : Char} {rest : List Char}
    (hdrop : escaped.data.drop n = c :: rest) :
    n < escaped.length ∧ charAt escaped n = c ∧ escaped.data.drop (n + 1) = rest := by
  have hn : n < escaped.data.length := by
    by_contra hle
    rw [List.drop_eq_nil_of_le (by omega)] at hdrop
    cases hdrop
  rw [List.drop_eq_getElem_cons hn, List.cons.injEq] at hdrop
  exact ⟨String.length_data escaped ▸ hn, by rw [charAt, List.getD_eq_getElem _ _ hn, hdrop.1],
    hdrop.2⟩

/-- Past the end of the text the loop reads nothing. -/
theorem unescapeReads_of_drop_eq_nil {escaped : String} {n : ℕ}
    (hdrop : escaped.data.drop n = []) : unescapeReads escaped n = [] := by
  rw [List.drop_eq_nil_iff, String.length_data] at hdrop
  rw [unescapeReads, if_neg (by omega)]

/-- One iteration of the loop, read off the characters from `n` on. -/
theorem unescapeReads_of_drop_eq_cons {escaped : String} {n : ℕ} {c : Char} {rest : List Char}
    (hdrop : escaped.data.drop n = c :: rest) :
    unescapeReads escaped n =
      if c = '\\' ∨ c = '\x27' then (n + 1) :: unescapeReads escaped (n + 2)
      else n :: unescapeReads escaped (n + 1) := by
  obtain ⟨hn, hc, -⟩ := unescape_drop_eq_cons hdrop
  rw [unescapeReads, if_pos hn]
  simp only [hc]
  split_ifs <;> rfl

/-- An escape character at the end of the text makes the loop read once more, at the end. -/
theorem unescapeReads_of_drop_eq_escape {escaped : String} {n : ℕ} {c : Char}
    (hdrop : escaped.data.drop n = [c]) (hc : c = '\\' ∨ c = '\x27') :
    unescapeReads escaped n = [escaped.length] := by
  obtain ⟨hn, -, hnext⟩ := unescape_drop_eq_cons hdrop
  have hend : escaped.data.length ≤ n + 1 := List.drop_eq_nil_iff.mp hnext
  have hlength := String.length_data escaped
  rw [unescapeReads_of_drop_eq_cons hdrop, if_pos hc,
    unescapeReads_of_drop_eq_nil (List.drop_eq_nil_of_le (by omega))]
  congr 1
  omega

/-! ### What the loop appends -/

/-- The loop from `n` on appends what `unescapeChars` returns for the characters from `n` on;
a trailing escape character makes it read `'\0'` past the end. -/
theorem map_charAt_unescapeReads (escaped : String) (n : ℕ) :
    (unescapeReads escaped n).map (charAt escaped) = unescapeChars (escaped.data.drop n) := by
  rcases hdrop : escaped.data.drop n with _ | ⟨c, rest⟩
  · rw [unescapeReads_of_drop_eq_nil hdrop]
    rfl
  obtain ⟨hn, hchar, hnext⟩ := unescape_drop_eq_cons hdrop
  by_cases hc : c = '\\' ∨ c = '\x27'
  · cases rest with
    | nil =>
      -- the escape character is last: the read after it is of the terminating `'\0'`
      rw [unescapeReads_of_drop_eq_escape hdrop hc, List.map_singleton,
        charAt_of_length_le le_rfl, unescapeChars_escape_singleton hc]
    | cons d rest =>
      obtain ⟨-, hd, hrest⟩ := unescape_drop_eq_cons hnext
      rw [unescapeReads_of_drop_eq_cons hdrop, if_pos hc, List.map_cons,
        map_charAt_unescapeReads escaped (n + 2), hd, hrest, unescapeChars_escape_cons d rest hc]
  · rw [unescapeReads_of_drop_eq_cons hdrop, if_neg hc, List.map_cons,
      map_charAt_unescapeReads escaped (n + 1), hchar, hnext,
      unescapeChars_cons_of_not_escape rest hc]
termination_by escaped.length - n
decreasing_by all_goals omega

/-- `unescape_string_value` is the characters at the indices its loop reads. -/
theorem unescapeStringValue_data (escaped : String) :
    (unescapeStringValue escaped).data = (unescapeReads escaped 0).map (charAt escaped) := by
  rw [map_charAt_unescapeReads, List.drop_zero]
  rfl

/-! ### Where the loop reads -/

/-- From `n` on, the loop reads inside the text, and then once more, at its end, exactly when
the escape characters that end the text from `n` on are odd in number. -/
theorem unescapeReads_eq_inside_append (escaped : String) (n : ℕ) :
    ∃ inside, (∀ i ∈ inside, i < escaped.length) ∧
      unescapeReads escaped n =
        inside ++ if Odd (trailingEscapes (escaped.data.drop n)) then [escaped.length] else [] := by
  rcases hdrop : escaped.data.drop n with _ | ⟨c, rest⟩
  · exact ⟨[], by simp, by simp [unescapeReads_of_drop_eq_nil hdrop]⟩
  obtain ⟨hn, -, hnext⟩ := unescape_drop_eq_cons hdrop
  by_cases hc : c = '\\' ∨ c = '\x27'
  · cases rest with
    | nil =>
      -- the escape character is last: one read, at the end
      refine ⟨[], by simp, ?_⟩
      rw [unescapeReads_of_drop_eq_escape hdrop hc,
        if_pos (by rw [trailingEscapes_cons, if_pos ⟨hc, rfl⟩]; decide)]
      rfl
    | cons d rest =>
      obtain ⟨hd, -, hrest⟩ := unescape_drop_eq_cons hnext
      obtain ⟨inside, hinside, heq⟩ := unescapeReads_eq_inside_append escaped (n + 2)
      refine ⟨(n + 1) :: inside, by simpa [hd] using hinside, ?_⟩
      rw [unescapeReads_of_drop_eq_cons hdrop, if_pos hc, heq, hrest]
      simp only [odd_trailingEscapes_escape_cons d rest hc]
      rfl
  · obtain ⟨inside, hinside, heq⟩ := unescapeReads_eq_inside_append escaped (n + 1)
    refine ⟨n :: inside, by simpa [hn] using hinside, ?_⟩
    rw [unescapeReads_of_drop_eq_cons hdrop, if_neg hc, heq, hnext,
      trailingEscapes_cons_of_not_escape rest hc]
    rfl
termination_by escaped.length - n
decreasing_by all_goals omega

/-- `unescape_string_value` reads only inside the text exactly when the escape characters
that end it are even in number: after an odd run of them it reads the text's terminating
`'\0'`. -/
theorem unescapeReads_lt_length_iff (escaped : String) :
    (∀ n ∈ unescapeReads escaped 0, n < escaped.length) ↔ Even (trailingEscapes escaped.data) := by
  obtain ⟨inside, hinside, heq⟩ := unescapeReads_eq_inside_append escaped 0
  rw [heq, List.drop_zero, ← Nat.not_odd_iff_even]
  by_cases hodd : Odd (trailingEscapes escaped.data)
  · -- the last read is at the end
    simp only [hodd, if_true, not_true_eq_false, iff_false]
    exact fun h => lt_irrefl _ (h _ (List.mem_append_right _ (List.mem_singleton_self _)))
  · simpa [hodd] using hinside

/-- After an odd run of escape characters, the value read ends in the `'\0'` read past the
end of the text. -/
theorem unescapeStringValue_getLast?_of_odd {escaped : String}
    (hodd : Odd (trailingEscapes escaped.data)) :
    (unescapeStringValue escaped).data.getLast? = some '\x00' := by
  obtain ⟨inside, -, heq⟩ := unescapeReads_eq_inside_append escaped 0
  rw [List.drop_zero, if_pos hodd] at heq
  rw [unescapeStringValue_data, heq, List.map_append, List.map_singleton,
    charAt_of_length_le le_rfl]
  simp

-- a text default listed as `'a\'::text` is read with a `'\0'` in place of its backslash
example : (column ⟨"title", "text", "f", "t", "'a\\'::text"⟩).defaultValue = "a\x00" := by
  decide

end PostgreSQLColumnLister

end KitchenSync
