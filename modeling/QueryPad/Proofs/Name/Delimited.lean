import QueryPad.Grammar.Sql

/-!
# Delimited names as lexemes

A name that is written between delimiters is read back by three readers: the scan that finds the
lexemes takes the closing delimiters in pairs, `strip` takes the delimiters off and then collapses
what is doubled, and the names in sight are looked up by what `strip` gives. Main statement:
`wrap_round_trip`, the readers agree on every name, and a lexeme is written as `wrap` writes its name
exactly if its closing delimiter is there.
-/

namespace QueryPad

open Delimited (double)

/-! ## The scan for the closing delimiter -/

namespace Lexeme

/-- The closing character is met before the text is at its end. What is doubled is passed over two
at a time, as by `quotedTail`. -/
def closes (close : Char) : List Char → Bool
  | [] => false
  | c :: cs =>
    if c = close then
      match cs with
      | [] => true
      | d :: ds => if d = close then closes close ds else true
    else closes close cs

variable {close : Char}

theorem closes_cons_of_ne {c : Char} (h : c ≠ close) (cs : List Char) :
    closes close (c :: cs) = closes close cs := by
  rw [closes.eq_def]
  exact if_neg h

/-- Two closing characters in a row do not close. -/
theorem closes_doubled (close : Char) (cs : List Char) :
    closes close (close :: close :: cs) = closes close cs := by
  rw [closes.eq_def]
  exact (if_pos rfl).trans (if_pos rfl)

/-- Where the closing character is not met, the lexeme runs to the end of the text. -/
theorem quotedTail_of_not_closes {cs : List Char} (h : closes close cs = false) :
    quotedTail close cs = cs := by
  fun_induction closes close cs with
  | case1 => rfl
  | case2 => cases h
  | case3 ds ih => rw [quotedTail_doubled, ih h]
  | case4 => cases h
  | case5 c cs hc ih => rw [quotedTail_cons_of_ne hc, ih h]

/-- What the scan passes over before it meets the closing character is a name with its closing
characters doubled. -/
theorem exists_double_of_closes {cs : List Char} (h : closes close cs = true) :
    ∃ name, quotedTail close cs = double close name ++ [close] := by
  fun_induction closes close cs with
  | case1 => cases h
  | case2 => exact ⟨[], quotedTail_closed nofun⟩
  | case3 ds ih =>
    obtain ⟨name, hname⟩ := ih h
    refine ⟨close :: name, ?_⟩
    rw [quotedTail_doubled, hname, double, if_pos rfl, List.cons_append, List.cons_append]
  | case4 d ds hd =>
    refine ⟨[], quotedTail_closed ?_⟩
    intro heq
    exact hd (Option.some.inj heq)
  | case5 c cs hc ih =>
    obtain ⟨name, hname⟩ := ih h
    refine ⟨c :: name, ?_⟩
    rw [quotedTail_cons_of_ne hc, hname, double, if_neg hc, List.cons_append]

/-- The scan passes over a name with its closing characters doubled. -/
theorem closes_double (close : Char) (name : List Char) :
    closes close (double close name ++ [close]) = true := by
  induction name with
  | nil =>
    rw [double, List.nil_append, closes.eq_def]
    exact if_pos rfl
  | cons c name ih =>
    by_cases hc : c = close
    · subst hc
      rw [double, if_pos rfl, List.cons_append, List.cons_append, closes_doubled, ih]
    · rw [double, if_neg hc, List.cons_append, closes_cons_of_ne hc, ih]

/-- The scan finds the end of a name with its closing characters doubled. -/
theorem quotedTail_double (close : Char) (name : List Char) :
    quotedTail close (double close name ++ [close]) = double close name ++ [close] := by
  induction name with
  | nil => exact quotedTail_closed nofun
  | cons c name ih =>
    by_cases hc : c = close
    · subst hc
      rw [double, if_pos rfl, List.cons_append, List.cons_append, quotedTail_doubled, ih]
    · rw [double, if_neg hc, List.cons_append, quotedTail_cons_of_ne hc, ih]

/-- The scan stops at the end of a name with its closing characters doubled exactly if it meets the
closing character there. -/
theorem exists_double_iff {cs : List Char} :
    (∃ name, quotedTail close cs = double close name ++ [close]) ↔ closes close cs = true := by
  refine ⟨?_, exists_double_of_closes⟩
  rintro ⟨name, hname⟩
  cases hcloses : closes close cs with
  | true => rfl
  | false =>
    rw [quotedTail_of_not_closes hcloses] at hname
    rw [← hcloses, hname, closes_double]

/-- Behind an opening delimiter the lexeme runs up to and with the closing one. -/
theorem tail_opener (d : Delimiter) (rest : List Char) :
    tail d.opener rest = quotedTail d.closer rest := by
  cases d <;> rfl

theorem isBlank_opener (d : Delimiter) : Text.isBlank d.opener = false := by
  cases d <;> rfl

end Lexeme

/-! ## The readers -/

namespace Delimited

open Lexeme (Delimiter quotedTail tail pieces)

/-- A name between delimiters is one lexeme. -/
theorem all_wrap (d : Delimiter) (name : String) :
    Lexeme.all (wrap d name) = [{ text := wrap d name, start := 0 }] := by
  have htail : tail d.opener (double d.closer name.toList ++ [d.closer] ++ []) =
      double d.closer name.toList ++ [d.closer] := by
    rw [List.append_nil, Lexeme.tail_opener, Lexeme.quotedTail_double]
  have hpieces := Lexeme.pieces_cons_of_tail (Lexeme.isBlank_opener d) htail
  rw [List.append_nil, Lexeme.pieces_nil] at hpieces
  rw [Lexeme.all, wrap, String.toList_ofList, wrapChars, List.cons_append, hpieces]
  rfl

/-- The grammar takes whatever an opening delimiter begins for an identifier. -/
theorem kindOf_opener (d : Delimiter) (rest : List Char) :
    Grammar.sql.kindOf (String.ofList (d.opener :: rest)) = .identifier := by
  show Grammar.Sql.kindOf (String.ofList (d.opener :: rest)) = .identifier
  rw [Grammar.Sql.kindOf, String.toList_ofList]
  cases d <;> rfl

/-- Whatever an opening delimiter begins is a variable exactly if it spells a name in sight. -/
theorem kindIn_opener (table : NameTable) (d : Delimiter) (rest : List Char) :
    Grammar.sql.kindIn table (String.ofList (d.opener :: rest)) =
      if table.contains (strip (String.ofList (d.opener :: rest))) then .variable
      else .identifier := by
  rw [Grammar.kindIn, kindOf_opener]

/-- A name in sight is a variable if it is written between delimiters. -/
theorem tokensIn_wrap {table : NameTable} {name : String} (h : table.contains name = true)
    (d : Delimiter) :
    Grammar.sql.tokensIn table (wrap d name) =
      [{ kind := .variable, text := wrap d name, start := 0,
         stop := (wrap d name).utf8ByteSize }] := by
  have hkind : Grammar.sql.kindIn table (wrap d name) = .variable := by
    have hwrap : wrap d name =
        String.ofList (d.opener :: (double d.closer name.toList ++ [d.closer])) := rfl
    rw [hwrap, kindIn_opener, ← hwrap, strip_wrap, h]
    rfl
  rw [Grammar.tokensIn, Token.all, all_wrap, List.map_singleton, Token.ofLexeme, hkind]
  rw [Lexeme.stop, Nat.zero_add]

/-- A lexeme behind an opening delimiter is a name written between delimiters exactly if its closing
delimiter is there. -/
theorem eq_wrap_strip_iff {text : String} {l : Lexeme} (hl : l ∈ Lexeme.all text) {d : Delimiter}
    {left rest : List Char}
    (hpart : Text.part? text.toList l.start = some (left, d.opener :: rest)) :
    l.text = wrap d (strip l.text) ↔ Lexeme.closes d.closer rest = true := by
  obtain ⟨left, c, rest, hpart', htext⟩ := Lexeme.exists_of_mem_all hl
  rw [hpart, Option.some.injEq, Prod.mk.injEq, List.cons.injEq] at hpart'
  obtain ⟨rfl, rfl, rfl⟩ := hpart'
  rw [Lexeme.tail_opener] at htext
  rw [← Lexeme.exists_double_iff, htext]
  refine ⟨?_, ?_⟩
  · intro h
    generalize strip _ = name at h
    rw [wrap, String.ofList_inj, wrapChars, List.cons_append, List.cons.injEq] at h
    exact ⟨name.toList, h.2⟩
  · rintro ⟨name, hname⟩
    have hwrap : String.ofList (d.opener :: (double d.closer name ++ [d.closer])) =
        wrap d (String.ofList name) := by
      rw [wrap, wrapChars, String.toList_ofList, List.cons_append]
    rw [hname, hwrap, strip_wrap]

/-- A name between delimiters is one lexeme, spells the name and is a variable where the name is in
sight; and every lexeme that an opening delimiter begins is of this form exactly if the scan met its
closing delimiter. -/
theorem wrap_round_trip (d : Delimiter) :
    (∀ name : String,
      Lexeme.all (wrap d name) = [{ text := wrap d name, start := 0 }] ∧
        strip (wrap d name) = name ∧
        ∀ table : NameTable, table.contains name = true →
          Grammar.sql.tokensIn table (wrap d name) =
            [{ kind := .variable, text := wrap d name, start := 0,
               stop := (wrap d name).utf8ByteSize }]) ∧
      ∀ (text : String) (l : Lexeme) (left rest : List Char), l ∈ Lexeme.all text →
        Text.part? text.toList l.start = some (left, d.opener :: rest) →
          (l.text = wrap d (strip l.text) ↔ Lexeme.closes d.closer rest = true) :=
  ⟨fun name => ⟨all_wrap d name, strip_wrap d name, fun _ h => tokensIn_wrap h d⟩,
    fun _ _ _ _ hl hpart => eq_wrap_strip_iff hl hpart⟩

/-- The name `a]b` between brackets, and what is found of it in a longer text. -/
theorem wrap_round_trip_bracket :
    (NameTable.ofList .insensitive [⟨"A]b", .sheet⟩]).contains "a]b" = true ∧
      Grammar.sql.tokensIn (NameTable.ofList .insensitive [⟨"A]b", .sheet⟩])
          (wrap .bracket "a]b") =
        [{ kind := .variable, text := "[a]]b]", start := 0, stop := 6 }] ∧
      { text := "[a]]b]", start := 2 } ∈ Lexeme.all "x [a]]b] " ∧
      "[a]]b]" = wrap .bracket (strip "[a]]b]") := by
  have hname : (NameTable.ofList .insensitive [⟨"A]b", .sheet⟩]).contains "a]b" = true := by
    decide +kernel
  have hlexeme : ({ text := "[a]]b]", start := 2 } : Lexeme) ∈ Lexeme.all "x [a]]b] " := by
    decide +kernel
  refine ⟨hname, ?_, hlexeme, ?_⟩
  · exact ((wrap_round_trip .bracket).1 "a]b").2.2 _ hname
  · refine ((wrap_round_trip .bracket).2 _ _ ['x', ' '] "a]]b] ".toList hlexeme ?_).2 ?_
    · decide +kernel
    · decide +kernel

end Delimited

end QueryPad
