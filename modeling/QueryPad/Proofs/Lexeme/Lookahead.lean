import QueryPad.Lexeme.Piece

/-!
# What a lexeme sees ahead

A lexeme ends by what stands behind it, and it looks no further than two characters: a closing
quote at the next one, the sign of an exponent at the digit behind it, an operator at the comment
that may begin there. `StopsToo` says when one continuation of a text stops every scan that another
stops. Main statement: `StopsToo.tail_eq`, a lexeme is then the same before both. One reason is that
the continuations `Agrees`: they look the same from the end of a lexeme, or one is cut off there.
-/

namespace QueryPad.Lexeme

/-- A lexeme that ends before `more` finds no reason to go on before `more'` either: nothing is
there, or the same characters as far as it looks. -/
structure Agrees (more more' : List Char) : Prop where
  head? : more' = [] ∨ more'.head? = more.head?
  second? : more'.tail = [] ∨ more'.tail.head? = more.tail.head?
  opensComment : more' ≠ [] → opensComment more = true → opensComment more' = true

variable {more more' : List Char}

/-- The end of the text agrees with everything. -/
theorem agrees_nil (more : List Char) : Agrees more [] :=
  ⟨.inl rfl, .inl rfl, fun h => (h rfl).elim⟩

theorem opensLineComment_iff {cs : List Char} :
    opensLineComment cs = true ↔ ∃ rest, cs = '-' :: '-' :: rest := by
  unfold opensLineComment
  split
  · exact ⟨fun _ => ⟨_, rfl⟩, fun _ => rfl⟩
  · next hnot =>
    refine ⟨?_, ?_⟩
    · intro h
      cases h
    · rintro ⟨rest, h⟩
      exact (hnot rest h).elim

theorem opensBlockComment_iff {cs : List Char} :
    opensBlockComment cs = true ↔ ∃ rest, cs = '/' :: '*' :: rest := by
  unfold opensBlockComment
  split
  · exact ⟨fun _ => ⟨_, rfl⟩, fun _ => rfl⟩
  · next hnot =>
    refine ⟨?_, ?_⟩
    · intro h
      cases h
    · rintro ⟨rest, h⟩
      exact (hnot rest h).elim

/-- What begins a comment. -/
theorem opensComment_iff {cs : List Char} :
    opensComment cs = true ↔ (∃ rest, cs = '-' :: '-' :: rest) ∨ ∃ rest, cs = '/' :: '*' :: rest := by
  rw [opensComment, Bool.or_eq_true, opensLineComment_iff, opensBlockComment_iff]

/-- Two characters tell whether a comment begins. -/
theorem opensComment_cons_cons (c d : Char) (cs ds : List Char) :
    opensComment (c :: d :: cs) = opensComment (c :: d :: ds) := by
  rw [Bool.eq_iff_iff, opensComment_iff, opensComment_iff]
  simp only [List.cons.injEq, exists_and_left, exists_eq', and_true]

/-- A single character begins no comment. -/
@[simp] theorem opensComment_singleton (c : Char) : opensComment [c] = false := by
  rw [← Bool.not_eq_true, opensComment_iff]
  rintro (⟨_, h⟩ | ⟨_, h⟩) <;> cases h

/-- Two texts that begin with the same two characters agree. -/
theorem agrees_cons_cons (c d : Char) (cs ds : List Char) :
    Agrees (c :: d :: cs) (c :: d :: ds) :=
  ⟨.inr rfl, .inr rfl, fun _ h => opensComment_cons_cons c d cs ds ▸ h⟩

/-- A text that begins no comment agrees with its first character alone. -/
theorem agrees_singleton {c : Char} {cs : List Char} (h : opensComment (c :: cs) = false) :
    Agrees (c :: cs) [c] :=
  ⟨.inr rfl, .inl rfl, by
    intro _ hcs
    rw [h] at hcs
    cases hcs⟩

/-- Nothing but the end of the text agrees with it. -/
theorem Agrees.eq_nil (h : Agrees [] more') : more' = [] := by
  rcases h.head? with h | h
  · exact h
  · exact List.head?_eq_none_iff.1 h

/-- What agrees with a text that goes on is the end of the text or goes on as well. -/
theorem Agrees.eq_nil_or_cons {d : Char} {ds : List Char} (h : Agrees (d :: ds) more') :
    more' = [] ∨ ∃ es, more' = d :: es ∧ (es = [] ∨ es.head? = ds.head?) := by
  cases more' with
  | nil => exact .inl rfl
  | cons e es =>
    refine .inr ⟨es, ?_, h.second?⟩
    rcases h.head? with h | h
    · cases h
    · rw [Option.some.inj h]

/-! ## What stops a scan -/

/-- Every scan that stops before `more` stops before `more'` as well. -/
structure StopsToo (more more' : List Char) : Prop where
  /-- Only the end of the text stops what is not closed. -/
  eq_nil : more = [] → more' = []
  /-- Every scan stops at a line break. -/
  head?_eq : ∀ d, more'.head? = some d → d ≠ '\n' → more.head? = some d
  numberTail_eq_nil : ∀ previous, numberTail previous more = [] → numberTail previous more' = []
  operatorTail_eq_nil : operatorTail more = [] → operatorTail more' = []

/-- Where no comment begins at a character, none does if another continuation follows it. -/
theorem StopsToo.opensComment_cons (hstop : StopsToo more more') {c : Char} {t : List Char}
    (h : Lexeme.opensComment (c :: (t ++ more)) = false) :
    Lexeme.opensComment (c :: (t ++ more')) = false := by
  cases t with
  | cons d ds => exact opensComment_cons_cons c d _ (ds ++ more) ▸ h
  | nil =>
    rw [List.nil_append] at h ⊢
    cases more' with
    | nil => exact opensComment_singleton c
    | cons d es =>
      by_cases hd : d = '\n'
      · subst hd
        rw [← Bool.not_eq_true, opensComment_iff]
        rintro (⟨_, heq⟩ | ⟨_, heq⟩) <;> cases heq
      · obtain ⟨ds, rfl⟩ := List.head?_eq_some_iff.1 (hstop.head?_eq d rfl hd)
        exact opensComment_cons_cons c d es ds ▸ h

/-! ## Stretches of one class -/

/-- A stretch of characters of a class ends at the same place. -/
theorem StopsToo.takeWhile_eq (hstop : StopsToo more more') {p : Char → Bool}
    (hp : p '\n' = false) {t : List Char} (h : (t ++ more).takeWhile p = t) :
    (t ++ more').takeWhile p = t := by
  induction t with
  | nil =>
    rw [List.nil_append] at h ⊢
    cases more' with
    | nil => rfl
    | cons d es =>
      refine List.takeWhile_cons_of_neg ?_
      intro hd
      have hne : d ≠ '\n' := by
        rintro rfl
        rw [hp] at hd
        cases hd
      obtain ⟨ds, rfl⟩ := List.head?_eq_some_iff.1 (hstop.head?_eq d rfl hne)
      rw [List.takeWhile_cons_of_pos hd] at h
      cases h
  | cons c t ih =>
    rw [List.cons_append, List.takeWhile_cons] at h ⊢
    split at h
    · next hc => rw [if_pos hc, ih (List.cons.inj h).2]
    · cases h

/-! ## Quotes and comments -/

theorem quotedTail_eq_nil_iff {close : Char} {cs : List Char} :
    quotedTail close cs = [] ↔ cs = [] := by
  refine ⟨?_, ?_⟩
  · intro h
    unfold quotedTail at h
    split at h
    · rfl
    · split at h
      · split at h
        · cases h
        · split at h <;> cases h
      · cases h
  · intro h
    rw [h, quotedTail]

/-- A string or a delimited name ends at the same place. -/
theorem StopsToo.quotedTail_eq (hstop : StopsToo more more') {close : Char} (hclose : close ≠ '\n') :
    ∀ {t : List Char}, quotedTail close (t ++ more) = t → quotedTail close (t ++ more') = t
  | [], h => by
    rw [List.nil_append] at h ⊢
    rw [quotedTail_eq_nil_iff] at h ⊢
    exact hstop.eq_nil h
  | [c], h => by
    rw [List.singleton_append] at h ⊢
    by_cases hc : c = close
    · subst hc
      refine quotedTail_closed ?_
      intro hmore'
      obtain ⟨ds, rfl⟩ := List.head?_eq_some_iff.1 (hstop.head?_eq c hmore' hclose)
      rw [quotedTail_doubled] at h
      cases h
    · rw [quotedTail_cons_of_ne hc, List.cons.injEq, quotedTail_eq_nil_iff] at h ⊢
      exact ⟨rfl, hstop.eq_nil h.2⟩
  | c :: d :: ds, h => by
    simp only [List.cons_append] at h ⊢
    by_cases hc : c = close
    · subst hc
      by_cases hd : d = c
      · subst hd
        rw [quotedTail_doubled, List.cons.injEq, List.cons.injEq] at h ⊢
        exact ⟨rfl, rfl, hstop.quotedTail_eq hclose h.2.2⟩
      · have hhead : (d :: (ds ++ more)).head? ≠ some c := fun heq => hd (Option.some.inj heq)
        rw [quotedTail_closed hhead] at h
        cases h
    · rw [quotedTail_cons_of_ne hc, List.cons.injEq] at h ⊢
      exact ⟨rfl, hstop.quotedTail_eq hclose (t := d :: ds) h.2⟩

theorem commentTail_eq_nil_iff {cs : List Char} : commentTail cs = [] ↔ cs = [] := by
  refine ⟨?_, ?_⟩
  · intro h
    unfold commentTail at h
    split at h
    · cases h
    · cases h
    · rfl
  · intro h
    rw [h, commentTail]

/-- A comment ends at the same place. -/
theorem StopsToo.commentTail_eq (hstop : StopsToo more more') : ∀ {t : List Char},
    commentTail (t ++ more) = t → commentTail (t ++ more') = t
  | [], h => by
    rw [List.nil_append] at h ⊢
    rw [commentTail_eq_nil_iff] at h ⊢
    exact hstop.eq_nil h
  | [c], h => by
    rw [List.singleton_append] at h ⊢
    by_cases hc : c = '*' ∧ more.head? = some '/'
    · obtain ⟨rfl, hmore⟩ := hc
      obtain ⟨ds, rfl⟩ := List.head?_eq_some_iff.1 hmore
      rw [commentTail_closed] at h
      cases h
    · rw [commentTail_cons hc, List.cons.injEq, commentTail_eq_nil_iff] at h
      rw [hstop.eq_nil h.2]
      have hend : ¬ (c = '*' ∧ ([] : List Char).head? = some '/') := by
        rintro ⟨-, hmore⟩
        cases hmore
      rw [commentTail_cons hend, commentTail]
  | c :: d :: ds, h => by
    simp only [List.cons_append] at h ⊢
    by_cases hc : c = '*' ∧ d = '/'
    · obtain ⟨rfl, rfl⟩ := hc
      rw [commentTail_closed] at h ⊢
      exact h
    · have hopen (cs : List Char) : ¬ (c = '*' ∧ (d :: cs).head? = some '/') := by
        rintro ⟨hstar, hslash⟩
        exact hc ⟨hstar, Option.some.inj hslash⟩
      rw [commentTail_cons (hopen _), List.cons.injEq] at h ⊢
      exact ⟨rfl, hstop.commentTail_eq (t := d :: ds) h.2⟩

/-! ## Numbers -/

/-- Without a character behind it a sign is no sign of an exponent. -/
theorem isExponentSign_nil (previous c : Char) : isExponentSign previous c [] = false := by
  simp [isExponentSign]

/-- One character behind a sign tells whether it is one of an exponent. -/
theorem isExponentSign_congr {cs ds : List Char} (h : cs.head? = ds.head?) (previous c : Char) :
    isExponentSign previous c cs = isExponentSign previous c ds := by
  rw [isExponentSign, isExponentSign, h]

/-- A number ends at the same place. -/
theorem StopsToo.numberTail_eq (hstop : StopsToo more more') {t : List Char} {previous : Char}
    (h : numberTail previous (t ++ more) = t) : numberTail previous (t ++ more') = t := by
  induction t generalizing previous with
  | nil => exact hstop.numberTail_eq_nil previous h
  | cons c t ih =>
    rw [List.cons_append, numberTail] at h ⊢
    split at h
    · next hgo =>
      obtain ⟨-, h⟩ := List.cons.inj h
      rw [ih h, if_pos]
      rw [Bool.or_eq_true] at hgo ⊢
      refine hgo.imp_right fun hsign => ?_
      cases t with
      | cons d ds =>
        have hhead : (d :: ds ++ more).head? = (d :: ds ++ more').head? := rfl
        rwa [isExponentSign_congr hhead] at hsign
      | nil =>
        -- The digit behind the sign would go on with the number, which ends here.
        rw [List.nil_append] at h hsign
        rw [isExponentSign, Bool.and_eq_true, Option.any_eq_true] at hsign
        obtain ⟨-, d, hmore, hdigit⟩ := hsign
        obtain ⟨ds, rfl⟩ := List.head?_eq_some_iff.1 hmore
        have hpart : isNumberPart d = true := by
          simp [isNumberPart, Char.isAlphanum, hdigit]
        rw [numberTail, hpart, Bool.true_or, if_pos rfl] at h
        cases h
    · cases h

/-! ## Operators -/

/-- An operator ends at the same place. -/
theorem StopsToo.operatorTail_eq (hstop : StopsToo more more') {t : List Char}
    (h : operatorTail (t ++ more) = t) : operatorTail (t ++ more') = t := by
  induction t with
  | nil => exact hstop.operatorTail_eq_nil h
  | cons c t ih =>
    rw [List.cons_append, operatorTail] at h ⊢
    split at h
    · next hgo =>
      obtain ⟨-, h⟩ := List.cons.inj h
      rw [ih h, if_pos]
      rw [Bool.and_eq_true, Bool.not_eq_true'] at hgo ⊢
      exact ⟨hgo.1, hstop.opensComment_cons hgo.2⟩
    · cases h

/-! ## Lexemes -/

theorem tail_lineComment (rest : List Char) :
    tail '-' ('-' :: rest) = '-' :: rest.takeWhile (· ≠ '\n') := rfl

theorem tail_blockComment (rest : List Char) :
    tail '/' ('*' :: rest) = '*' :: commentTail rest := rfl

/-- A comment is longer than its first character. -/
theorem tail_ne_nil_of_opensComment {c : Char} {rest : List Char}
    (h : opensComment (c :: rest) = true) : tail c rest ≠ [] := by
  rcases opensComment_iff.1 h with ⟨cs, heq⟩ | ⟨cs, heq⟩
  · cases heq
    rw [tail_lineComment]
    exact List.cons_ne_nil _ _
  · cases heq
    rw [tail_blockComment]
    exact List.cons_ne_nil _ _

/-- But for comments, a character opens the same whatever follows it. -/
theorem opening_of_not_opensComment {c : Char} {rest : List Char}
    (h : opensComment (c :: rest) = false) : opening c rest = opening c [] := by
  have hend := opensComment_singleton c
  rw [opensComment, Bool.or_eq_false_iff] at h hend
  simp only [opening, h, hend, Bool.false_eq_true, if_false]

/-- A lexeme is of the same shape before a continuation that stops every scan that its own stops. -/
theorem StopsToo.opening_eq (hstop : StopsToo more more') {c : Char} {t : List Char}
    (h : tail c (t ++ more) = t) : opening c (t ++ more') = opening c (t ++ more) := by
  cases hcomment : opensComment (c :: (t ++ more)) with
  | false =>
    rw [opening_of_not_opensComment hcomment,
      opening_of_not_opensComment (hstop.opensComment_cons hcomment)]
  | true =>
    have hne : t ≠ [] := h ▸ tail_ne_nil_of_opensComment hcomment
    obtain ⟨d, ds, rfl⟩ := List.exists_cons_of_ne_nil hne
    rcases opensComment_iff.1 hcomment with ⟨cs, heq⟩ | ⟨cs, heq⟩
    · cases heq
      rfl
    · cases heq
      rfl

/-- The characters that close strings and delimited names. -/
theorem mem_of_opening_quoted {c close : Char} {rest : List Char}
    (h : opening c rest = .quoted close) : close ∈ [stringQuote, '\x22', '\x60', ']'] := by
  unfold opening at h
  split at h
  · cases h
  split at h
  · cases h
  split at h
  · cases h
    decide
  split at h
  · next delimiter _ =>
    cases h
    cases delimiter <;> decide
  · split at h
    · cases h
    split at h
    · cases h
    split at h <;> cases h

/-- No lexeme is closed by a line break. -/
theorem ne_newline_of_opening_quoted {c close : Char} {rest : List Char}
    (h : opening c rest = .quoted close) : close ≠ '\n' := by
  have hnot : '\n' ∉ [stringQuote, '\x22', '\x60', ']'] := by decide
  rintro rfl
  exact hnot (mem_of_opening_quoted h)

/-- A lexeme is the same before a continuation that stops every scan that its own stops. -/
theorem StopsToo.tail_eq (hstop : StopsToo more more') {c : Char} {t : List Char}
    (h : tail c (t ++ more) = t) : tail c (t ++ more') = t := by
  have hopening := hstop.opening_eq h
  rw [tail] at h ⊢
  rw [hopening]
  cases hopen : opening c (t ++ more) with
  | lineComment =>
    rw [hopen] at h
    exact hstop.takeWhile_eq rfl h
  | blockComment =>
    rw [hopen] at h
    cases t with
    | nil =>
      cases more with
      | nil => rwa [hstop.eq_nil rfl]
      | cons d ds => cases h
    | cons d ds =>
      have htail : commentTail (ds ++ more) = ds := (List.cons.inj h).2
      exact congrArg (d :: ·) (hstop.commentTail_eq htail)
  | quoted close =>
    rw [hopen] at h
    exact hstop.quotedTail_eq (ne_newline_of_opening_quoted hopen) h
  | number =>
    rw [hopen] at h
    exact hstop.numberTail_eq h
  | word =>
    rw [hopen] at h
    exact hstop.takeWhile_eq rfl h
  | operator =>
    rw [hopen] at h
    exact hstop.operatorTail_eq h
  | single =>
    rw [hopen] at h
    exact h

/-! ## Continuations that look the same -/

/-- A continuation that agrees with another stops what that one stops. -/
theorem Agrees.stopsToo (hagree : Agrees more more') : StopsToo more more' where
  eq_nil h := by
    subst h
    exact hagree.eq_nil
  head?_eq d hd _ := by
    rcases hagree.head? with rfl | hhead
    · cases hd
    · rw [← hhead, hd]
  numberTail_eq_nil previous h := by
    cases more with
    | nil => rwa [hagree.eq_nil]
    | cons d ds =>
      rcases hagree.eq_nil_or_cons with rfl | ⟨es, rfl, hes⟩
      · rfl
      · rw [numberTail] at h ⊢
        split at h
        · cases h
        · next hstop =>
          refine if_neg fun hgo => hstop ?_
          rw [Bool.or_eq_true] at hgo ⊢
          refine hgo.imp_right fun hsign => ?_
          rcases hes with rfl | hhead
          · rw [isExponentSign_nil] at hsign
            cases hsign
          · rwa [← isExponentSign_congr hhead]
  operatorTail_eq_nil h := by
    cases more with
    | nil => rwa [hagree.eq_nil]
    | cons d ds =>
      rcases hagree.eq_nil_or_cons with rfl | ⟨es, rfl, -⟩
      · rfl
      · rw [operatorTail] at h ⊢
        split at h
        · cases h
        · next hstop =>
          refine if_neg fun hgo => hstop ?_
          rw [Bool.and_eq_true, Bool.not_eq_true'] at hgo ⊢
          refine ⟨hgo.1, Bool.eq_false_iff.2 fun hcomment => ?_⟩
          rw [hagree.opensComment (List.cons_ne_nil _ _) hcomment] at hgo
          cases hgo.2

end QueryPad.Lexeme
