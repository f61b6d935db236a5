import KeyJoin.Proofs.StatementMargins

/-!
# Spans of tokens

The tokens of a statement account for all of it.  Their spans follow one
another, none of them splits a character, each spells its token, and what lies
outside them is white space.  A word cannot be made longer on either side.  So
a run of tokens can be cut out of the statement and read again by itself: the
same tokens come back, moved to the front.

Positions count bytes, and the bytes are those of the text itself: a position
between two characters is one that the library's strings call valid.
-/

namespace KeyJoin

variable {position : Nat} {tokens : List Token} {text : List Char}

/-! ## White space and words -/

/-- Whether no interval of the first list has a code point in common with one of the second. -/
def rangesApart (first second : List (Nat × Nat)) : Bool :=
  first.all fun a => second.all fun b => decide (a.2 < b.1) || decide (b.2 < a.1)

theorem exists_range_of_inRanges {ranges : List (Nat × Nat)} {n : Nat}
    (h : inRanges ranges n = true) : ∃ range ∈ ranges, range.1 ≤ n ∧ n ≤ range.2 := by
  induction ranges with
  | nil => cases h
  | cons range ranges ih =>
      unfold inRanges at h
      by_cases hbelow : n < range.1
      · simp [hbelow] at h
      · by_cases hwithin : n ≤ range.2
        · exact ⟨range, List.mem_cons_self, by omega, hwithin⟩
        · simp only [hbelow, hwithin, if_false] at h
          obtain ⟨other, hmem, hbounds⟩ := ih h
          exact ⟨other, List.mem_cons_of_mem range hmem, hbounds⟩

theorem inRanges_eq_false_of_rangesApart {first second : List (Nat × Nat)} {n : Nat}
    (hapart : rangesApart first second = true) (h : inRanges first n = true) :
    inRanges second n = false := by
  by_contra hsecond
  obtain ⟨a, ha, hlow, hhigh⟩ := exists_range_of_inRanges h
  obtain ⟨b, hb, hlow', hhigh'⟩ := exists_range_of_inRanges (Bool.not_eq_false _ ▸ hsecond)
  have hdisjoint := List.all_eq_true.mp (List.all_eq_true.mp hapart a ha) b hb
  simp only [Bool.or_eq_true, decide_eq_true_eq] at hdisjoint
  omega

/-- No white space is part of a word. -/
theorem isWordCharacter_of_isBlank {c : Char} (h : isBlank c = true) :
    isWordCharacter c = false := by
  have hapart : rangesApart blankRanges alphanumericRanges = true := by
    decide +kernel
  have halphanumeric : isAlphanumeric c = false := inRanges_eq_false_of_rangesApart hapart h
  have hunderscore : c ≠ '_' := by
    rintro rfl
    have hnot : isBlank '_' = false := by
      decide
    rw [hnot] at h
    cases h
  simp [isWordCharacter, halphanumeric, hunderscore]

theorem startsWord_cons (c : Char) (text : List Char) :
    startsWord (c :: text) = isWordCharacter c := by
  cases hblank : isBlank c with
  | true => simp [startsWord, hblank, isWordCharacter_of_isBlank hblank]
  | false => simp [startsWord, hblank]

/-! ## Slices of a text -/

theorem byteLength_eq_utf8ByteSize (text : List Char) :
    byteLength text = (String.ofList text).utf8ByteSize := by
  induction text with
  | nil => rfl
  | cons c text ih =>
      have hsplit : String.ofList (c :: text) = String.singleton c ++ String.ofList text := by
        rw [String.singleton_eq_ofList, ← String.ofList_append]
        rfl
      rw [byteLength_cons, ih, hsplit, String.utf8ByteSize_append, String.utf8ByteSize_singleton]

/-- The bytes of the text from `start` to `stop` are those of the part, and either end lies between
two characters. -/
structure IsSlice (text : String) (start stop : Nat) (part : List Char) : Prop where
  start_valid : String.Pos.Raw.IsValid text ⟨start⟩
  stop_valid : String.Pos.Raw.IsValid text ⟨stop⟩
  bytes : text.toByteArray.extract start stop = (String.ofList part).toByteArray

theorem isValid_byteLength {text : String} {before after : List Char}
    (htext : text.toList = before ++ after) :
    String.Pos.Raw.IsValid text ⟨byteLength before⟩ := by
  apply String.Pos.Raw.isValid_iff_exists_append.mpr
  refine ⟨String.ofList before, String.ofList after, ?_, ?_⟩
  · rw [← String.ofList_append, ← htext, String.ofList_toList]
  · rw [byteLength_eq_utf8ByteSize]
    rfl

theorem isSlice_of_toList_eq {text : String} {before part after : List Char}
    (htext : text.toList = before ++ (part ++ after)) :
    IsSlice text (byteLength before) (byteLength (before ++ part)) part := by
  have hcut : text.toList = (before ++ part) ++ after := by
    rw [htext, List.append_assoc]
  refine ⟨isValid_byteLength htext, isValid_byteLength hcut, ?_⟩
  have hbytes : text.toByteArray =
      (String.ofList before).toByteArray ++
        ((String.ofList part).toByteArray ++ (String.ofList after).toByteArray) := by
    rw [← String.toByteArray_append, ← String.toByteArray_append, ← String.ofList_append,
      ← String.ofList_append, ← htext, String.ofList_toList]
  have hsize (piece : List Char) :
      byteLength piece = (String.ofList piece).toByteArray.size := by
    rw [byteLength_eq_utf8ByteSize, String.size_toByteArray]
  rw [hbytes, byteLength_append, hsize before, hsize part]
  exact (ByteArray.extract_append_size_add (i := 0)).trans (ByteArray.extract_append_eq_left rfl)

/-! ## Where a token stands -/

/-- The kind cannot be had from a longer text: a word is kept from growing on either side, and
anything else is a single character. -/
def TokenKind.IsMaximalBetween (before after : List Char) : TokenKind → Prop
  | word text =>
    (∀ c ∈ text, isWordCharacter c = true) ∧
      (∀ c ∈ before.getLast?, isWordCharacter c = false) ∧
      ∀ c ∈ after.head?, isWordCharacter c = false
  | kind => ∃ c, kind = ofMark c ∧ kind.text = [c] ∧ isWordCharacter c = false

/-- The token spells what stands between two parts of a text that begins at `position`. -/
structure Token.StandsBetween (token : Token) (position : Nat) (before after : List Char) :
    Prop where
  start : token.start = position + byteLength before
  stop : token.stop = token.start + byteLength token.kind.text
  lexeme : token.kind.IsLexeme
  maximal : token.kind.IsMaximalBetween before after

theorem Token.StandsBetween.start_lt_stop {token : Token} {before after : List Char}
    (h : token.StandsBetween position before after) : token.start < token.stop := by
  have hpos := byteLength_pos_of_ne_nil h.lexeme.text_ne_nil
  have hstop := h.stop
  omega

theorem not_isWordCharacter_getLast?_of_isBlankText {gap : List Char} (hgap : IsBlankText gap) :
    ∀ c ∈ gap.getLast?, isWordCharacter c = false := by
  intro c hc
  exact isWordCharacter_of_isBlank (hgap c (List.mem_of_getLast? hc))

theorem not_isWordCharacter_head?_of_startsWord (h : startsWord text = false) :
    ∀ c ∈ text.head?, isWordCharacter c = false := by
  intro c hc
  cases text with
  | nil => cases hc
  | cons d rest =>
      cases hc
      rwa [startsWord_cons] at h

theorem TokenKind.IsLexeme.isMaximalBetween {kind : TokenKind} (hkind : kind.IsLexeme)
    {before after : List Char}
    (hbefore : ∀ word, kind = .word word → ∀ c ∈ before.getLast?, isWordCharacter c = false)
    (hafter : ∀ word, kind = .word word → startsWord after = false) :
    kind.IsMaximalBetween before after := by
  cases kind with
  | word word =>
      refine ⟨fun c hc => (hkind.2 c hc).2, hbefore word rfl, ?_⟩
      exact not_isWordCharacter_head?_of_startsWord (hafter word rfl)
  | _ =>
      obtain ⟨c, hc, -, hword⟩ := hkind
      exact ⟨c, hc, by rw [hc, TokenKind.text_ofMark], hword⟩

theorem TokenKind.IsMaximalBetween.append_left {kind : TokenKind} {lead before after : List Char}
    (h : kind.IsMaximalBetween before after)
    (hlead : before = [] → ∀ word, kind = .word word →
      ∀ c ∈ lead.getLast?, isWordCharacter c = false) :
    kind.IsMaximalBetween (lead ++ before) after := by
  cases kind with
  | word word =>
      refine ⟨h.1, ?_, h.2.2⟩
      by_cases hnil : before = []
      · rw [hnil, List.append_nil]
        exact hlead hnil word rfl
      · rw [List.getLast?_append_of_ne_nil _ hnil]
        exact h.2.1
  | _ => exact h

/-- A word that stands at once behind a token has no word before it. -/
theorem TokenKind.IsLexeme.not_isWordCharacter_getLast? {kind : TokenKind}
    (hkind : kind.IsLexeme) (hapart : ∀ word, kind = .word word → startsWord text = false)
    {word after : List Char} (hword : (TokenKind.word word).IsLexeme)
    (htext : text = word ++ after) :
    ∀ c ∈ kind.text.getLast?, isWordCharacter c = false := by
  cases kind with
  | word first =>
      have hstart := hapart first rfl
      rw [htext] at hstart
      cases word with
      | nil => exact absurd rfl hword.1
      | cons d word =>
          have hd := (hword.2 d List.mem_cons_self).2
          rw [List.cons_append, startsWord_cons, hd] at hstart
          cases hstart
  | _ =>
      obtain ⟨c, hc, -, hmark⟩ := hkind
      rw [hc, TokenKind.text_ofMark]
      simpa using hmark

theorem Layout.exists_standsBetween (h : Layout position tokens text) :
    ∀ token ∈ tokens, ∃ before after, text = before ++ (token.kind.text ++ after) ∧
      token.StandsBetween position before after := by
  induction h with
  | blank => simp
  | @token position start stop tokens text gap kind hgap hkind hstart hstop apart rest ih =>
      intro token hmem
      rcases List.mem_cons.mp hmem with rfl | hmem
      · refine ⟨gap, text, rfl, hstart, hstop, hkind, ?_⟩
        exact hkind.isMaximalBetween
          (fun _ _ => not_isWordCharacter_getLast?_of_isBlankText hgap) apart
      · obtain ⟨before, after, htext, hbetween⟩ := ih token hmem
        refine ⟨gap ++ (kind.text ++ before), after, by simp [htext], ?_, hbetween.stop,
          hbetween.lexeme, ?_⟩
        · have hnext := hbetween.start
          simp only [byteLength_append]
          omega
        · rw [← List.append_assoc]
          apply hbetween.maximal.append_left
          rintro rfl word hword c hc
          rw [List.getLast?_append_of_ne_nil _ hkind.text_ne_nil] at hc
          have hlexeme := hbetween.lexeme
          rw [hword] at hlexeme htext
          exact hkind.not_isWordCharacter_getLast? apart hlexeme htext c hc

/-! ## The order of the tokens -/

theorem Layout.position_le_start (h : Layout position tokens text) :
    ∀ token ∈ tokens, position ≤ token.start := by
  intro token hmem
  obtain ⟨before, after, -, hbetween⟩ := h.exists_standsBetween token hmem
  have hstart := hbetween.start
  omega

theorem Layout.pairwise_stop_le_start (h : Layout position tokens text) :
    tokens.Pairwise fun token next => token.stop ≤ next.start := by
  induction h with
  | blank => exact List.Pairwise.nil
  | token gap kind hgap hkind hstart hstop apart rest ih =>
      exact List.pairwise_cons.mpr ⟨rest.position_le_start, ih⟩

/-- A text that is cut in two ways: a character of it lies in the first part or in the second. -/
theorem exists_of_append_eq_append_cons {α : Type} {a b before after : List α} {c : α}
    (h : a ++ b = before ++ c :: after) :
    (∃ rest, a = before ++ c :: rest) ∨ ∃ lead, before = a ++ lead ∧ b = lead ++ c :: after := by
  rcases List.append_eq_append_iff.mp h with ⟨lead, hbefore, hb⟩ | ⟨rest, ha, hrest⟩
  · exact .inr ⟨lead, hbefore, hb⟩
  · cases rest with
    | nil => exact .inr ⟨[], by simpa using ha.symm, by simpa using hrest.symm⟩
    | cons d rest =>
        cases hrest
        exact .inl ⟨rest, ha⟩

/-- What lies outside the spans is white space. -/
theorem Layout.isBlank_of_outside (h : Layout position tokens text) {before after : List Char}
    {c : Char} (htext : text = before ++ c :: after)
    (houtside : ∀ token ∈ tokens, ¬ (token.start ≤ position + byteLength before ∧
      position + byteLength before < token.stop)) :
    isBlank c = true := by
  induction h generalizing before with
  | blank hgap =>
      apply hgap
      simp [htext]
  | @token position start stop tokens text gap kind hgap hkind hstart hstop apart rest ih =>
      rcases exists_of_append_eq_append_cons htext with ⟨tail, rfl⟩ | ⟨lead, rfl, hcore⟩
      · exact hgap c (by simp)
      · have hfirst := houtside _ List.mem_cons_self
        simp only [byteLength_append] at hfirst houtside
        rcases exists_of_append_eq_append_cons hcore with ⟨tail, hspelled⟩ | ⟨next, rfl, hrest⟩
        · -- the character is one of the token's own
          have hc := c.utf8Size_pos
          rw [hspelled, byteLength_append, byteLength_cons] at hstop
          omega
        · apply ih hrest
          intro token hmem
          have hlater := houtside token (List.mem_cons_of_mem _ hmem)
          rw [byteLength_append] at hlater
          omega

/-! ## Cutting and reading again -/

/-- The run of tokens is cut out of the statement between two positions: it begins and ends with
them, no character is split there, and the text between them, read by itself, has the tokens of the
run, with their positions counted from the first of the two. -/
structure IsCutOut (statement : String) (run : List Token) (start stop : Nat) : Prop where
  first : ∀ token ∈ run.head?, token.start = start
  last : ∀ token ∈ run.getLast?, token.stop = stop
  slice : IsSlice statement start stop (spanText statement.toList run)
  tokens : (tokenize (spanText statement.toList run)).map (Token.shift start) = run

theorem isCutOut_nil (statement : String) : IsCutOut statement [] 0 0 := by
  have htext : statement.toList = [] ++ ([] ++ statement.toList) := rfl
  have hslice := isSlice_of_toList_eq htext
  exact ⟨by simp, by simp, hslice, rfl⟩

theorem Layout.start_head? (h : Layout position tokens text) (htext : Unpadded text) :
    ∀ token ∈ tokens.head?, token.start = position := by
  intro token hmem
  cases h with
  | blank => cases hmem
  | token gap kind hgap hkind hstart hstop apart rest =>
      cases hmem
      have hnil := eq_nil_of_blank_append htext hgap
      rw [hstart, hnil]
      rfl

theorem TightLayout.stop_getLast? (h : TightLayout position tokens text) :
    ∀ token ∈ tokens.getLast?, token.stop = position + byteLength text := by
  intro token hmem
  have hstop := h.stop
  rw [Option.mem_def] at hmem
  simpa [stopFrom, hmem] using hstop

theorem isCutOut_of_tokenize_eq {statement : String} {before run after : List Token}
    (htokens : tokenize statement.toList = before ++ (run ++ after)) (hrun : run ≠ []) :
    ∃ start stop, IsCutOut statement run start stop := by
  have hlayout : Layout 0 (before ++ (run ++ after)) statement.toList := by
    rw [← htokens]
    exact layout_tokensFrom 0 statement.toList
  obtain ⟨lead, rest, hstatement, -, hrest⟩ := hlayout.split
  obtain ⟨piece, trail, rfl, hpiece, -⟩ := hrest.split
  rw [Nat.zero_add] at hpiece
  obtain ⟨gap, span, hspan, rfl, -, hrun', -, hunpadded⟩ := hpiece.span hrun trail
  rw [← hstatement] at hspan
  have htext : statement.toList = (lead ++ gap) ++ (span ++ trail) := by
    rw [hstatement]
    simp only [List.append_assoc]
  have hslice := isSlice_of_toList_eq htext
  refine ⟨byteLength (lead ++ gap), byteLength ((lead ++ gap) ++ span), ?_, ?_, ?_, ?_⟩
  · exact hrun'.start_head? hunpadded
  · rw [byteLength_append (lead ++ gap)]
    exact (hrun'.tight_of_unpadded hunpadded).stop_getLast?
  · rwa [hspan]
  · have hmoved := tokensFrom_shift 0 (byteLength (lead ++ gap)) span
    rw [Nat.zero_add, hrun'.tokensFrom_eq] at hmoved
    rw [hspan]
    exact hmoved.symm

/-- The token is one of the statement: its bytes there are its text, which holds no white space,
and a longer text there is no token. -/
structure Token.IsFoundIn (token : Token) (statement : String) : Prop where
  start_lt_stop : token.start < token.stop
  slice : IsSlice statement token.start token.stop token.kind.text
  shown : ∀ c ∈ token.kind.text, isBlank c = false
  maximal : ∃ before after, statement.toList = before ++ (token.kind.text ++ after) ∧
    byteLength before = token.start ∧ token.kind.IsMaximalBetween before after

theorem Token.StandsBetween.isFoundIn {token : Token} {statement : String}
    {before after : List Char} (h : token.StandsBetween 0 before after)
    (hstatement : statement.toList = before ++ (token.kind.text ++ after)) :
    token.IsFoundIn statement := by
  have hstart : byteLength before = token.start := by
    have hstart := h.start
    omega
  have hstop : byteLength (before ++ token.kind.text) = token.stop := by
    have hstop := h.stop
    rw [byteLength_append]
    omega
  have hslice := isSlice_of_toList_eq hstatement
  rw [hstart, hstop] at hslice
  exact ⟨h.start_lt_stop, hslice, h.lexeme.not_blank, before, after, hstatement, hstart, h.maximal⟩

/-- Tokenizing loses nothing of a statement, and any run of its tokens can be cut out and read
again. -/
theorem tokenize_lossless (statement : String) :
    (∀ token ∈ tokenize statement.toList, token.IsFoundIn statement) ∧
    ((tokenize statement.toList).Pairwise fun token next =>
      token.start < next.start ∧ token.stop ≤ next.start) ∧
    (∀ before c after, statement.toList = before ++ c :: after →
      (∀ token ∈ tokenize statement.toList,
        ¬ (token.start ≤ byteLength before ∧ byteLength before < token.stop)) →
      isBlank c = true) ∧
    ∀ run, run <:+: tokenize statement.toList →
      ∃ start stop, IsCutOut statement run start stop := by
  have hlayout : Layout 0 (tokenize statement.toList) statement.toList :=
    layout_tokensFrom 0 statement.toList
  have hfound : ∀ token ∈ tokenize statement.toList, token.IsFoundIn statement := by
    intro token hmem
    obtain ⟨before, after, hstatement, hbetween⟩ := hlayout.exists_standsBetween token hmem
    exact hbetween.isFoundIn hstatement
  refine ⟨hfound, ?_, ?_, ?_⟩
  · apply hlayout.pairwise_stop_le_start.imp_of_mem
    intro token next hmem hnext hle
    have hlt := (hfound token hmem).start_lt_stop
    exact ⟨by omega, hle⟩
  · intro before c after hstatement houtside
    apply hlayout.isBlank_of_outside hstatement
    simpa only [Nat.zero_add] using houtside
  · rintro run ⟨before, after, htokens⟩
    by_cases hrun : run = []
    · rw [hrun]
      exact ⟨0, 0, isCutOut_nil statement⟩
    · rw [List.append_assoc] at htokens
      exact isCutOut_of_tokenize_eq htokens.symm hrun

/-- Characters of two, three and four bytes, white space of three bytes, and a mark between words
without any. -/
theorem tokenize_lossless_of_wide_characters :
    [⟨.dot, 8, 9⟩, ⟨.word ['𝒜', '_', '1'], 9, 15⟩] <:+: tokenize "é名\u3000.𝒜_1,x".toList ∧
    IsCutOut "é名\u3000.𝒜_1,x" [⟨.dot, 8, 9⟩, ⟨.word ['𝒜', '_', '1'], 9, 15⟩] 8 15 := by
  have hrun : [⟨.dot, 8, 9⟩, ⟨.word ['𝒜', '_', '1'], 9, 15⟩] <:+:
      tokenize "é名\u3000.𝒜_1,x".toList := by
    decide +kernel
  obtain ⟨start, stop, hcut⟩ := (tokenize_lossless "é名\u3000.𝒜_1,x").2.2.2 _ hrun
  have hstart : 8 = start := hcut.first _ rfl
  have hstop : 15 = stop := hcut.last _ rfl
  subst hstart hstop
  exact ⟨hrun, hcut⟩

end KeyJoin
