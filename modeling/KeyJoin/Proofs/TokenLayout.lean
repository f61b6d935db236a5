import KeyJoin.Proofs.TextMargins
import KeyJoin.QueryTokens

/-!
# Layout of a tokenized text

A text is laid out as a list of tokens when it is the texts of the tokens in
order, with white space between and around them, every token carries the byte
positions at which it stands, and no word is followed at once by a further
character of a word.  Tokenizing finds the one list a text is laid out as, so a
layout can be taken apart and put together without looking at the tokenizer.
-/

namespace KeyJoin

variable {position : Nat} {tokens : List Token} {text : List Char}

def byteLength : List Char → Nat
  | [] => 0
  | c :: text => c.utf8Size + byteLength text

@[simp] theorem byteLength_nil : byteLength [] = 0 := rfl

@[simp] theorem byteLength_cons (c : Char) (text : List Char) :
    byteLength (c :: text) = c.utf8Size + byteLength text := rfl

@[simp] theorem byteLength_append (a b : List Char) :
    byteLength (a ++ b) = byteLength a + byteLength b := by
  induction a with
  | nil => simp
  | cons c a ih => simp [ih, Nat.add_assoc]

theorem byteLength_pos_of_ne_nil (hne : text ≠ []) : 0 < byteLength text := by
  cases text with
  | nil => exact absurd rfl hne
  | cons c rest =>
      have hc := c.utf8Size_pos
      simp only [byteLength_cons]
      omega

/-- Whether a word that stands before the text would go on into it. -/
def startsWord : List Char → Bool
  | [] => false
  | c :: _ => !isBlank c && isWordCharacter c

theorem startsWord_of_isBlankText (hblank : IsBlankText text) : startsWord text = false := by
  cases text with
  | nil => rfl
  | cons c rest => simp [startsWord, hblank c List.mem_cons_self]

theorem startsWord_blank_append {gap : List Char} (hblank : IsBlankText gap) (hne : gap ≠ [])
    (text : List Char) : startsWord (gap ++ text) = false := by
  cases gap with
  | nil => exact absurd rfl hne
  | cons c rest => simp [startsWord, hblank c List.mem_cons_self]

theorem startsWord_cons_eq_false {c : Char} (hword : isWordCharacter c = false)
    (text : List Char) : startsWord (c :: text) = false := by
  simp [startsWord, hword]

/-- The kinds of tokens that occur: words of word characters, and marks that are neither white
space nor part of a word. -/
def TokenKind.IsLexeme : TokenKind → Prop
  | word text => text ≠ [] ∧ ∀ c ∈ text, isBlank c = false ∧ isWordCharacter c = true
  | kind => ∃ c, kind = ofMark c ∧ isBlank c = false ∧ isWordCharacter c = false

instance (text : List Char) : Decidable (TokenKind.word text).IsLexeme :=
  decidable_of_iff (text ≠ [] ∧ text.all (fun c => !isBlank c && isWordCharacter c) = true)
    (by simp [TokenKind.IsLexeme])

theorem TokenKind.text_ofMark (c : Char) : (ofMark c).text = [c] := by
  unfold ofMark
  split <;> rfl

theorem TokenKind.ofMark_ne_word (c : Char) (text : List Char) : ofMark c ≠ word text := by
  unfold ofMark
  split <;> simp

theorem TokenKind.isLexeme_ofMark {c : Char} (hblank : isBlank c = false)
    (hword : isWordCharacter c = false) : (ofMark c).IsLexeme := by
  cases hkind : ofMark c with
  | word text => exact absurd hkind (ofMark_ne_word c text)
  | _ => exact ⟨c, hkind.symm, hblank, hword⟩

theorem TokenKind.IsLexeme.text_ne_nil {kind : TokenKind} (hkind : kind.IsLexeme) :
    kind.text ≠ [] := by
  cases kind with
  | word text => exact hkind.1
  | _ => simp [TokenKind.text]

theorem TokenKind.IsLexeme.not_blank {kind : TokenKind} (hkind : kind.IsLexeme) :
    ∀ c ∈ kind.text, isBlank c = false := by
  cases kind with
  | word text => exact fun c hc => (hkind.2 c hc).1
  | _ =>
      obtain ⟨c, hc, hblank, -⟩ := hkind
      rw [hc, TokenKind.text_ofMark]
      simpa using hblank

/-- What is not a word does not continue one. -/
theorem TokenKind.IsLexeme.startsWord_eq_false {kind : TokenKind} (hkind : kind.IsLexeme)
    (hmark : ∀ word, kind ≠ .word word) (text : List Char) :
    startsWord (kind.text ++ text) = false := by
  cases kind with
  | word word => exact absurd rfl (hmark word)
  | _ =>
      obtain ⟨c, hc, -, hword⟩ := hkind
      rw [hc, TokenKind.text_ofMark]
      exact startsWord_cons_eq_false hword text

/-- The text from byte `position` on is laid out as the tokens. -/
inductive Layout : Nat → List Token → List Char → Prop
  | blank {position : Nat} {gap : List Char} (hgap : IsBlankText gap) : Layout position [] gap
  | token {position start stop : Nat} {tokens : List Token} {text : List Char}
      (gap : List Char) (kind : TokenKind)
      (hgap : IsBlankText gap)
      (hkind : kind.IsLexeme)
      (hstart : start = position + byteLength gap)
      (hstop : stop = start + byteLength kind.text)
      (apart : ∀ word, kind = .word word → startsWord text = false)
      (rest : Layout stop tokens text) :
      Layout position (⟨kind, start, stop⟩ :: tokens) (gap ++ (kind.text ++ text))

theorem Layout.blankAppend {gap : List Char} (hblank : IsBlankText gap)
    (h : Layout (position + byteLength gap) tokens text) :
    Layout position tokens (gap ++ text) := by
  cases h with
  | blank hgap => exact .blank (isBlankText_append hblank hgap)
  | token gap' kind hgap hkind hstart hstop apart rest =>
      rw [← List.append_assoc]
      refine .token (gap ++ gap') kind (isBlankText_append hblank hgap) hkind ?_ hstop apart rest
      rw [hstart, byteLength_append]
      omega

/-! ## The tokenizer finds the layout -/

theorem Layout.consCharacter {c : Char} (hblank : isBlank c = false)
    (hword : isWordCharacter c = true)
    (h : Layout (position + c.utf8Size) tokens text) :
    Layout position (Token.consCharacter c position (position + c.utf8Size) tokens)
      (c :: text) := by
  have hone : (TokenKind.word [c]).IsLexeme := by
    simp [TokenKind.IsLexeme, hblank, hword]
  have hnil := isBlankText_nil
  have hsingle (hapart : startsWord text = false) :
      Layout position (⟨.word [c], position, position + c.utf8Size⟩ :: tokens) (c :: text) :=
    .token [] (.word [c]) hnil hone rfl rfl (fun _ _ => hapart) h
  cases h with
  | blank hgap => exact hsingle (startsWord_of_isBlankText hgap)
  | @token _ start stop tokens text gap kind hgap hkind hstart hstop apart rest =>
      cases kind with
      | word word =>
          by_cases hnext : start = position + c.utf8Size
          · have hgapNil : gap = [] := by
              by_contra hne
              have hpos := byteLength_pos_of_ne_nil hne
              omega
            subst hgapNil
            simp only [Token.consCharacter, if_pos hnext]
            refine .token [] (.word (c :: word)) hnil ?_ rfl ?_ (fun _ _ => apart word rfl) rest
            · refine ⟨by simp, fun d hd => ?_⟩
              rcases List.mem_cons.mp hd with rfl | hd
              · exact ⟨hblank, hword⟩
              · exact hkind.2 d hd
            · simp only [TokenKind.text, byteLength_cons] at hstop ⊢
              omega
          · have hne : gap ≠ [] := by
              rintro rfl
              simp [hstart] at hnext
            simp only [Token.consCharacter, if_neg hnext]
            exact hsingle (startsWord_blank_append hgap hne _)
      | _ =>
          refine hsingle ?_
          by_cases hne : gap = []
          · subst hne
            exact hkind.startsWord_eq_false (by simp) text
          · exact startsWord_blank_append hgap hne _

theorem layout_tokensFrom (position : Nat) (text : List Char) :
    Layout position (tokensFrom position text) text := by
  induction text generalizing position with
  | nil => exact .blank isBlankText_nil
  | cons c text ih =>
      have htext := ih (position + c.utf8Size)
      simp only [tokensFrom]
      by_cases hblank : isBlank c = true
      · rw [if_pos hblank]
        have hgap : IsBlankText [c] := by simpa [IsBlankText] using hblank
        exact Layout.blankAppend hgap (by simpa using htext)
      · by_cases hword : isWordCharacter c = true
        · rw [if_neg hblank, if_pos hword]
          exact htext.consCharacter (by simpa using hblank) hword
        · rw [if_neg hblank, if_neg hword]
          have hkind : (TokenKind.ofMark c).IsLexeme :=
            TokenKind.isLexeme_ofMark (by simpa using hblank) (by simpa using hword)
          have hnotWord : ∀ word, TokenKind.ofMark c = .word word → startsWord text = false :=
            fun word hmark => absurd hmark (TokenKind.ofMark_ne_word c word)
          simpa [TokenKind.text_ofMark] using
            Layout.token [] (.ofMark c) isBlankText_nil hkind rfl
              (by simp [TokenKind.text_ofMark]) hnotWord htext

/-! ## A layout determines the tokens -/

theorem tokensFrom_blank_append {gap : List Char} (hblank : IsBlankText gap)
    (position : Nat) (text : List Char) :
    tokensFrom position (gap ++ text) = tokensFrom (position + byteLength gap) text := by
  induction gap generalizing position with
  | nil => rfl
  | cons c gap ih =>
      have hc : isBlank c = true := hblank c List.mem_cons_self
      have hgap : IsBlankText gap := fun d hd => hblank d (List.mem_cons_of_mem c hd)
      simp only [List.cons_append, tokensFrom, if_pos hc, byteLength_cons]
      rw [ih hgap, Nat.add_assoc]

theorem tokensFrom_mark_cons {c : Char} (hblank : isBlank c = false)
    (hword : isWordCharacter c = false) (position : Nat) (text : List Char) :
    tokensFrom position (c :: text) =
      ⟨.ofMark c, position, position + c.utf8Size⟩ :: tokensFrom (position + c.utf8Size) text := by
  simp [tokensFrom, hblank, hword]

/-- A word character begins a word of its own before a text that continues no word. -/
theorem Layout.consCharacter_eq {c : Char} {start : Nat}
    (h : Layout position tokens text) (hapart : startsWord text = false) :
    Token.consCharacter c start position tokens = ⟨.word [c], start, position⟩ :: tokens := by
  cases h with
  | blank => rfl
  | @token _ next stop tokens text gap kind hgap hkind hstart hstop apart rest =>
      cases kind with
      | word word =>
          have hne : gap ≠ [] := by
            rintro rfl
            cases word with
            | nil => exact hkind.1 rfl
            | cons d word =>
                have hd := hkind.2 d List.mem_cons_self
                simp [startsWord, TokenKind.text, hd.1, hd.2] at hapart
          have hpos := byteLength_pos_of_ne_nil hne
          have hnext : next ≠ position := by omega
          simp [Token.consCharacter, hnext]
      | _ => rfl

theorem tokensFrom_word_append {word : List Char} (hword : (TokenKind.word word).IsLexeme)
    (hapart : startsWord text = false) (position : Nat) :
    tokensFrom position (word ++ text) =
      ⟨.word word, position, position + byteLength word⟩ ::
        tokensFrom (position + byteLength word) text := by
  induction word generalizing position with
  | nil => exact absurd rfl hword.1
  | cons c word ih =>
      have hc := hword.2 c List.mem_cons_self
      have htail : tokensFrom position (c :: word ++ text) =
          Token.consCharacter c position (position + c.utf8Size)
            (tokensFrom (position + c.utf8Size) (word ++ text)) := by
        simp [tokensFrom, hc.1, hc.2]
      rw [htail]
      cases word with
      | nil => exact (layout_tokensFrom _ text).consCharacter_eq hapart
      | cons d word =>
          have hrest : (TokenKind.word (d :: word)).IsLexeme :=
            ⟨by simp, fun e he => hword.2 e (List.mem_cons_of_mem c he)⟩
          rw [ih hrest]
          simp only [Token.consCharacter, if_true, byteLength_cons, Nat.add_assoc]

theorem Layout.tokensFrom_eq (h : Layout position tokens text) :
    tokensFrom position text = tokens := by
  induction h with
  | blank hgap => simpa [tokensFrom] using tokensFrom_blank_append hgap _ []
  | token gap kind hgap hkind hstart hstop apart rest ih =>
      rw [tokensFrom_blank_append hgap, ← hstart]
      cases kind with
      | word word =>
          have hstop' := hstop
          simp only [TokenKind.text] at hstop' ⊢
          rw [tokensFrom_word_append hkind (apart word rfl), ← hstop', ih]
      | _ =>
          obtain ⟨c, hc, hblank, hword⟩ := hkind
          rw [hc, TokenKind.text_ofMark] at hstop ⊢
          simp only [byteLength_cons, byteLength_nil, Nat.add_zero] at hstop
          rw [List.singleton_append, tokensFrom_mark_cons hblank hword, ← hstop, ih]

theorem Layout.isLexeme (h : Layout position tokens text) :
    ∀ token ∈ tokens, token.kind.IsLexeme := by
  induction h with
  | blank => simp
  | token gap kind hgap hkind hstart hstop apart rest ih =>
      intro token htoken
      rcases List.mem_cons.mp htoken with rfl | htoken
      · exact hkind
      · exact ih token htoken

/-! ## Moving a text -/

def Token.shift (distance : Nat) (token : Token) : Token :=
  ⟨token.kind, token.start + distance, token.stop + distance⟩

theorem Layout.shift (distance : Nat) (h : Layout position tokens text) :
    Layout (position + distance) (tokens.map (Token.shift distance)) text := by
  induction h with
  | blank hgap => exact .blank hgap
  | @token position start stop tokens text gap kind hgap hkind hstart hstop apart rest ih =>
      have hstart' : start + distance = position + distance + byteLength gap := by omega
      have hstop' : stop + distance = start + distance + byteLength kind.text := by omega
      exact .token gap kind hgap hkind hstart' hstop' apart ih

theorem tokensFrom_shift (position distance : Nat) (text : List Char) :
    tokensFrom (position + distance) text =
      (tokensFrom position text).map (Token.shift distance) :=
  ((layout_tokensFrom position text).shift distance).tokensFrom_eq

/-- The kinds of the tokens of a text, which do not depend on where the text stands. -/
def kindsOf (text : List Char) : List TokenKind :=
  (tokenize text).map Token.kind

theorem Layout.kindsOf_eq (h : Layout position tokens text) :
    kindsOf text = tokens.map Token.kind := by
  have htokens := h.tokensFrom_eq
  have hshift := tokensFrom_shift 0 position text
  rw [Nat.zero_add] at hshift
  rw [← htokens, hshift, List.map_map]
  rfl

/-! ## Putting texts together -/

theorem Layout.append {a b : List Char} {before after : List Token}
    (ha : Layout position before a) (hb : Layout (position + byteLength a) after b)
    (hapart : startsWord b = false) :
    Layout position (before ++ after) (a ++ b) := by
  induction ha with
  | blank hgap => exact Layout.blankAppend hgap hb
  | @token position start stop before a gap kind hgap hkind hstart hstop apart rest ih =>
      have hrest : Layout stop (before ++ after) (a ++ b) := by
        apply ih
        simp only [byteLength_append] at hb
        rwa [show stop + byteLength a =
          position + (byteLength gap + (byteLength kind.text + byteLength a)) by omega]
      have happend : ∀ word, kind = .word word → startsWord (a ++ b) = false := by
        intro word hword
        cases a with
        | nil => exact hapart
        | cons c a => exact apart word hword
      simp only [List.cons_append, List.append_assoc]
      exact .token gap kind hgap hkind hstart hstop happend hrest

theorem kindsOf_append (a : List Char) {b : List Char} (hapart : startsWord b = false) :
    kindsOf (a ++ b) = kindsOf a ++ kindsOf b := by
  have ha := layout_tokensFrom 0 a
  have hb := layout_tokensFrom (0 + byteLength a) b
  rw [(ha.append hb hapart).kindsOf_eq, ha.kindsOf_eq, hb.kindsOf_eq, List.map_append]

theorem kindsOf_blank_append {gap : List Char} (hblank : IsBlankText gap) (text : List Char) :
    kindsOf (gap ++ text) = kindsOf text :=
  (Layout.blankAppend hblank (layout_tokensFrom (0 + byteLength gap) text)).kindsOf_eq.trans
    (layout_tokensFrom (0 + byteLength gap) text).kindsOf_eq.symm

/-- White space around a text does not matter to its tokens. -/
theorem kindsOf_trim (text : List Char) : kindsOf (trim text) = kindsOf text := by
  obtain ⟨before, after, htext, hbefore, hafter⟩ := exists_margins text
  have hlayout : Layout 0 [] after := .blank hafter
  have hnone : kindsOf after = [] := hlayout.kindsOf_eq
  conv_rhs => rw [htext]
  rw [kindsOf_blank_append hbefore, kindsOf_append _ (startsWord_of_isBlankText hafter), hnone,
    List.append_nil]

theorem kindsOf_word {word : List Char} (hword : (TokenKind.word word).IsLexeme) :
    kindsOf word = [.word word] := by
  have h : tokensFrom 0 (word ++ []) = _ := tokensFrom_word_append hword rfl 0
  rw [List.append_nil] at h
  simp [kindsOf, tokenize, h, tokensFrom]

theorem kindsOf_mark_cons {c : Char} (hblank : isBlank c = false)
    (hword : isWordCharacter c = false) (text : List Char) :
    kindsOf (c :: text) = .ofMark c :: kindsOf text := by
  have h := tokensFrom_mark_cons hblank hword 0 text
  rw [kindsOf, tokenize, h, List.map_cons, (layout_tokensFrom _ text).kindsOf_eq]

theorem kindsOf_append_blank_append (a : List Char) {gap : List Char}
    (hblank : IsBlankText gap) (hne : gap ≠ []) (text : List Char) :
    kindsOf (a ++ (gap ++ text)) = kindsOf a ++ kindsOf text := by
  rw [kindsOf_append a (startsWord_blank_append hblank hne text), kindsOf_blank_append hblank]

theorem kindsOf_append_mark_cons (a : List Char) {c : Char} (hblank : isBlank c = false)
    (hword : isWordCharacter c = false) (text : List Char) :
    kindsOf (a ++ c :: text) = kindsOf a ++ .ofMark c :: kindsOf text := by
  rw [kindsOf_append a (startsWord_cons_eq_false hword text), kindsOf_mark_cons hblank hword]

/-! ## Cutting a run of tokens out -/

/-- Where the last of the tokens stops, or `position` if there is none. -/
def stopFrom (position : Nat) (tokens : List Token) : Nat :=
  (tokens.getLast?.map Token.stop).getD position

theorem stopFrom_cons (position : Nat) (token : Token) (tokens : List Token) :
    stopFrom position (token :: tokens) = stopFrom token.stop tokens := by
  cases tokens <;> simp [stopFrom, List.getLast?_cons]

/-- A layout whose text ends where its last token does. -/
structure TightLayout (position : Nat) (tokens : List Token) (text : List Char) : Prop where
  layout : Layout position tokens text
  stop : stopFrom position tokens = position + byteLength text
  margin : ∀ c ∈ text.getLast?, isBlank c = false

theorem tightLayout_nil (position : Nat) : TightLayout position [] [] :=
  ⟨.blank isBlankText_nil, rfl, by simp⟩

theorem TightLayout.cons {start stop : Nat} {gap : List Char} {kind : TokenKind}
    (hgap : IsBlankText gap) (hkind : kind.IsLexeme)
    (hstart : start = position + byteLength gap)
    (hstop : stop = start + byteLength kind.text)
    (hapart : ∀ word, kind = .word word → startsWord text = false)
    (h : TightLayout stop tokens text) :
    TightLayout position (⟨kind, start, stop⟩ :: tokens) (gap ++ (kind.text ++ text)) := by
  refine ⟨.token gap kind hgap hkind hstart hstop hapart h.layout, ?_, ?_⟩
  · rw [stopFrom_cons, h.stop]
    simp only [byteLength_append]
    omega
  · intro c hc
    rw [List.getLast?_append_of_ne_nil _ (by simp [hkind.text_ne_nil])] at hc
    cases text with
    | nil =>
        rw [List.append_nil] at hc
        exact hkind.not_blank c (List.mem_of_getLast? hc)
    | cons d rest =>
        rw [List.getLast?_append_of_ne_nil _ (by simp)] at hc
        exact h.margin c hc

/-- A layout of two lists of tokens falls apart just behind the first list. -/
theorem Layout.split {before after : List Token} (h : Layout position (before ++ after) text) :
    ∃ a b, text = a ++ b ∧ TightLayout position before a ∧
      Layout (position + byteLength a) after b := by
  induction before generalizing position text with
  | nil => exact ⟨[], text, rfl, tightLayout_nil position, h⟩
  | cons token before ih =>
      cases h with
      | @token _ start stop _ text gap kind hgap hkind hstart hstop apart rest =>
          obtain ⟨a, b, rfl, ha, hb⟩ := ih rest
          have hapart : ∀ word, kind = .word word → startsWord a = false := by
            intro word hword
            cases a with
            | nil => rfl
            | cons c a => exact apart word hword
          refine ⟨gap ++ (kind.text ++ a), b, by simp, ha.cons hgap hkind hstart hstop hapart, ?_⟩
          simp only [byteLength_append]
          rwa [show position + (byteLength gap + (byteLength kind.text + byteLength a)) =
            stop + byteLength a by omega]

theorem dropBytes_append (a b : List Char) : dropBytes (byteLength a) (a ++ b) = b := by
  induction a with
  | nil => cases b <;> rfl
  | cons c a ih =>
      have hc := c.utf8Size_pos
      have hne : c.utf8Size + byteLength a ≠ 0 := by omega
      simp only [List.cons_append, byteLength_cons, dropBytes, if_neg hne]
      rw [Nat.add_sub_cancel_left, ih]

theorem takeBytes_append (a b : List Char) : takeBytes (byteLength a) (a ++ b) = a := by
  induction a with
  | nil => cases b <;> rfl
  | cons c a ih =>
      have hc := c.utf8Size_pos
      have hne : c.utf8Size + byteLength a ≠ 0 := by omega
      simp only [List.cons_append, byteLength_cons, takeBytes, if_neg hne]
      rw [Nat.add_sub_cancel_left, ih]

theorem spanText_eq {first last : Token} (hfirst : tokens.head? = some first)
    (hlast : tokens.getLast? = some last) (statement : List Char) :
    spanText statement tokens =
      takeBytes (last.stop - first.start) (dropBytes first.start statement) := by
  simp only [spanText, hfirst, hlast]

/-- The text cut out for a run of tokens is laid out as that run, and nothing but white space
stands before it in the piece of text that belongs to the run. -/
theorem TightLayout.span {lead piece : List Char} {run : List Token}
    (h : TightLayout (byteLength lead) run piece) (hrun : run ≠ []) (trail : List Char) :
    ∃ gap span, spanText (lead ++ (piece ++ trail)) run = span ∧ piece = gap ++ span ∧
      IsBlankText gap ∧ Layout (byteLength (lead ++ gap)) run span ∧
      span ≠ [] ∧ Unpadded span := by
  obtain ⟨hlayout, hstop, hmargin⟩ := h
  cases hlayout with
  | blank => exact absurd rfl hrun
  | @token _ start stop tokens text gap kind hgap hkind hstart hstop' apart rest =>
      have hcore : kind.text ++ text ≠ [] := by simp [hkind.text_ne_nil]
      refine ⟨gap, kind.text ++ text, ?_, rfl, hgap, ?_, hcore, ?_, ?_⟩
      · obtain ⟨last, hlast⟩ : ∃ last, (⟨kind, start, stop⟩ :: tokens).getLast? = some last :=
          ⟨_, List.getLast?_eq_some_getLast hrun⟩
        have hlastStop : last.stop = byteLength lead + byteLength (gap ++ (kind.text ++ text)) := by
          simpa [stopFrom, hlast] using hstop
        have hlength : last.stop - start = byteLength (kind.text ++ text) := by
          simp only [byteLength_append] at hlastStop ⊢
          omega
        have hstart' : start = byteLength (lead ++ gap) := by
          simpa using hstart
        have hsplit : lead ++ (gap ++ (kind.text ++ text) ++ trail) =
            lead ++ gap ++ (kind.text ++ text ++ trail) := by simp
        rw [spanText_eq rfl hlast, hlength, hstart', hsplit, dropBytes_append, takeBytes_append]
      · exact .token [] kind isBlankText_nil hkind (by simpa using hstart) hstop' apart rest
      · intro c hc
        rw [List.head?_append_of_ne_nil _ hkind.text_ne_nil] at hc
        exact hkind.not_blank c (List.mem_of_head? hc)
      · intro c hc
        apply hmargin
        rwa [List.getLast?_append_of_ne_nil _ hcore]

/-- A run of the tokens of a text, cut out of it, has the same kinds and no white space around. -/
theorem spanText_of_tokenize_eq {before run after : List Token}
    (htokens : tokenize text = before ++ (run ++ after)) (hrun : run ≠ []) :
    kindsOf (spanText text run) = run.map Token.kind ∧ spanText text run ≠ [] ∧
      Unpadded (spanText text run) := by
  have hlayout : Layout 0 (before ++ (run ++ after)) text := by
    rw [← htokens]
    exact layout_tokensFrom 0 text
  obtain ⟨lead, rest, rfl, -, hrest⟩ := hlayout.split
  obtain ⟨piece, trail, rfl, hpiece, -⟩ := hrest.split
  rw [Nat.zero_add] at hpiece
  obtain ⟨gap, span, hspan, -, -, hlayout, hne, hunpadded⟩ := hpiece.span hrun trail
  rw [hspan]
  exact ⟨hlayout.kindsOf_eq, hne, hunpadded⟩

end KeyJoin
