import Questionnaire.Proofs.Expression.Parsing
import Questionnaire.Proofs.Expression.Scanning
import Questionnaire.Proofs.Expression.Spans

/-!
Every character of an expression is accounted for.

The text is laid out in tokens and blanks without a gap (`Tiles`), so a character that no token covers is
a blank. What a token was scanned from depends on nothing behind it: scanned on its own, it gives the
same token again, with nothing left over (`Token.scan_alone`).
-/

namespace Questionnaire

open Text

variable {cs : List Char}

namespace Token

variable {c quote : Char} {rest raw content : List Char} {token : Token} {next : Option Char}

/-! ### What a token was scanned from -/

/-- Between two quotes of this kind, these characters stand for that content: a backslash and `n` for a
line break, a backslash and `t` for a tab, a backslash and any other character for that character, and
each character besides the quote and the backslash for itself. -/
inductive Denotes (quote : Char) : (inner content : List Char) → Prop
  | nil : Denotes quote [] []
  | newline {inner content : List Char} (more : Denotes quote inner content) :
      Denotes quote ('\\' :: 'n' :: inner) ('\n' :: content)
  | tab {inner content : List Char} (more : Denotes quote inner content) :
      Denotes quote ('\\' :: 't' :: inner) ('\t' :: content)
  | escaped {c : Char} {inner content : List Char} (other : c ≠ 'n' ∧ c ≠ 't')
      (more : Denotes quote inner content) : Denotes quote ('\\' :: c :: inner) (c :: content)
  | plain {c : Char} {inner content : List Char} (other : c ≠ quote ∧ c ≠ '\\')
      (more : Denotes quote inner content) : Denotes quote (c :: inner) (c :: content)

/-- The token has these characters in the text. A word and a number have their own, a string stands
between two quotes of one kind, and the others are signs. -/
def Spelled (raw : List Char) : Token → Prop
  | word w => raw = w.toList
  | number s => raw = s.toList
  | string s => ∃ quote inner, (quote = '"' ∨ quote = '\'') ∧ raw = quote :: (inner ++ [quote]) ∧
      Denotes quote inner s.toList
  | token => raw ∈ token.signs

theorem Denotes.unescaped {inner : List Char} (d : Char) (more : Denotes quote inner content) :
    Denotes quote ('\\' :: d :: inner) (unescape d :: content) := by
  by_cases newline : d = 'n'
  · subst newline
    exact .newline more
  by_cases tab : d = 't'
  · subst tab
    exact .tab more
  rw [unescape, if_neg newline, if_neg tab]
  exact .escaped ⟨newline, tab⟩ more

theorem scanString_inner (h : scanString quote cs = .ok (content, raw, rest)) :
    ∃ inner, raw = inner ++ [quote] ∧ Denotes quote inner content := by
  fun_induction scanString quote cs generalizing content raw rest with
  | case1 | case3 | case4 => cases h
  | case2 | case5 =>
    cases h
    exact ⟨[], rfl, .nil⟩
  | case6 d cs _ ih =>
    obtain ⟨⟨content, raw, rest⟩, read, made⟩ := map_ok.mp h
    cases made
    obtain ⟨inner, rfl, denotes⟩ := ih read
    exact ⟨'\\' :: d :: inner, rfl, denotes.unescaped d⟩
  | case7 c d cs inside other ih =>
    obtain ⟨⟨content, raw, rest⟩, read, made⟩ := map_ok.mp h
    cases made
    obtain ⟨inner, rfl, denotes⟩ := ih read
    exact ⟨c :: inner, rfl, .plain ⟨inside, other⟩ denotes⟩

theorem scanString_alone (h : scanString quote cs = .ok (content, raw, rest)) :
    scanString quote raw = .ok (content, raw, []) := by
  fun_induction scanString quote cs generalizing content raw rest with
  | case1 | case3 | case4 => cases h
  | case2 | case5 =>
    cases h
    simp [scanString]
  | case6 d cs other ih =>
    obtain ⟨⟨content, raw, rest⟩, read, made⟩ := map_ok.mp h
    cases made
    rw [scanString, if_neg other, if_pos rfl, ih read]
    rfl
  | case7 c d cs open' other ih =>
    obtain ⟨⟨content, raw, rest⟩, read, made⟩ := map_ok.mp h
    cases made
    have again := ih read
    cases raw with
    | nil => cases again
    | cons e raw =>
      rw [scanString, if_neg open', if_neg other, again]
      rfl

theorem scanMark_alone (h : scanMark c next = some (token, false)) :
    scanMark c none = some (token, false) := by
  unfold scanMark at h ⊢
  split at h <;> (try split at h) <;> (try split at h) <;> simp_all

theorem spelled_of_signs (sign : raw ∈ token.signs) : token.Spelled raw := by
  cases token with
  | word | string | number | eof => cases sign
  | _ => exact sign

theorem scan_spelled (h : scan c cs = .ok (token, raw, rest)) : token.Spelled raw := by
  cases scan_ok h with
  | string quoted read =>
    obtain ⟨inner, rfl, denotes⟩ := scanString_inner read
    exact ⟨c, inner, quoted, rfl, by rwa [String.toList_ofList]⟩
  | number | word => exact String.toList_ofList.symm
  | @sign _ two _ _ found =>
    have sign := scanMark_signs found
    cases two with
    | false => exact spelled_of_signs sign
    | true =>
      obtain ⟨d, second, sign⟩ := sign
      obtain ⟨after, rfl⟩ := List.head?_eq_some_iff.mp second
      exact spelled_of_signs sign

theorem scan_number_alone (digit : c.isDigit = true) :
    ∃ more, (scanNumber (c :: cs)).1 = c :: more ∧ scan c more =
      .ok (.number (String.ofList (scanNumber (c :: cs)).1), (scanNumber (c :: cs)).1, []) := by
  have isNumber : IsNumber (scanNumber (c :: cs)).1 := scanNumber_isNumber digit
  have whole := scanNumber_append_rest (c :: cs)
  obtain ⟨first, more, same, -⟩ := isNumber.cons
  rw [same, List.cons_append] at whole
  obtain ⟨rfl, -⟩ := List.cons.inj whole
  rw [same] at isNumber ⊢
  have scanned := scan_number isNumber stops_nil
  rw [List.append_nil] at scanned
  exact ⟨more, rfl, scanned⟩

/-- The characters of a token alone give that token. -/
theorem scan_alone (h : scan c cs = .ok (token, raw, rest)) :
    ∃ more, raw = c :: more ∧ scan c more = .ok (token, raw, []) := by
  cases scan_ok h with
  | string quoted read =>
    refine ⟨_, rfl, ?_⟩
    rw [scan, if_pos quoted, scanString_alone read]
    rfl
  | number digit => exact scan_number_alone digit
  | @sign _ two unquoted other found =>
    refine ⟨_, rfl, ?_⟩
    cases two with
    | false =>
      show scan c [] = _
      simp only [scan, if_neg unquoted, if_neg other, List.head?_nil, scanMark_alone found]
      rfl
    | true =>
      obtain ⟨d, second, -⟩ := scanMark_signs found
      obtain ⟨after, rfl⟩ := List.head?_eq_some_iff.mp second
      show scan c [d] = _
      rw [List.head?_cons] at found
      simp only [scan, if_neg unquoted, if_neg other, List.head?_cons, found]
      rfl
  | word starts =>
    have isWord : IsWord (c :: cs.takeWhile continuesWord) :=
      ⟨starts, fun d member => List.mem_takeWhile_imp member⟩
    have scanned := scan_word isWord stops_nil
    rw [List.append_nil] at scanned
    exact ⟨_, rfl, scanned⟩

end Token

namespace LocatedToken

open Token

variable {before rest : List Char} {ts : List LocatedToken} {t : LocatedToken}

/-! ### The layout of a text -/

/-- Behind `before`, the text is made of these tokens with blanks between them. -/
inductive Tiles : List Char → List Char → List LocatedToken → Prop
  | nil {before : List Char} : Tiles before [] []
  | blank {before : List Char} {c : Char} {rest : List Char} {ts : List LocatedToken}
      (blank : isBlank c = true) (more : Tiles (before ++ [c]) rest ts) : Tiles before (c :: rest) ts
  | token {before : List Char} {c : Char} {cs raw rest : List Char} {token : Token}
      {ts : List LocatedToken} (solid : isBlank c = false)
      (scanned : scan c cs = .ok (token, raw, rest)) (more : Tiles (before ++ raw) rest ts) :
      Tiles before (c :: cs)
        (⟨token, byteLength before, byteLength before + byteLength raw⟩ :: ts)

theorem tiles_of_split {length fuel : Nat} {located : List LocatedToken} (enough : cs.length < fuel)
    (h : split length fuel (byteLength before) cs = .ok located) :
    ∃ ts, located = ts ++ [⟨.eof, length, length⟩] ∧ Tiles before cs ts := by
  induction fuel generalizing before cs located with
  | zero => omega
  | succ fuel ih =>
    cases cs with
    | nil =>
      cases h
      exact ⟨[], rfl, .nil⟩
    | cons c cs =>
      rw [List.length_cons] at enough
      rw [split] at h
      split at h
      · rename_i blank
        have passed : byteLength before + c.utf8Size = byteLength (before ++ [c]) := by
          rw [byteLength_append]
          rfl
        rw [passed] at h
        obtain ⟨ts, rfl, tiles⟩ := ih (by omega) h
        exact ⟨ts, rfl, .blank blank tiles⟩
      · rename_i solid
        split at h
        · cases h
        · rename_i token raw rest scanned
          have shorter := scan_shortens scanned
          obtain ⟨later, read, rfl⟩ := map_ok.mp h
          rw [← byteLength_append] at read
          obtain ⟨ts, rfl, tiles⟩ := ih (by omega) read
          exact ⟨_, rfl, .token (Bool.eq_false_iff.mpr solid) scanned tiles⟩

theorem Tiles.from (tiles : Tiles before cs ts) : ∀ t ∈ ts, byteLength before ≤ t.span.start := by
  induction tiles with
  | nil => exact List.forall_mem_nil _
  | blank _ _ ih =>
    intro t member
    have later := ih t member
    rw [byteLength_append] at later
    omega
  | token _ _ _ ih =>
    refine List.forall_mem_cons.mpr ⟨Nat.le_refl _, fun t member => ?_⟩
    have later := ih t member
    rw [byteLength_append] at later
    omega

theorem Tiles.ordered (tiles : Tiles before cs ts) :
    ts.Pairwise fun s t => s.span.stop ≤ t.span.start := by
  induction tiles with
  | nil => exact .nil
  | blank _ _ ih => exact ih
  | token _ _ more ih =>
    refine .cons (fun t member => ?_) ih
    have later := more.from t member
    rwa [byteLength_append] at later

/-- A token in its place, with the characters that it was scanned from. -/
theorem Tiles.scanned (tiles : Tiles before cs ts) (member : t ∈ ts) :
    ∃ c more, isBlank c = false ∧ scan c more = .ok (t.token, c :: more, []) ∧
      t.span.slice? (before ++ cs) = some (c :: more) ∧ t.token.Spelled (c :: more) := by
  induction tiles with
  | nil => cases member
  | @blank before c rest ts _ _ ih =>
    have later := ih member
    rwa [List.append_assoc] at later
  | @token before c cs raw rest token ts solid scanned _ ih =>
    obtain ⟨whole, -⟩ := scan_append_rest scanned
    rw [whole, ← List.append_assoc]
    rcases List.mem_cons.mp member with rfl | later
    · obtain ⟨more, rfl, alone⟩ := scan_alone scanned
      refine ⟨c, more, solid, alone, ?_, scan_spelled scanned⟩
      exact Span.slice?_eq_some.mpr ⟨before, rest, rfl, rfl, byteLength_append _ _⟩
    · exact ih later

/-- A character that no token covers is a blank. -/
theorem Tiles.covers (tiles : Tiles before cs ts) {left right : List Char} {c : Char}
    (whole : cs = left ++ c :: right) : isBlank c = true ∨ ∃ t ∈ ts,
      t.span.start ≤ byteLength (before ++ left) ∧ byteLength (before ++ left) < t.span.stop := by
  induction tiles generalizing left with
  | nil => simp at whole
  | @blank before d rest ts blank _ ih =>
    cases left with
    | nil =>
      obtain ⟨rfl, -⟩ := List.cons.inj whole
      exact .inl blank
    | cons e left =>
      obtain ⟨rfl, later⟩ := List.cons.inj whole
      have covered := ih later
      rwa [List.append_assoc] at covered
  | @token before d cs raw rest token ts _ scanned _ ih =>
    rw [(scan_append_rest scanned).1] at whole
    rcases List.append_eq_append_iff.mp whole with ⟨passed, rfl, later⟩ | ⟨inside, same, shown⟩
    · rcases ih later with blank | ⟨t, member, covered⟩
      · exact .inl blank
      · rw [← List.append_assoc]
        exact .inr ⟨t, List.mem_cons_of_mem _ member, covered⟩
    · cases inside with
      | nil =>
        rw [List.append_nil] at same
        rw [List.nil_append] at shown
        have whole : rest = [] ++ c :: right := shown.symm
        rcases ih whole with blank | ⟨t, member, covered⟩
        · exact .inl blank
        · rw [List.append_nil, same] at covered
          exact .inr ⟨t, List.mem_cons_of_mem _ member, covered⟩
      | cons e inside =>
        obtain ⟨rfl, -⟩ := List.cons.inj shown
        refine .inr ⟨_, List.mem_cons_self, ?_, ?_⟩
        · rw [byteLength_append]
          exact Nat.le_add_right _ _
        · have positive := c.utf8Size_pos
          show byteLength (before ++ left) < byteLength before + byteLength raw
          rw [same, byteLength_append, byteLength_append, byteLength_cons]
          omega

theorem ofChars_alone {c : Char} {more : List Char} {token : Token} (solid : isBlank c = false)
    (alone : scan c more = .ok (token, c :: more, [])) :
    ofChars (c :: more) = .ok [⟨token, 0, byteLength (c :: more)⟩,
      ⟨.eof, byteLength (c :: more), byteLength (c :: more)⟩] := by
  simp only [ofChars, List.length_cons, split, solid, Bool.false_eq_true, if_false, alone, Nat.zero_add]
  rfl

/-- The tokens of a text end with its end, and with nothing else that is one. The others have spans that
are not empty, fall between characters and come one behind the other, and all that they leave out are
blanks. What a span shows is how its token is spelled, and that alone gives the token and the end of the
text. -/
theorem tokens_account {text : String} {tokens : List LocatedToken} (read : ofText text = .ok tokens) :
    ∃ ts, tokens = ts ++ [⟨.eof, text.utf8ByteSize, text.utf8ByteSize⟩] ∧
      ts.Pairwise (fun s t => s.span.stop ≤ t.span.start) ∧
      (∀ t ∈ ts, t.token ≠ .eof ∧ t.span.start < t.span.stop ∧
        IsBoundary text.toList t.span.start ∧ IsBoundary text.toList t.span.stop ∧
        ∃ shown, t.span.slice? text.toList = some shown ∧ t.token.Spelled shown ∧
          ofText (String.ofList shown) =
            .ok [⟨t.token, 0, byteLength shown⟩, ⟨.eof, byteLength shown, byteLength shown⟩]) ∧
      ∀ left c right, text.toList = left ++ c :: right →
        c.toNat ∈ blanks ∨ ∃ t ∈ ts, t.span.start ≤ byteLength left ∧ byteLength left < t.span.stop := by
  have read : split (byteLength text.toList) (text.toList.length + 1) (byteLength []) text.toList =
      .ok tokens := read
  obtain ⟨ts, rfl, tiles⟩ := tiles_of_split (Nat.lt_succ_self _) read
  rw [byteLength_toList]
  refine ⟨ts, rfl, tiles.ordered, fun t member => ?_,
    fun left c right whole => (tiles.covers whole).imp_left mem_blanks⟩
  obtain ⟨c, more, solid, alone, shown, spelled⟩ := tiles.scanned member
  have fits : t.span.Fits text.toList := Span.fits_iff.mpr ⟨_, shown⟩
  obtain ⟨before, after, -, begins, ends⟩ := Span.slice?_eq_some.mp shown
  have filled : t.span.start < t.span.stop := by
    have positive := c.utf8Size_pos
    rw [byteLength_append, byteLength_cons] at ends
    omega
  refine ⟨Grammar.scan_ne_eof alone, filled, fits.start, fits.stop, _, shown, spelled, ?_⟩
  rw [ofText, String.toList_ofList, ofChars_alone solid alone]

def touchingText : String := "één>=1.5and 'a\\n\\t\\'\\b' "

def touchingTokens : List LocatedToken :=
  [⟨.word "één", 0, 5⟩, ⟨.ge, 5, 7⟩, ⟨.number "1.5", 7, 10⟩, ⟨.word "and", 10, 13⟩,
    ⟨.string "a\n\t'b", 14, 25⟩]

/-- Tokens that touch each other, characters of two bytes, and every kind of escape. -/
theorem tokens_account_touching :
    ofText touchingText = .ok (touchingTokens ++ [⟨.eof, 26, 26⟩]) ∧
      ∃ shown, (⟨14, 25⟩ : Span).slice? touchingText.toList = some shown ∧
        shown = ['\'', 'a', '\\', 'n', '\\', 't', '\\', '\'', '\\', 'b', '\''] ∧
        (Token.string "a\n\t'b").Spelled shown ∧
        ofText (String.ofList shown) = .ok [⟨.string "a\n\t'b", 0, 11⟩, ⟨.eof, 11, 11⟩] := by
  have read : ofText touchingText = .ok (touchingTokens ++ [⟨.eof, 26, 26⟩]) :=
    ok_of_toOption (by decide +kernel)
  obtain ⟨ts, same, -, each, -⟩ := tokens_account read
  have size : touchingText.utf8ByteSize = 26 := by decide +kernel
  rw [size] at same
  obtain rfl := List.append_cancel_right same
  obtain ⟨-, -, -, -, shown, cut, spelled, alone⟩ :=
    each ⟨.string "a\n\t'b", 14, 25⟩ (by simp [touchingTokens])
  have slice : (⟨14, 25⟩ : Span).slice? touchingText.toList =
      some ['\'', 'a', '\\', 'n', '\\', 't', '\\', '\'', '\\', 'b', '\''] := by decide +kernel
  obtain rfl := Option.some.inj (slice.symm.trans cut)
  exact ⟨read, _, slice, rfl, spelled, alone⟩

end LocatedToken

end Questionnaire
