import Mathlib.Data.List.TakeWhile
import Questionnaire.Expression.Lexer
import Questionnaire.Proofs.Decimal.Notation
import Questionnaire.Proofs.Outcome

/-!
The tokens that a text falls into.

`Lexes cs ts` leaves the spans out: blanks are passed over, and what is left begins with a token.
What a scanned token can be is said once, in `scan_ok`. Splitting a text finds these tokens and nothing
else: `ofText_iff_lexes`. The rules for words, numbers, strings and operators say what may follow each of
them without running into it.
-/

namespace Questionnaire

namespace Token

open Text

variable {c quote : Char} {cs rest raw content ds w : List Char} {token : Token} {ts : List Token}
  {next : Option Char} {two : Bool}

/-! ### Signs -/

/-- How an operator or a mark can be written. -/
def signs : Token → List (List Char)
  | leftParen => [['(']]
  | rightParen => [[')']]
  | comma => [[',']]
  | plus => [['+']]
  | minus => [['-']]
  | star => [['*']]
  | slash => [['/']]
  | eq => [['='], ['=', '=']]
  | ne => [['!', '='], ['<', '>']]
  | lt => [['<']]
  | le => [['<', '=']]
  | gt => [['>']]
  | ge => [['>', '=']]
  | andAnd => [['&', '&']]
  | orOr => [['|', '|']]
  | bang => [['!']]
  | word _ | string _ | number _ | eof => []

theorem scanMark_signs (h : scanMark c next = some (token, two)) :
    if two then ∃ d, next = some d ∧ [c, d] ∈ token.signs else [c] ∈ token.signs := by
  unfold scanMark at h
  split at h
  -- `=` is the one sign that means the same with a second character and without it.
  case h_8 =>
    cases h
    by_cases second : next = some '=' <;> simp [signs, second]
  all_goals (try split at h) <;> (try split at h) <;> cases h <;> simp [signs, *]

theorem signs_of_scanMark (h : scanMark c next = some (token, two)) : token.signs ≠ [] := by
  have sign := scanMark_signs h
  cases two with
  | false => exact List.ne_nil_of_mem sign
  | true =>
    obtain ⟨d, -, sign⟩ := sign
    exact List.ne_nil_of_mem sign

/-! ### The ways to scan a token -/

/-- What a text that begins with `c` can be scanned as: a string, a number, a sign of one or two characters,
or a word. -/
inductive Scanned (c : Char) (cs : List Char) : Token → (raw rest : List Char) → Prop
  | string {content raw rest : List Char} (quoted : c = '"' ∨ c = '\'')
      (read : scanString c cs = .ok (content, raw, rest)) :
      Scanned c cs (.string (String.ofList content)) (c :: raw) rest
  | number (digit : c.isDigit = true) :
      Scanned c cs (.number (String.ofList (scanNumber (c :: cs)).1)) (scanNumber (c :: cs)).1
        (scanNumber (c :: cs)).2
  | sign {token : Token} {two : Bool} (unquoted : ¬(c = '"' ∨ c = '\'')) (other : ¬c.isDigit = true)
      (found : scanMark c cs.head? = some (token, two)) :
      Scanned c cs token (c :: cs.take two.toNat) (cs.drop two.toNat)
  | word (starts : startsWord c = true) :
      Scanned c cs (.word (String.ofList (c :: cs.takeWhile continuesWord)))
        (c :: cs.takeWhile continuesWord) (cs.dropWhile continuesWord)

theorem scan_ok (h : scan c cs = .ok (token, raw, rest)) : Scanned c cs token raw rest := by
  unfold scan at h
  split at h
  · rename_i quoted
    obtain ⟨⟨content, inside, rest⟩, read, made⟩ := map_ok.mp h
    cases made
    exact .string quoted read
  · rename_i unquoted
    split at h
    · rename_i digit
      cases h
      exact .number digit
    · rename_i other
      split at h
      · rename_i found
        cases h
        exact .sign unquoted other found
      · rename_i found
        cases h
        exact .sign unquoted other found
      · split at h <;> cases h
        exact .word ‹_›

/-! ### What is left after a token -/

theorem scanString_shortens (h : scanString quote cs = .ok (content, raw, rest)) :
    rest.length < cs.length := by
  fun_induction scanString quote cs generalizing content raw rest with
  | case1 | case3 | case4 => cases h
  | case2 | case5 =>
    cases h
    simp
  | case6 | case7 =>
    rename_i ih
    obtain ⟨⟨content, raw, rest⟩, read, made⟩ := map_ok.mp h
    cases made
    have shorter := ih read
    simp only [List.length_cons] at shorter ⊢
    omega

theorem scanNumber_shortens (digit : c.isDigit = true) :
    (scanNumber (c :: cs)).2.length ≤ cs.length := by
  have whole : ((c :: cs).dropWhile Char.isDigit).length ≤ cs.length := by
    rw [List.dropWhile_cons_of_pos digit]
    exact List.length_dropWhile_le _ _
  unfold scanNumber spanDigits
  dsimp only
  split
  · rename_i first after found
    rw [found] at whole
    split
    · have places := List.length_dropWhile_le Char.isDigit (first :: after)
      simp only [List.length_cons] at whole places ⊢
      omega
    · rwa [← found] at whole
  · exact whole

theorem scan_shortens (h : scan c cs = .ok (token, raw, rest)) : rest.length ≤ cs.length := by
  cases scan_ok h with
  | string _ read => exact Nat.le_of_lt (scanString_shortens read)
  | number digit => exact scanNumber_shortens digit
  | sign =>
    rw [List.length_drop]
    exact Nat.sub_le _ _
  | word => exact List.length_dropWhile_le _ _

/-! ### Words and numbers -/

/-- A word is a letter and what a word goes on with. -/
def IsWord : List Char → Prop
  | [] => False
  | c :: cs => startsWord c = true ∧ ∀ d ∈ cs, continuesWord d = true

/-- A number is digits, and after a point there are digits again. -/
def IsNumber (cs : List Char) : Prop :=
  ∃ whole, IsDigits whole ∧ whole ≠ [] ∧
    (cs = whole ∨ ∃ places, IsDigits places ∧ places ≠ [] ∧ cs = whole ++ '.' :: places)

/-- Neither a word nor a number goes on with what follows. -/
def Stops (rest : List Char) : Prop := ∀ c ∈ rest.head?, continuesWord c = false ∧ c ≠ '.'

/-- The test of `IsWord`, for words that are written out. -/
theorem isWord_cons (starts : startsWord c = true) (continues : cs.all continuesWord = true) :
    IsWord (c :: cs) :=
  ⟨starts, List.all_eq_true.mp continues⟩

/-- A test that is run on a few code points was run on each character that has one of them. -/
theorem of_toNat_mem {p : Char → Bool} {b : Bool} {points : List Nat}
    (all : ∀ n ∈ points, p (Char.ofNat n) = b) (member : c.toNat ∈ points) : p c = b := by
  have holds := all _ member
  rwa [Char.ofNat_toNat] at holds

/-- A character is none of those that the test fails on. -/
theorem eq_false_of_points {p q : Char → Bool} {points : List Nat}
    (covered : q c = true → c.toNat ∈ points) (fails : ∀ n ∈ points, p (Char.ofNat n) = false)
    (holds : p c = true) : q c = false := by
  cases here : q c with
  | false => rfl
  | true =>
    have never : p c = false := of_toNat_mem fails (covered here)
    rw [holds] at never
    cases never

/-- The code points of the White_Space property. -/
def blanks : List Nat :=
  List.range' 9 5 ++ [32, 0x85, 0xA0, 0x1680] ++ List.range' 0x2000 11 ++
    [0x2028, 0x2029, 0x202F, 0x205F, 0x3000]

theorem mem_blanks (blank : isBlank c = true) : c.toNat ∈ blanks := by
  simp [isBlank, blanks] at blank ⊢
  omega

theorem mem_digits (digit : c.isDigit = true) : c.toNat ∈ List.range' 48 10 := by
  have range : 48 ≤ c.toNat ∧ c.toNat ≤ 57 := Char.isDigit_iff_toNat.mp digit
  rw [List.mem_range'_1]
  omega

theorem solid_of_startsWord (starts : startsWord c = true) : isBlank c = false :=
  eq_false_of_points mem_blanks (by decide +kernel) starts

theorem isDigit_of_startsWord (starts : startsWord c = true) : c.isDigit = false :=
  eq_false_of_points mem_digits (by decide) starts

theorem scanMark_of_startsWord (starts : startsWord c = true) : scanMark c next = none := by
  unfold scanMark
  split <;> first
    | rfl
    | exact absurd starts (by decide)

theorem continuesWord_of_isDigit (digit : c.isDigit = true) : continuesWord c = true := by
  have all : ∀ n ∈ List.range' 48 10, continuesWord (Char.ofNat n) = true := by decide
  exact of_toNat_mem all (mem_digits digit)

theorem takeWhile_append {p : Char → Bool} (all : ∀ c ∈ ds, p c = true)
    (stops : ∀ c ∈ rest.head?, p c = false) : (ds ++ rest).takeWhile p = ds := by
  rw [List.takeWhile_append_of_pos all]
  cases rest with
  | nil => simp
  | cons c rest =>
    have stopped : p c = false := stops c rfl
    simp [stopped]

theorem dropWhile_append {p : Char → Bool} (all : ∀ c ∈ ds, p c = true)
    (stops : ∀ c ∈ rest.head?, p c = false) : (ds ++ rest).dropWhile p = rest := by
  rw [List.dropWhile_append_of_pos all]
  cases rest with
  | nil => rfl
  | cons c rest =>
    have stopped : p c = false := stops c rfl
    simp [stopped]

theorem stops_nil : Stops [] := nofun

theorem stops_cons (ends : continuesWord c = false) (other : c ≠ '.') : Stops (c :: rest) := by
  intro d first
  cases first
  exact ⟨ends, other⟩

/-! ### Scanning what was written -/

theorem scan_word (isWord : IsWord (c :: w)) (stops : Stops rest) :
    scan c (w ++ rest) = .ok (.word (String.ofList (c :: w)), c :: w, rest) := by
  obtain ⟨starts, continues⟩ := isWord
  have unquoted : ¬(c = '"' ∨ c = '\'') := by
    rintro (rfl | rfl) <;> exact absurd starts (by decide)
  have ends : ∀ d ∈ rest.head?, continuesWord d = false := fun d first => (stops d first).1
  simp only [scan, if_neg unquoted, isDigit_of_startsWord starts, scanMark_of_startsWord starts,
    starts, takeWhile_append continues ends, dropWhile_append continues ends,
    Bool.false_eq_true, if_false, if_true]

theorem spanDigits_append (isDigits : IsDigits ds) (stops : ∀ c ∈ rest.head?, c.isDigit = false) :
    spanDigits (ds ++ rest) = (ds, rest) := by
  rw [spanDigits, takeWhile_append isDigits stops, dropWhile_append isDigits stops]

theorem Stops.not_digit (stops : Stops rest) : ∀ c ∈ rest.head?, c.isDigit = false := by
  intro c first
  cases digit : c.isDigit with
  | false => rfl
  | true =>
    have continues := continuesWord_of_isDigit digit
    rw [(stops c first).1] at continues
    cases continues

theorem scanNumber_append (isNumber : IsNumber ds) (stops : Stops rest) :
    scanNumber (ds ++ rest) = (ds, rest) := by
  obtain ⟨whole, isDigits, given, rfl | ⟨places, isPlaces, some, rfl⟩⟩ := isNumber
  · rw [scanNumber, spanDigits_append isDigits stops.not_digit]
    dsimp only
    split
    · exact absurd rfl (stops '.' rfl).2
    · rfl
  · obtain ⟨first, others, rfl⟩ := List.exists_cons_of_ne_nil some
    have digit := isPlaces first List.mem_cons_self
    have pointed : ∀ c ∈ ('.' :: (first :: others ++ rest)).head?, c.isDigit = false := by
      intro c head
      cases head
      rfl
    rw [List.append_assoc, List.cons_append, scanNumber, spanDigits_append isDigits pointed]
    simp only [List.cons_append, digit, if_true]
    rw [← List.cons_append, spanDigits_append isPlaces stops.not_digit]

theorem IsNumber.mem (isNumber : IsNumber ds) (member : c ∈ ds) : c.isDigit = true ∨ c = '.' := by
  obtain ⟨whole, isDigits, -, rfl | ⟨places, isPlaces, -, rfl⟩⟩ := isNumber
  · exact .inl (isDigits c member)
  · rcases List.mem_append.mp member with before | after
    · exact .inl (isDigits c before)
    · rcases List.mem_cons.mp after with rfl | after
      · exact .inr rfl
      · exact .inl (isPlaces c after)

theorem IsNumber.cons (isNumber : IsNumber ds) :
    ∃ first others, ds = first :: others ∧ first.isDigit = true := by
  obtain ⟨whole, isDigits, given, shape⟩ := isNumber
  obtain ⟨first, others, rfl⟩ := List.exists_cons_of_ne_nil given
  have digit := isDigits first List.mem_cons_self
  rcases shape with rfl | ⟨places, -, -, rfl⟩
  · exact ⟨first, others, rfl, digit⟩
  · exact ⟨first, others ++ '.' :: places, rfl, digit⟩

theorem scan_number (isNumber : IsNumber (c :: ds)) (stops : Stops rest) :
    scan c (ds ++ rest) = .ok (.number (String.ofList (c :: ds)), c :: ds, rest) := by
  obtain ⟨first, others, same, digit⟩ := isNumber.cons
  obtain ⟨rfl, rfl⟩ := List.cons.inj same
  have unquoted : ¬(c = '"' ∨ c = '\'') := by
    rintro (rfl | rfl) <;> cases digit
  simp only [scan, if_neg unquoted, digit, if_true]
  rw [← List.cons_append, scanNumber_append isNumber stops]

/-- A string without quotes and backslashes is its own content. -/
theorem scanString_append (plain : '"' ∉ content ∧ '\\' ∉ content) :
    scanString '"' (content ++ '"' :: rest) = .ok (content, content ++ ['"'], rest) := by
  induction content with
  | nil => cases rest <;> rfl
  | cons c content ih =>
    simp only [List.mem_cons, not_or] at plain
    have read := ih ⟨plain.1.2, plain.2.2⟩
    obtain ⟨d, after, more⟩ : ∃ d after, content ++ '"' :: rest = d :: after :=
      List.exists_cons_of_ne_nil (by simp)
    rw [List.cons_append, more, scanString, if_neg (Ne.symm plain.1.1), if_neg (Ne.symm plain.2.1),
      ← more, read]
    rfl

/-! ### What was scanned -/

/-- A word and a number that a text can have. -/
def Proper : Token → Prop
  | word w => IsWord w.toList
  | number s => IsNumber s.toList
  | _ => True

theorem scanNumber_isNumber (digit : c.isDigit = true) : IsNumber (scanNumber (c :: cs)).1 := by
  have isDigits (cs : List Char) : IsDigits (cs.takeWhile Char.isDigit) :=
    fun d member => List.mem_takeWhile_imp member
  have given (d : Char) (ds : List Char) (digit : d.isDigit = true) :
      (d :: ds).takeWhile Char.isDigit ≠ [] := by
    rw [List.takeWhile_cons_of_pos digit]
    exact List.cons_ne_nil _ _
  unfold scanNumber spanDigits
  dsimp only
  refine ⟨(c :: cs).takeWhile Char.isDigit, isDigits _, given c cs digit, ?_⟩
  split
  · rename_i first after found
    split
    · rename_i digit
      exact .inr ⟨_, isDigits _, given first after digit, rfl⟩
    · exact .inl rfl
  · exact .inl rfl

theorem scanMark_proper (h : scanMark c next = some (token, two)) : token.Proper := by
  have sign := signs_of_scanMark h
  cases token with
  | word | number => exact absurd rfl sign
  | _ => trivial

theorem scan_proper (h : scan c cs = .ok (token, raw, rest)) : token.Proper := by
  cases scan_ok h with
  | string => trivial
  | number digit =>
    rw [Proper, String.toList_ofList]
    exact scanNumber_isNumber digit
  | sign _ _ found => exact scanMark_proper found
  | word starts =>
    rw [Proper, String.toList_ofList]
    exact ⟨starts, fun d member => List.mem_takeWhile_imp member⟩

end Token

namespace LocatedToken

open Text Token

variable {cs rest : List Char} {ts : List Token}

/-! ### The tokens of a text -/

inductive Lexes : List Char → List Token → Prop
  | nil : Lexes [] []
  | blank {c : Char} {cs : List Char} {ts : List Token} (blank : isBlank c = true)
      (more : Lexes cs ts) : Lexes (c :: cs) ts
  | token {c : Char} {cs raw rest : List Char} {token : Token} {ts : List Token}
      (solid : isBlank c = false) (scanned : scan c cs = .ok (token, raw, rest))
      (more : Lexes rest ts) : Lexes (c :: cs) (token :: ts)

theorem Lexes.proper (lexes : Lexes cs ts) : ∀ t ∈ ts, t.Proper := by
  induction lexes with
  | nil => exact List.forall_mem_nil _
  | blank _ _ ih => exact ih
  | token _ scanned _ ih => exact List.forall_mem_cons.mpr ⟨scan_proper scanned, ih⟩

variable {length fuel offset : Nat} {located : List LocatedToken}

/-- With fuel for every character the text is split to its end. -/
theorem lexes_of_split (enough : cs.length < fuel)
    (h : split length fuel offset cs = .ok located) :
    ∃ ts, located.map (·.token) = ts ++ [.eof] ∧ Lexes cs ts := by
  induction fuel generalizing offset cs located with
  | zero => omega
  | succ fuel ih =>
    cases cs with
    | nil =>
      cases h
      exact ⟨[], rfl, .nil⟩
    | cons c cs =>
      rw [List.length_cons] at enough
      rw [split] at h
      split at h
      · rename_i blank
        obtain ⟨ts, same, lexes⟩ := ih (by omega) h
        exact ⟨ts, same, .blank blank lexes⟩
      · rename_i solid
        split at h
        · cases h
        · rename_i token raw rest scanned
          have shorter := scan_shortens scanned
          obtain ⟨later, read, rfl⟩ := map_ok.mp h
          obtain ⟨ts, same, lexes⟩ := ih (by omega) read
          refine ⟨token :: ts, ?_, .token (Bool.eq_false_iff.mpr solid) scanned lexes⟩
          rw [List.map_cons, same, List.cons_append]

theorem split_of_lexes (lexes : Lexes cs ts) (enough : cs.length < fuel) :
    ∃ located, split length fuel offset cs = .ok located ∧
      located.map (·.token) = ts ++ [.eof] := by
  induction lexes generalizing fuel offset with
  | nil => cases fuel <;> exact ⟨_, rfl, rfl⟩
  | @blank c cs ts blank _ ih =>
    obtain ⟨fuel, rfl⟩ : ∃ k, fuel = k + 1 := ⟨fuel - 1, by omega⟩
    rw [List.length_cons] at enough
    rw [split, if_pos blank]
    exact ih (by omega)
  | @token c cs raw rest token ts solid scanned _ ih =>
    obtain ⟨fuel, rfl⟩ : ∃ k, fuel = k + 1 := ⟨fuel - 1, by omega⟩
    rw [List.length_cons] at enough
    have shorter := scan_shortens scanned
    have left : rest.length < fuel := by omega
    obtain ⟨later, read, same⟩ := @ih fuel (offset + Text.byteLength raw) left
    refine ⟨⟨token, offset, offset + Text.byteLength raw⟩ :: later, ?_, ?_⟩
    · simp only [split, solid, Bool.false_eq_true, if_false, scanned, read]
      rfl
    · rw [List.map_cons, same, List.cons_append]

/-- The tokens that a text is split into are those that it falls into, and the end of the text. -/
theorem ofText_iff_lexes {text : String} :
    Lexes text.toList ts ↔
      ∃ located, LocatedToken.ofText text = .ok located ∧ located.map (·.token) = ts ++ [.eof] := by
  constructor
  · intro lexes
    exact split_of_lexes lexes (Nat.lt_succ_self _)
  · rintro ⟨located, read, same⟩
    obtain ⟨ts', same', lexes⟩ := lexes_of_split (Nat.lt_succ_self _) read
    rw [same] at same'
    rwa [List.append_cancel_right same']

theorem proper_of_text {text : String} (read : LocatedToken.ofText text = .ok located) :
    ∀ t ∈ located, t.token.Proper := by
  obtain ⟨ts, same, lexes⟩ := lexes_of_split (Nat.lt_succ_self _) read
  intro t member
  have listed : t.token ∈ ts ++ [.eof] := same ▸ List.mem_map_of_mem member
  rcases List.mem_append.mp listed with scanned | last
  · exact lexes.proper _ scanned
  · rw [List.mem_singleton.mp last]
    trivial

/-! ### Texts that were written -/

variable {s : String}

theorem Lexes.word (isWord : IsWord s.toList) (stops : Stops rest) (more : Lexes rest ts) :
    Lexes (s.toList ++ rest) (.word s :: ts) := by
  cases letters : s.toList with
  | nil =>
    rw [letters] at isWord
    exact isWord.elim
  | cons c w =>
    rw [letters] at isWord
    have scanned := scan_word isWord stops
    rw [← letters, String.ofList_toList] at scanned
    exact .token (solid_of_startsWord isWord.1) scanned more

theorem Lexes.number (isNumber : IsNumber s.toList) (stops : Stops rest) (more : Lexes rest ts) :
    Lexes (s.toList ++ rest) (.number s :: ts) := by
  obtain ⟨first, others, digits, digit⟩ := isNumber.cons
  rw [digits] at isNumber
  have scanned := scan_number isNumber stops
  rw [← digits, String.ofList_toList] at scanned
  rw [digits]
  exact .token (Decimal.not_isBlank_of_isDigit digit) scanned more

theorem Lexes.string (plain : '"' ∉ s.toList ∧ '\\' ∉ s.toList) (more : Lexes rest ts) :
    Lexes ('"' :: (s.toList ++ '"' :: rest)) (.string s :: ts) := by
  have scanned : scan '"' (s.toList ++ '"' :: rest) =
      .ok (.string s, '"' :: (s.toList ++ ['"']), rest) := by
    rw [scan, if_pos (.inl rfl), scanString_append plain]
    simp only [Except.map, String.ofList_toList]
  exact .token rfl scanned more

end LocatedToken

end Questionnaire
