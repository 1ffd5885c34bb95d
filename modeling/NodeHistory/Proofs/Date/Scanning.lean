import NodeHistory.Date.Reader
import NodeHistory.Proofs.Date.Spelling

/-!
Which tokens a written text falls into. A row of figures, with or without a point among them, is one
token as long as nothing follows that could belong to the number; a blank, a sign and a lone letter
are tokens by themselves. A token of figures spells its number and no word. So a spelled moment
falls into its figures and the signs between them.
-/

namespace NodeHistory.Date

open Text Time Number

/-! ### Numbers, signs and words -/

variable {rest : List Char} {run : Run} {c : Char}

/-- The text goes on with nothing that could belong to a number before it. -/
def EndsNumber (rest : List Char) : Prop :=
  ∀ c ∈ rest.head?, isDigit c = false ∧ c ≠ '.' ∧ c ≠ ','

theorem scan_ended (hends : ∀ c ∈ rest.head?, run.extend? c = none)
    (hsame : run.ended.tokens = run.tokens) :
    Token.scan (some run) rest = run.tokens ++ Token.scan none rest := by
  cases rest with
  | nil => simp [Token.scan]
  | cons c rest => simp [Token.scan, hends c rfl, hsame]

theorem scan_extend {next : Run} (h : run.extend? c = some next) :
    Token.scan (some run) (c :: rest) = Token.scan (some next) rest := by
  rw [Token.scan, h]

/-- Figures lengthen a number. -/
theorem scan_figures {shape : Shape} (hshape : shape = .number ∨ shape = .dottedNumber)
    {row : List Char} (hrow : ∀ c ∈ row, c.isDigit = true) (reversed : List Char) :
    Token.scan (some ⟨shape, reversed, false⟩) (row ++ rest) =
      Token.scan (some ⟨shape, row.reverse ++ reversed, false⟩) rest := by
  induction row generalizing reversed with
  | nil => rfl
  | cons c row ih =>
      obtain ⟨hc, hrow⟩ := List.forall_mem_cons.mp hrow
      have hextend : (Run.mk shape reversed false).extend? c =
          some ⟨shape, c :: reversed, false⟩ := by
        rcases hshape with rfl | rfl
        · simp [Run.extend?, isDigit_of_figure hc]
        · simp [Run.extend?, isDigit_of_figure hc]
      rw [List.cons_append, scan_extend hextend, ih hrow]
      simp

theorem scan_leading {row : List Char} (hrow : IsFigures row) :
    Token.scan none (row ++ rest) = Token.scan (some ⟨.number, row.reverse, false⟩) rest := by
  obtain ⟨hfilled, hrow⟩ := hrow
  cases row with
  | nil => exact absurd rfl hfilled
  | cons c row =>
      obtain ⟨hc, hrow⟩ := List.forall_mem_cons.mp hrow
      have hstart : Run.start c = ([], some ⟨.number, [c], false⟩) := by
        simp [Run.start, isLetter_of_figure hc, isDigit_of_figure hc]
      rw [List.cons_append, Token.scan, hstart, List.reverse_cons]
      exact scan_figures (.inl rfl) hrow [c]

/-- A row of figures is a token. -/
theorem scan_number {row : List Char} (hrow : IsFigures row) (hrest : EndsNumber rest) :
    Token.scan none (row ++ rest) = row :: Token.scan none rest := by
  have hends : ∀ d ∈ rest.head?, (Run.mk .number row.reverse false).extend? d = none := by
    intro d hd
    obtain ⟨hdigit, hpoint, hcomma⟩ := hrest d hd
    simp [Run.extend?, hdigit, hpoint, hcomma]
  rw [scan_leading hrow, scan_ended hends rfl]
  simp [Run.tokens]

/-- A run with one point that does not end in it is a decimal number. -/
theorem tokens_decimal {reversed : List Char} (hpoint : reversed.count '.' = 1)
    (hlast : ∀ c ∈ reversed.head?, c.isDigit = true) :
    (Run.mk .dottedNumber reversed false).tokens = [reversed.reverse] := by
  have hclosed : reversed.head?.any Run.isSeparator = false := by
    rw [Option.any_eq_false]
    intro c hc
    obtain ⟨hdot, hcomma, -⟩ := ne_of_figure (hlast c hc)
    simp [Run.isSeparator, hdot, hcomma]
  have hmember : '.' ∈ reversed := List.count_pos_iff.mp (by omega)
  simp [Run.tokens, hpoint, hclosed, Run.withPoint, hmember]

theorem count_point_figures {row : List Char} (hrow : IsFigures row) : row.count '.' = 0 :=
  List.count_eq_zero.mpr fun hpoint => (ne_of_figure (hrow.2 _ hpoint)).1 rfl

/-- Two rows of figures with a point between them are a token. -/
theorem scan_decimal {whole places : List Char} (hwhole : IsFigures whole)
    (hplaces : IsFigures places) (hrest : EndsNumber rest) :
    Token.scan none (whole ++ '.' :: places ++ rest) =
      (whole ++ '.' :: places) :: Token.scan none rest := by
  let reversed := places.reverse ++ '.' :: whole.reverse
  have hcount : reversed.count '.' = 1 := by
    simp [reversed, count_point_figures hwhole, count_point_figures hplaces]
  have hlast : ∀ d ∈ reversed.head?, d.isDigit = true := by
    have hreversed : IsFigures places.reverse :=
      ⟨by simpa using hplaces.1, by simpa using hplaces.2⟩
    exact fun d => hreversed.of_mem_head?
  have hextend : (Run.mk .number whole.reverse false).extend? '.' =
      some ⟨.dottedNumber, '.' :: whole.reverse, false⟩ := by
    have hpoint : isDigit '.' = false := by decide
    simp [Run.extend?, hpoint]
  have hends : ∀ d ∈ rest.head?, (Run.mk .dottedNumber reversed false).extend? d = none := by
    intro d hd
    obtain ⟨hdigit, hpoint, hcomma⟩ := hrest d hd
    have hopen : (Run.mk .dottedNumber reversed false).endsInPoint = false := by
      rw [← Bool.not_eq_true]
      intro hpoint
      have hfigure := hlast '.' (of_decide_eq_true hpoint)
      cases hfigure
    simp [Run.extend?, hdigit, hpoint, hopen]
  rw [List.append_assoc, scan_leading hwhole, List.cons_append, scan_extend hextend,
    scan_figures (.inr rfl) hplaces.2, scan_ended hends rfl, tokens_decimal hcount hlast]
  simp [reversed]

/-- A character that is neither letter, figure nor blank is a token. -/
theorem scan_sign (h : isLetter c = false ∧ isDigit c = false ∧ isBlank c = false) :
    Token.scan none (c :: rest) = [c] :: Token.scan none rest := by
  simp [Token.scan, Run.start, h]

theorem scan_blank (h : isBlank c = true) :
    Token.scan none (c :: rest) = [' '] :: Token.scan none rest := by
  obtain ⟨hletter, hdigit, -⟩ := plain_of_isBlank h
  simp [Token.scan, Run.start, hletter, hdigit, h]

/-- A letter with neither letter nor point behind it is a token. -/
theorem scan_letter (h : isLetter c = true)
    (hrest : ∀ d ∈ rest.head?, isLetter d = false ∧ d ≠ '.') :
    Token.scan none (c :: rest) = [c] :: Token.scan none rest := by
  have hends : ∀ d ∈ rest.head?, (Run.mk .word [c] false).extend? d = none := by
    intro d hd
    obtain ⟨hletter, hpoint⟩ := hrest d hd
    simp [Run.extend?, hletter, hpoint]
  have hstart : Run.start c = ([], some ⟨.word, [c], false⟩) := by simp [Run.start, h]
  rw [Token.scan, hstart]
  exact scan_ended hends rfl

theorem scan_blanks {blanks : List Char} (h : ∀ c ∈ blanks, isBlank c = true) :
    Token.scan none (blanks ++ rest) =
      List.replicate blanks.length [' '] ++ Token.scan none rest := by
  induction blanks with
  | nil => rfl
  | cons c blanks ih =>
      obtain ⟨hc, hblanks⟩ := List.forall_mem_cons.mp h
      rw [List.cons_append, scan_blank hc, ih hblanks]
      rfl

/-! ### Tokens of figures -/

variable {token : Token}

theorem ofText?_of_figures (h : IsFigures token) :
    Decimal.ofText? token = (number? token).map (⟨·, 0⟩) := by
  have hplain : ∀ c ∈ token, decide (c ≠ '.') = true := by
    intro c hc
    simpa using (ne_of_figure (h.2 c hc)).1
  rw [Decimal.ofText?, List.takeWhile_eq_self_iff.mpr hplain, List.dropWhile_eq_nil_iff.mpr hplain]
  simp

theorem ofText?_fixedDigits {width n : Nat} (hwidth : 0 < width) (hn : n < 10 ^ width) :
    Decimal.ofText? (Time.fixedDigits width n) = some ⟨n, 0⟩ := by
  rw [ofText?_of_figures (Time.isFigures_fixedDigits hwidth n), Time.number?_fixedDigits hwidth hn]
  rfl

theorem isDigits_of_figures (h : IsFigures token) : token.isDigits = true := by
  obtain ⟨hfilled, hfigures⟩ := h
  have hall : ∀ c ∈ token, isDigit c = true := fun c hc => isDigit_of_figure (hfigures c hc)
  simpa [Token.isDigits, hfilled] using hall

/-- No word of the list has a figure in it. -/
def areLetters (words : List String) : Bool :=
  words.all fun word => word.toList.all fun c => !c.isDigit

/-- A token of figures is no word of letters. -/
theorem not_word_of_figures (h : IsFigures token) {words : List String}
    (hwords : areLetters words = true) : words.contains token.lowered = false := by
  obtain ⟨hfilled, hfigures⟩ := h
  have hsame : ∀ c ∈ token, c.toLower = id c := fun c hc => toLower_of_figure (hfigures c hc)
  have hlowered : token.lowered.toList = token := by
    rw [Token.lowered, String.toList_ofList, List.map_congr_left hsame, List.map_id]
  rw [← Bool.not_eq_true, List.contains_iff_mem]
  intro hword
  obtain ⟨c, hc⟩ := List.exists_mem_of_ne_nil token hfilled
  have hletters := List.all_eq_true.mp hwords token.lowered hword
  have hno := List.all_eq_true.mp hletters c (hlowered.symm ▸ hc)
  rw [hfigures c hc] at hno
  cases hno

theorem not_isFiller_of_figures (h : IsFigures token) : token.isFiller = false :=
  not_word_of_figures h rfl

theorem month?_of_figures (h : IsFigures token) : token.month? = none := by
  have hletters : Token.months.all areLetters = true := rfl
  have hnone : ∀ names ∈ Token.months, names.contains token.lowered = false :=
    fun names hnames => not_word_of_figures h (List.all_eq_true.mp hletters names hnames)
  rw [Token.month?, List.findIdx?_eq_none_iff.mpr hnone]
  rfl
/-! ### The tokens of a spelled moment -/

def ZoneMark.tokens : ZoneMark → List Token
  | absent => []
  | zero => [['Z']]
  | offset behind minutes =>
    [[sign behind], fixedDigits 2 (minutes / 60), [':'], fixedDigits 2 (minutes % 60)]

def Spelling.tokens (s : Spelling) : List Token :=
  [fixedDigits 4 s.shown.year, ['-'], fixedDigits 2 s.shown.month, ['-'],
    fixedDigits 2 s.shown.day, [s.between.char], fixedDigits 2 s.shown.hour, [':'],
    fixedDigits 2 s.shown.minute, [':'], s.secondText] ++ s.zone.tokens

theorem endsNumber_cons {c : Char} (rest : List Char)
    (h : Text.isDigit c = false ∧ c ≠ '.' ∧ c ≠ ',') : EndsNumber (c :: rest) := by
  intro d hd
  obtain rfl := Option.some.inj hd
  exact h

theorem endsNumber_of_blanks {blanks : List Char} (h : ∀ c ∈ blanks, isBlank c = true) :
    EndsNumber blanks := by
  intro c hc
  obtain ⟨-, hdigit, hpoint, hcomma, -⟩ := plain_of_isBlank (h c (List.mem_of_head? hc))
  exact ⟨hdigit, hpoint, hcomma⟩

/-- A dash or colon behind a number ends it and stands by itself. -/
theorem scan_joined {row rest : List Char} {joint : Char} (hrow : IsFigures row)
    (hjoint : joint = '-' ∨ joint = ':') :
    Token.scan none (row ++ joint :: rest) = row :: [joint] :: Token.scan none rest := by
  have hsign : isLetter joint = false ∧ isDigit joint = false ∧ isBlank joint = false := by
    rcases hjoint with rfl | rfl <;> decide
  have hends : EndsNumber (joint :: rest) := by
    apply endsNumber_cons
    rcases hjoint with rfl | rfl <;> decide
  rw [scan_number hrow hends, scan_sign hsign]

theorem scan_zone (zone : ZoneMark) {blanks : List Char} (h : ∀ c ∈ blanks, isBlank c = true) :
    Token.scan none (zone.text ++ blanks) = zone.tokens ++ Token.scan none blanks := by
  cases zone with
  | absent => rfl
  | zero =>
      have hplain : ∀ c ∈ blanks.head?, isLetter c = false ∧ c ≠ '.' := by
        intro c hc
        obtain ⟨hletter, -, hpoint, -⟩ := plain_of_isBlank (h c (List.mem_of_head? hc))
        exact ⟨hletter, hpoint⟩
      exact scan_letter (by decide) hplain
  | offset behind minutes =>
      have hsign : isLetter (ZoneMark.sign behind) = false ∧
          isDigit (ZoneMark.sign behind) = false ∧ isBlank (ZoneMark.sign behind) = false := by
        cases behind <;> decide
      have hhours : IsFigures (fixedDigits 2 (minutes / 60)) := isFigures_fixedDigits (by omega) _
      have hminutes : IsFigures (fixedDigits 2 (minutes % 60)) :=
        isFigures_fixedDigits (by omega) _
      simp only [ZoneMark.text, ZoneMark.tokens, List.cons_append, List.append_assoc,
        List.nil_append]
      rw [scan_sign hsign, scan_joined hhours (.inr rfl),
        scan_number hminutes (endsNumber_of_blanks h)]

theorem endsNumber_zone (zone : ZoneMark) {blanks : List Char}
    (h : ∀ c ∈ blanks, isBlank c = true) : EndsNumber (zone.text ++ blanks) := by
  cases zone with
  | absent => exact endsNumber_of_blanks h
  | zero => exact endsNumber_cons _ (by decide)
  | offset behind minutes => exact endsNumber_cons _ (by cases behind <;> decide)

namespace Spelling

variable {s : Spelling}

theorem scan_second {rest : List Char} (hrest : EndsNumber rest) :
    Token.scan none (s.secondText ++ rest) = s.secondText :: Token.scan none rest := by
  have hsecond : IsFigures (fixedDigits 2 s.shown.second) :=
    isFigures_fixedDigits (by omega) _
  unfold secondText
  cases s.fractional with
  | false =>
      rw [if_neg Bool.false_ne_true, List.append_nil]
      exact scan_number hsecond hrest
  | true => exact scan_decimal hsecond (isFigures_fixedDigits (by omega) _) hrest

theorem scan_between (between : Between) {rest : List Char}
    (hrest : ∀ c ∈ rest.head?, c.isDigit = true) :
    Token.scan none (between.char :: rest) = [between.char] :: Token.scan none rest := by
  cases between with
  | letter =>
      refine scan_letter (by decide) fun c hc => ?_
      exact ⟨isLetter_of_figure (hrest c hc), (ne_of_figure (hrest c hc)).1⟩
  | blank => exact scan_blank (by decide)

theorem scan_text {blanks : List Char} (h : ∀ c ∈ blanks, isBlank c = true) :
    Token.scan none (s.text ++ blanks) = s.tokens ++ Token.scan none blanks := by
  have hfour (n : Nat) : IsFigures (fixedDigits 4 n) := isFigures_fixedDigits (by omega) n
  have htwo (n : Nat) : IsFigures (fixedDigits 2 n) := isFigures_fixedDigits (by omega) n
  have hbetween (rest : List Char) : EndsNumber (s.between.char :: rest) := by
    apply endsNumber_cons
    cases s.between <;> decide
  have hclock (n : Nat) (rest : List Char) :
      ∀ c ∈ (fixedDigits 2 n ++ rest).head?, c.isDigit = true := fun c => (htwo n).of_mem_head?
  simp only [text, tokens, Civil.dateText, List.append_assoc, List.cons_append, List.nil_append]
  rw [scan_joined (hfour _) (.inl rfl), scan_joined (htwo _) (.inl rfl),
    scan_number (htwo _) (hbetween _), scan_between s.between (hclock _ _),
    scan_joined (htwo _) (.inr rfl), scan_joined (htwo _) (.inr rfl),
    scan_second (endsNumber_zone s.zone h), scan_zone s.zone h]

theorem not_null_of_mem_text {c : Char} (hc : c ∈ s.text) : c ≠ '\x00' := by
  have hrow (width n : Nat) : ∀ d ∈ fixedDigits width n, d ≠ '\x00' :=
    fun d hd => (ne_of_figure (isDigit_of_mem_fixedDigits hd)).2.2
  have hbetween : s.between.char ≠ '\x00' := by cases s.between <;> decide
  have hsecond : ∀ d ∈ s.secondText, d ≠ '\x00' := by
    unfold secondText
    cases s.fractional with
    | false => simpa using hrow _ _
    | true => simpa [or_imp, forall_and] using ⟨hrow _ _, hrow _ _⟩
  have hzone : ∀ d ∈ s.zone.text, d ≠ '\x00' := by
    cases s.zone with
    | absent => simp [ZoneMark.text]
    | zero => simp [ZoneMark.text]
    | offset behind minutes =>
        have hsign : ZoneMark.sign behind ≠ '\x00' := by cases behind <;> decide
        simpa [ZoneMark.text, or_imp, forall_and] using ⟨hsign, hrow _ _, hrow _ _⟩
  revert c
  simpa [text, Civil.dateText, or_imp, forall_and, and_assoc] using
    ⟨hrow _ _, hrow _ _, hrow _ _, hbetween, hrow _ _, hrow _ _, hsecond, hzone⟩

/-- What the blanks around a spelled moment come to, and the moment between them. -/
theorem ofText_surrounded {lead trail : List Char} (hlead : ∀ c ∈ lead, isBlank c = true)
    (htrail : ∀ c ∈ trail, isBlank c = true) :
    Token.ofText (lead ++ s.text ++ trail) =
      List.replicate lead.length [' '] ++ (s.tokens ++ List.replicate trail.length [' ']) := by
  have hkept : (lead ++ s.text ++ trail).filter (· ≠ '\x00') = lead ++ (s.text ++ trail) := by
    rw [List.append_assoc]
    refine List.filter_eq_self.mpr fun c hc => decide_eq_true ?_
    have hblank (hc : isBlank c = true) : c ≠ '\x00' := (plain_of_isBlank hc).2.2.2.2
    rcases List.mem_append.mp hc with hc | hc
    · exact hblank (hlead c hc)
    · rcases List.mem_append.mp hc with hc | hc
      · exact not_null_of_mem_text hc
      · exact hblank (htrail c hc)
  have htail : Token.scan none trail = List.replicate trail.length [' '] := by
    simpa [Token.scan] using @scan_blanks [] trail htrail
  rw [Token.ofText, hkept, scan_blanks hlead, scan_text htrail, htail]

end Spelling

end NodeHistory.Date
