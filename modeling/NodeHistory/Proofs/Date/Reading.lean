import NodeHistory.Proofs.Date.Scanning

/-!
What the program's reader finds in a spelled moment. The date and the clock are each read whole at
their first number, the offset at its sign, and the letter or blank between them and the blanks
around them are passed over. Main statement: on whatever day it reads, this reader reads moments as
spelled.
-/

namespace NodeHistory.Date

open Text Time Number

variable {today : Civil} {behind ahead : List Token} {token : Token} {p : Parts}

/-! ### Tokens that are no numbers -/

/-- The token spells no number, day, month or half of the day. -/
def Token.Wordless (token : Token) : Prop :=
  Decimal.ofText? token = none ∧ token.isUnbounded = false ∧ token.weekday? = none ∧
    token.month? = none ∧ token.meridiem? = none

instance (token : Token) : Decidable token.Wordless := by
  unfold Token.Wordless
  infer_instance

theorem readToken_wordless (h : token.Wordless) :
    readToken today behind ahead token p =
      if mayBeZone p token && p.offset.isNone then .ok (readZone p token ahead.head?, 0)
      else if p.hour.isSome && token.isSign then readOffset p token ahead
      else if token.isFiller then .ok (p, 0)
      else .error .unreadable := by
  obtain ⟨hnumber, hbounded, hweekday, hmonth, hmeridiem⟩ := h
  simp only [readToken, hnumber, hbounded, hweekday, hmonth, hmeridiem, Bool.false_eq_true,
    if_false]

theorem readTokens_cons {q : Parts} {taken : Nat}
    (h : readToken today behind ahead token p = .ok (q, taken)) :
    readTokens today behind (token :: ahead) p =
      readTokens today ((ahead.take taken).reverse ++ token :: behind) (ahead.drop taken) q := by
  rw [readTokens, h]

theorem readToken_blank : readToken today behind ahead [' '] p = .ok (p, 0) := by
  have hword : Token.Wordless [' '] := by decide
  rw [readToken_wordless hword]
  have hzone : mayBeZone p [' '] = false := by
    have hname : Token.isZoneName [' '] = false := by decide
    simp [mayBeZone, hname]
  have hsign : Token.isSign [' '] = false := by decide
  have hfiller : Token.isFiller [' '] = true := by decide
  simp [hzone, hsign, hfiller]

/-- The letter before a clock. -/
theorem readToken_letter (h : p.hour = none) :
    readToken today behind ahead ['T'] p = .ok (p, 0) := by
  have hword : Token.Wordless ['T'] := by decide
  have hfiller : Token.isFiller ['T'] = true := by decide
  rw [readToken_wordless hword]
  simp [mayBeZone, h, hfiller]

/-- Blanks are passed over. -/
theorem readTokens_blanks (count : Nat) :
    readTokens today behind (List.replicate count [' '] ++ ahead) p =
      readTokens today (List.replicate count [' '] ++ behind) ahead p := by
  induction count generalizing behind with
  | zero => rfl
  | succ count ih =>
      rw [List.replicate_succ, List.cons_append, readTokens_cons readToken_blank]
      simp only [List.take_zero, List.reverse_nil, List.nil_append, List.drop_zero]
      rw [ih, List.append_cons, ← List.replicate_succ', List.replicate_succ]

/-! ### Numbers -/

theorem findUnit?_eq_none {sign : Token} (hbehind : behind.head?.bind Token.unit? = none)
    (hsign : sign.unit? = none) (hfilled : sign ≠ [' ']) :
    findUnit? behind (sign :: ahead) = none := by
  simp [findUnit?, hbehind, hsign, hfilled]

/-- No rule for numbers of a fixed width applies. -/
def IsFree (ahead : List Token) (token : Token) (p : Parts) : Prop :=
  isClockAfterDate p token ahead.head? = false ∧ isSixFigures token = false ∧
    [8, 12, 14].contains token.length = false

theorem readFigure_clock {d : Decimal} {minuteToken : Token} {later : List Token}
    (hfree : IsFree ([':'] :: minuteToken :: later) token p)
    (hbehind : behind.head?.bind Token.unit? = none) :
    readFigure behind ([':'] :: minuteToken :: later) token d p =
      readClock p d.whole minuteToken later := by
  obtain ⟨hclock, hsix, hlong⟩ := hfree
  have hunit : findUnit? behind ([':'] :: minuteToken :: later) = none :=
    findUnit?_eq_none hbehind (by decide) (by decide)
  simp only [readFigure, hclock, hsix, hlong, hunit, Bool.false_eq_true, if_false]

theorem readFigure_joined {d : Decimal} (hfree : IsFree (['-'] :: ahead) token p)
    (hbehind : behind.head?.bind Token.unit? = none) :
    readFigure behind (['-'] :: ahead) token d p = readJoinedDate p token ['-'] ahead := by
  obtain ⟨hclock, hsix, hlong⟩ := hfree
  have hunit : findUnit? behind (['-'] :: ahead) = none :=
    findUnit?_eq_none hbehind (by decide) (by decide)
  simp only [readFigure, hclock, hsix, hlong, hunit, Bool.false_eq_true, if_false]
  rfl

theorem isFree_of_length {separator : Token} (hlength : token.length = 2 ∨ token.length = 4)
    (hclock : p.days.values.length = 3 → separator = [':']) :
    IsFree (separator :: ahead) token p := by
  refine ⟨?_, ?_, ?_⟩
  · by_cases hdated : p.days.values.length = 3
    · simp [isClockAfterDate, hclock hdated]
    · simp [isClockAfterDate, hdated]
  · rcases hlength with hlength | hlength <;> simp [isSixFigures, hlength]
  · rcases hlength with hlength | hlength <;> simp [hlength]

/-! ### Dates -/

theorem addToken_year {year : Nat} (h : year < 10 ^ 4) :
    DayFields.addToken {} (fixedDigits 4 year) = some ⟨[year], some 0, none, true⟩ := by
  have hnumber : boundedNumber? (fixedDigits 4 year) = some year :=
    boundedNumber?_fixedDigits (by omega) (by omega) h
  have hdigits : Token.isDigits (fixedDigits 4 year) = true :=
    isDigits_of_figures (isFigures_fixedDigits (by omega) year)
  unfold DayFields.addToken
  rw [hnumber, hdigits, length_fixedDigits]
  rfl

theorem addToken_unmarked {f : DayFields} {n : Nat} (h : n < 10 ^ 2) :
    f.addToken (fixedDigits 2 n) = some { f with values := f.values ++ [n] } := by
  have hnumber : boundedNumber? (fixedDigits 2 n) = some n :=
    boundedNumber?_fixedDigits (by omega) (by omega) h
  unfold DayFields.addToken
  rw [hnumber, length_fixedDigits, Bool.and_comm]
  rfl

/-- A date has been read whose first part is known for the year. -/
def Parts.dated (c : Civil) : Parts := { days := ⟨[c.year, c.month, c.day], some 0, none, true⟩ }

/-- A clock has been read behind the date. -/
def Parts.clocked (c : Civil) : Parts :=
  { Parts.dated c with
    hour := some c.hour, minute := some c.minute, second := some c.second, micro := some c.micro }

/-- Three numbers around a separator met twice. -/
theorem readJoinedDate_eq {days days' days'' : DayFields} {separator second third : Token}
    {later : List Token} (hfirst : p.days.addToken token = some days)
    (hfiller : second.isFiller = false) (hdigits : second.isDigits = true)
    (hsecond : days.addToken second = some days')
    (hthird : addDayOrMonth days' third = some days'') :
    readJoinedDate p token separator (second :: separator :: third :: later) =
      .ok ({ p with days := days'' }, 4) := by
  simp only [readJoinedDate, hfirst, hfiller, hdigits, if_true]
  simp [require, hsecond, hthird, bind, Except.bind, pure, Except.pure]

theorem readToken_date {c : Civil} (h : c.Valid) (hbehind : behind.head?.bind Token.unit? = none) :
    readToken today behind (['-'] :: fixedDigits 2 c.month :: ['-'] :: fixedDigits 2 c.day :: ahead)
      (fixedDigits 4 c.year) {} = .ok (.dated c, 4) := by
  obtain ⟨hyear, hmonth, hday, -⟩ := h.fits
  have htwo (n : Nat) : IsFigures (fixedDigits 2 n) := isFigures_fixedDigits (by omega) n
  have hfree : IsFree (['-'] :: fixedDigits 2 c.month :: ['-'] :: fixedDigits 2 c.day :: ahead)
      (fixedDigits 4 c.year) {} := isFree_of_length (.inr (length_fixedDigits _ _)) (by simp)
  have hnumber : Decimal.ofText? (fixedDigits 4 c.year) = some ⟨c.year, 0⟩ :=
    ofText?_fixedDigits (by omega) hyear
  have hthird : addDayOrMonth ⟨[c.year, c.month], some 0, none, true⟩ (fixedDigits 2 c.day) =
      some ⟨[c.year, c.month, c.day], some 0, none, true⟩ := by
    rw [addDayOrMonth, month?_of_figures (htwo _)]
    exact addToken_unmarked hday
  simp only [readToken, hnumber]
  rw [readFigure_joined hfree hbehind]
  exact readJoinedDate_eq (addToken_year hyear) (not_isFiller_of_figures (htwo _))
    (isDigits_of_figures (htwo _)) (addToken_unmarked hmonth) hthird

/-! ### Clocks -/

/-- A minute is short enough to take its fraction, which is none. -/
theorem minuteAndSecond_minute {minute : Nat} (h : minute < 60) :
    minuteAndSecond ⟨minute, 0⟩ = .ok (minute, none) := by
  revert minute
  decide

theorem secondAndMicro_secondText (s : Spelling) :
    secondAndMicro s.secondText = .ok (s.shown.second, s.shown.micro) := by
  obtain ⟨-, -, -, -, -, htwo, hsix⟩ := s.valid.fits
  have hplain (width n : Nat) : ∀ c ∈ fixedDigits width n, decide (c ≠ '.') = true :=
    fun c hc => decide_eq_true (ne_of_figure (isDigit_of_mem_fixedDigits hc)).1
  have hsecond : boundedNumber? (fixedDigits 2 s.shown.second) = some s.shown.second :=
    boundedNumber?_fixedDigits (by omega) (by omega) htwo
  have hmicro : boundedNumber? (fixedDigits 6 s.shown.micro) = some s.shown.micro :=
    boundedNumber?_fixedDigits (by omega) (by omega) hsix
  unfold Spelling.secondText
  cases hfractional : s.fractional with
  | false =>
      rw [if_neg Bool.false_ne_true, List.append_nil, secondAndMicro,
        List.dropWhile_eq_nil_iff.mpr (hplain _ _), hsecond, s.whole hfractional]
      rfl
  | true =>
      have hcut : (fixedDigits 6 s.shown.micro ++ List.replicate
          (6 - (fixedDigits 6 s.shown.micro).length) '0').take 6 =
            fixedDigits 6 s.shown.micro := by
        rw [length_fixedDigits, Nat.sub_self, List.replicate_zero, List.append_nil,
          List.take_of_length_le (Nat.le_of_eq (length_fixedDigits _ _))]
      have hone : '.' ∉ fixedDigits 6 s.shown.micro :=
        fun hpoint => of_decide_eq_true (hplain _ _ '.' hpoint) rfl
      rw [if_pos rfl, secondAndMicro, List.dropWhile_append_of_pos (hplain _ _),
        List.takeWhile_append_of_pos (hplain _ _)]
      simp [hone, hcut, hsecond, hmicro, require, bind, Except.bind, pure, Except.pure]

/-- Minutes and seconds behind the colon after an hour. -/
theorem readClock_eq {hour minute second micro : Nat} {minuteToken secondToken : Token}
    {later : List Token} (hnumber : Decimal.ofText? minuteToken = some ⟨minute, 0⟩)
    (hminute : minute < 60) (hsecond : secondAndMicro secondToken = .ok (second, micro)) :
    readClock p hour minuteToken ([':'] :: secondToken :: later) =
      .ok ({ p with hour := some hour, minute := some minute, second := some second,
                    micro := some micro }, 4) := by
  rw [readClock, hnumber]
  simp [require, minuteAndSecond_minute hminute, hsecond, bind, Except.bind, pure, Except.pure]

theorem readToken_clock (s : Spelling) (hbehind : behind.head?.bind Token.unit? = none) :
    readToken today behind ([':'] :: fixedDigits 2 s.shown.minute :: [':'] :: s.secondText :: ahead)
      (fixedDigits 2 s.shown.hour) (.dated s.shown) =
        .ok (.clocked s.shown, 4) := by
  have hvalid := s.valid
  obtain ⟨-, -, -, hhour, hminute, -⟩ := hvalid.fits
  have hfree : IsFree ([':'] :: fixedDigits 2 s.shown.minute :: [':'] :: s.secondText :: ahead)
      (fixedDigits 2 s.shown.hour) (.dated s.shown) :=
    isFree_of_length (.inl (length_fixedDigits _ _)) fun _ => rfl
  have hnumber {n : Nat} (h : n < 10 ^ 2) : Decimal.ofText? (fixedDigits 2 n) = some ⟨n, 0⟩ :=
    ofText?_fixedDigits (by omega) h
  have hwhole : Decimal.whole ⟨s.shown.hour, 0⟩ = s.shown.hour := Nat.div_one _
  have hsixty : s.shown.minute < 60 := hvalid.2.2.2.2.1
  simp only [readToken, hnumber hhour]
  rw [readFigure_clock hfree hbehind, hwhole]
  exact readClock_eq (hnumber hminute) hsixty (secondAndMicro_secondText s)

/-! ### Zones -/

/-- A zone has been read behind the clock. -/
def Parts.zoned (c : Civil) : ZoneMark → Parts
  | .absent => .clocked c
  | .zero => { Parts.clocked c with zone := some ['Z'] }
  | .offset behind minutes =>
    { Parts.clocked c with offset := some (ZoneMark.offset behind minutes).secondsAhead }

theorem readTokens_trailing (count : Nat) :
    readTokens today behind (List.replicate count [' ']) p = .ok p := by
  rw [← List.append_nil (List.replicate count [' ']), readTokens_blanks, readTokens]

/-- Blanks are no zone in parentheses. -/
theorem zoneInParentheses?_blanks (count : Nat) :
    zoneInParentheses? p (List.replicate count [' ']) = none := by
  unfold zoneInParentheses?
  split
  next filler name rest heq =>
    have hopens : ['('] ∈ List.replicate count [' '] := by simp [heq]
    cases List.eq_of_mem_replicate hopens
  next => rfl

theorem readOffset_eq {c : Civil} (behindZero : Bool) (minutes : Fin 1440) (count : Nat) :
    readOffset (.clocked c) [ZoneMark.sign behindZero] (fixedDigits 2 (minutes / 60) :: [':'] ::
        fixedDigits 2 (minutes % 60) :: List.replicate count [' ']) =
      .ok (.zoned c (.offset behindZero minutes), 3) := by
  have hbound := minutes.isLt
  have hhours : boundedNumber? (fixedDigits 2 (minutes / 60)) = some (minutes / 60 : Nat) :=
    boundedNumber?_fixedDigits (by omega) (by omega) (by omega)
  have hminutes : boundedNumber? (fixedDigits 2 (minutes % 60)) = some (minutes % 60 : Nat) :=
    boundedNumber?_fixedDigits (by omega) (by omega) (by omega)
  have hseconds : ((minutes / 60 : Nat) : Int) * 3600 + ((minutes % 60 : Nat) : Int) * 60 =
      minutes * 60 := by omega
  simp only [readOffset, require, List.head?_cons, List.getElem?_cons_succ,
    List.getElem?_cons_zero, hhours, hminutes, Option.bind_some, if_true, bind, Except.bind, pure,
    Except.pure, hseconds, List.drop_succ_cons, List.drop_zero, zoneInParentheses?_blanks]
  cases behindZero with
  | false => rfl
  | true => rfl

theorem readToken_zone {c : Civil} (count : Nat) :
    readToken today behind (List.replicate count [' ']) ['Z'] (.clocked c) =
      .ok (.zoned c .zero, 0) := by
  have hword : Token.Wordless ['Z'] := by decide
  have hzone : mayBeZone (.clocked c) ['Z'] = true := rfl
  have hnext : (List.replicate count [' ']).head?.any Token.isSign = false := by
    cases count <;> rfl
  rw [readToken_wordless hword, hzone, readZone, hnext]
  rfl

theorem readToken_offset {c : Civil} (behindZero : Bool) (minutes : Fin 1440) (count : Nat) :
    readToken today behind (fixedDigits 2 (minutes / 60) :: [':'] :: fixedDigits 2 (minutes % 60) ::
        List.replicate count [' ']) [ZoneMark.sign behindZero] (.clocked c) =
      .ok (.zoned c (.offset behindZero minutes), 3) := by
  have hword : Token.Wordless [ZoneMark.sign behindZero] := by cases behindZero <;> decide
  have hzone : mayBeZone (.clocked c) [ZoneMark.sign behindZero] = false := by
    cases behindZero <;> rfl
  have hsign : Token.isSign [ZoneMark.sign behindZero] = true := by cases behindZero <;> rfl
  rw [readToken_wordless hword, hzone, hsign]
  exact readOffset_eq behindZero minutes count

theorem readTokens_zone {c : Civil} (zone : ZoneMark) (count : Nat) :
    readTokens today behind (zone.tokens ++ List.replicate count [' ']) (.clocked c) =
      .ok (.zoned c zone) := by
  cases zone with
  | absent => exact readTokens_trailing count
  | zero => exact (readTokens_cons (readToken_zone count)).trans (readTokens_trailing count)
  | offset behindZero minutes =>
      exact (readTokens_cons (readToken_offset behindZero minutes count)).trans
        (readTokens_trailing count)

/-! ### Spelled moments -/

theorem readToken_between {c : Civil} (between : Between) :
    readToken today behind ahead [between.char] (.dated c) = .ok (.dated c, 0) := by
  cases between with
  | letter => exact readToken_letter rfl
  | blank => exact readToken_blank

/-- The first number of the date is marked as the year, so the others are month and day. -/
theorem resolve?_zoned (c : Civil) (zone : ZoneMark) :
    (Parts.zoned c zone).days.resolve? = some ⟨some c.year, some c.month, some c.day⟩ := by
  have hdays : (Parts.zoned c zone).days = ⟨[c.year, c.month, c.day], some 0, none, true⟩ := by
    cases zone <;> rfl
  rw [hdays, DayFields.resolve?, if_neg (by simp)]
  exact congrArg some (if_pos (.inr rfl))

theorem isEmpty_zoned (c : Civil) (zone : ZoneMark) (day : DayParts) :
    (Parts.zoned c zone).isEmpty day = false := by
  have hhour : (Parts.zoned c zone).hour = some c.hour := by cases zone <;> rfl
  simp [Parts.isEmpty, hhour]

/-- A year of four figures is meant as it stands. -/
theorem localTime?_zoned (t : Instant) (zone : ZoneMark) :
    (Parts.zoned t.civil zone).localTime? today
      ⟨some t.civil.year, some t.civil.month, some t.civil.day⟩ = some t := by
  have hyear (year : Nat) : fullYear today year true = year := by simp [fullYear]
  have hread (c : Civil) :
      (Parts.zoned c zone).localTime? today ⟨some c.year, some c.month, some c.day⟩ =
        Instant.ofCivil? { c with year := fullYear today c.year true } := by
    cases zone <;> exact Option.bind_fun_some _
  rw [hread, hyear]
  exact Instant.ofCivil?_civil t

/-- An offset of zero is the zero meridian, and none of a spelled moment is too long to be told
apart from a day count. -/
theorem found_zoned (shown : Instant) (c : Civil) (zone : ZoneMark) :
    (Parts.zoned c zone).zoneInEffect.found shown = zone.found shown := by
  cases zone with
  | absent | zero => rfl
  | offset behindZero minutes =>
      let zone := ZoneMark.offset behindZero minutes
      have hzone : (Parts.zoned c zone).zoneInEffect =
          if zone.secondsAhead = 0 then .zero else .ahead zone.secondsAhead := rfl
      have hday : zone.secondsAhead.natAbs < 86400 := zone.secondsAhead_natAbs_lt
      have hnear : ¬ (zone.secondsAhead < -longestOffset + 86400 ∨
          longestOffset ≤ zone.secondsAhead) := by
        unfold longestOffset
        omega
      have hfound : zone.found shown = .zoned shown zone.secondsAhead := rfl
      rw [hzone, hfound]
      by_cases hzero : zone.secondsAhead = 0
      · rw [if_pos hzero, Zone.found, hzero]
      · rw [if_neg hzero, Zone.found, if_neg hnear]

namespace Spelling

variable {s : Spelling}

theorem readTokens_eq (leading trailing : Nat) :
    readTokens today [] (List.replicate leading [' '] ++
      (s.tokens ++ List.replicate trailing [' '])) {} = .ok (.zoned s.shown s.zone) := by
  have hfirst : (List.replicate leading [' '] ++ []).head?.bind Token.unit? = none := by
    cases leading <;> rfl
  have hbetween (rest : List Token) :
      ([s.between.char] :: rest).head?.bind Token.unit? = none := by cases s.between <;> rfl
  rw [readTokens_blanks, tokens, List.append_assoc]
  simp only [List.cons_append, List.nil_append]
  rw [readTokens_cons (readToken_date s.valid hfirst)]
  simp only [List.take_succ_cons, List.take_zero, List.drop_succ_cons, List.drop_zero]
  rw [readTokens_cons (readToken_between s.between)]
  simp only [List.take_zero, List.drop_zero, List.reverse_nil, List.nil_append]
  rw [readTokens_cons (readToken_clock s (hbetween _))]
  exact readTokens_zone s.zone trailing

theorem read_surrounded {shown : Instant} (hshown : shown.civil = s.shown) {lead trail : List Char}
    (hlead : ∀ c ∈ lead, isBlank c = true) (htrail : ∀ c ∈ trail, isBlank c = true) :
    read today (lead ++ s.text ++ trail) = s.zone.found shown := by
  rw [read, ofText_surrounded hlead htrail, readTokens_eq]
  simp only [resolve?_zoned, isEmpty_zoned, Bool.false_eq_true, if_false]
  rw [← hshown, localTime?_zoned]
  exact found_zoned shown shown.civil s.zone

end Spelling

/-- The program's reader finds what is spelled, whatever the day on which it reads. -/
theorem reader_readsSpelled (now : Instant) : (reader now).ReadsSpelled := by
  intro w shown hshown
  rw [reader, Written.raw, String.toList_ofList]
  exact Spelling.read_surrounded hshown w.lead_blank w.trail_blank

end NodeHistory.Date
