import NodeHistory.Json.Reader

/-!
The limits of reading a record. A text with too many lists and objects inside one another, or with
too long a whole number, is given up before any fault behind that place is looked for. Each step of
the machine takes one token off the text, so what is open at a time is no more than the brackets
passed. Main statements: a reading fails without a fault in its text just where the machine meets
such a token, and then the text holds that many opening brackets or that many digits in a row.
-/

namespace NodeHistory

/-! ### Rows of digits -/

namespace Text

/-- A row of digits spells a number. -/
theorem number?_isSome {digits : List Char} (hfilled : digits ≠ [])
    (hdigits : ∀ c ∈ digits, c.isDigit = true) : (number? digits).isSome := by
  have hfold (row : List Char) (hrow : ∀ c ∈ row, c.isDigit = true) (sum : Nat) :
      (row.foldl (fun sum? c => do return 10 * (← sum?) + (← decimalValue? c))
        (some sum)).isSome := by
    induction row generalizing sum with
    | nil => rfl
    | cons c rest ih =>
      obtain ⟨hc, hrest⟩ := List.forall_mem_cons.mp hrow
      simpa [decimalValue?, hc] using ih hrest (10 * sum + (c.toNat - 0x30))
  unfold number?
  rw [if_neg (by simpa using hfilled)]
  exact hfold digits hdigits 0

theorem boundedNumber?_eq_none_iff {digits : List Char} (hfilled : digits ≠ [])
    (hdigits : ∀ c ∈ digits, c.isDigit = true) :
    boundedNumber? digits = none ↔ longestNumber < digits.length := by
  unfold boundedNumber?
  split
  next hshort =>
    have hsome := number?_isSome hfilled hdigits
    rw [Option.isSome_iff_ne_none] at hsome
    exact iff_of_false hsome (Nat.not_lt_of_le hshort)
  next hlong => exact iff_of_true rfl (Nat.lt_of_not_le hlong)

end Text

namespace Json

/-! ### Tokens and what they leave -/

namespace Token

variable {text rest : List Char} {token : Token}

theorem scanText_suffix {opening : Nat} {half? : Option Nat} {reversed chars : List Char}
    (hscan : scanText opening half? reversed text = .closed chars rest) : rest <:+ text := by
  fun_induction scanText opening half? reversed text
  case case2 =>
    cases hscan
    exact List.suffix_cons _ _
  case case5 ih | case6 ih | case7 ih | case8 ih | case9 ih =>
    exact (ih hscan).trans ⟨['\\', 'u', _, _, _, _], rfl⟩
  case case12 ih => exact (ih hscan).trans ⟨['\\', _], rfl⟩
  case case14 ih => exact (ih hscan).trans (List.suffix_cons _ _)
  all_goals simp at hscan

theorem quotedText_suffix (text : List Char) : (quotedText text).2 <:+ text := by
  unfold quotedText
  split
  next chars rest hscan => exact scanText_suffix hscan
  next => exact List.nil_suffix

theorem spanDigits_suffix (text : List Char) : (spanDigits text).2 <:+ text :=
  List.dropWhile_suffix _

theorem scanWhole_digits {digits : List Char} (hscan : scanWhole text = some (digits, rest)) :
    digits ++ rest = text ∧ digits ≠ [] ∧ ∀ c ∈ digits, c.isDigit = true := by
  unfold scanWhole at hscan
  split at hscan
  next tail =>
    cases hscan
    exact ⟨rfl, List.cons_ne_nil _ _, by simp⟩
  next =>
    dsimp only at hscan
    split at hscan
    · cases hscan
    next hfilled =>
      cases hscan
      refine ⟨List.takeWhile_append_dropWhile, ?_, List.all_eq_true.mp List.all_takeWhile⟩
      simpa [List.isEmpty_iff] using hfilled

theorem scanFraction_suffix {digits : List Char}
    (hscan : scanFraction text = some (digits, rest)) : rest <:+ text := by
  unfold scanFraction at hscan
  split at hscan
  next tail =>
    dsimp only at hscan
    split at hscan
    · cases hscan
    · cases hscan
      exact (spanDigits_suffix tail).trans (List.suffix_cons _ _)
  next => cases hscan

theorem scanExponent_suffix {exponent : Int} (hscan : scanExponent text = some (exponent, rest)) :
    rest <:+ text := by
  unfold scanExponent at hscan
  split at hscan
  next mark tail =>
    split at hscan
    · cases hscan
    · split at hscan
      next negative after hsign =>
        have hafter : after <:+ tail := by
          split at hsign
          · exact (Prod.mk.inj hsign).2 ▸ List.suffix_cons _ _
          · exact (Prod.mk.inj hsign).2 ▸ List.suffix_cons _ _
          · exact (Prod.mk.inj hsign).2 ▸ List.suffix_rfl
        dsimp only at hscan
        split at hscan
        · cases hscan
        · cases hscan
          exact ((spanDigits_suffix after).trans hafter).trans (List.suffix_cons _ _)
  next => cases hscan

theorem getD_suffix {α : Type} {found? : Option (α × List Char)} (default : α)
    (h : ∀ a rest, found? = some (a, rest) → rest <:+ text) :
    (found?.getD (default, text)).2 <:+ text := by
  cases found? with
  | none => exact List.suffix_rfl
  | some found => exact h found.1 found.2 rfl

/-- A number is whole or not, and starts with the digits of its whole part. -/
theorem scanNumber_whole {negative : Bool} (hscan : scanNumber negative text = some (token, rest)) :
    ∃ digits after, scanWhole text = some (digits, after) ∧ rest <:+ after ∧
      (token = .int negative digits ∨ ∃ x, token = .real x) := by
  unfold scanNumber at hscan
  cases hwhole : scanWhole text with
  | none => simp [hwhole] at hscan
  | some whole =>
    obtain ⟨digits, after⟩ := whole
    simp only [hwhole, Option.bind_eq_bind, Option.bind_some] at hscan
    have hfraction : ((scanFraction after).getD ([], after)).2 <:+ after :=
      getD_suffix [] fun _ _ => scanFraction_suffix
    have hexponent : ((scanExponent ((scanFraction after).getD ([], after)).2).getD
        (0, ((scanFraction after).getD ([], after)).2)).2 <:+
          ((scanFraction after).getD ([], after)).2 :=
      getD_suffix 0 fun _ _ => scanExponent_suffix
    refine ⟨digits, after, rfl, ?_⟩
    split at hscan
    · cases hscan
      exact ⟨hexponent.trans hfraction, .inl rfl⟩
    · cases hscan
      exact ⟨hexponent.trans hfraction, .inr ⟨_, rfl⟩⟩

theorem scanKeyword_word (hscan : scanKeyword text = some (token, rest)) :
    ∃ word, (word, token) ∈ keywords ∧ rest = text.drop word.length := by
  obtain ⟨entry, hentry, hfound⟩ := List.exists_of_findSome?_eq_some hscan
  obtain ⟨word, spelled⟩ := entry
  simp only [Option.ite_none_right_eq_some, Option.some.injEq, Prod.mk.injEq] at hfound
  obtain ⟨-, rfl, rfl⟩ := hfound
  exact ⟨word, hentry, rfl⟩

/-- The characters that open a list or an object. -/
def isOpening (c : Char) : Bool := c = '[' || c = '\x7b'

def opens : Token → Bool
  | .openList | .openObject => true
  | _ => false

/-- A token is taken off a text. -/
structure Takes (text : List Char) (token : Token) (rest : List Char) : Prop where
  leaves : rest <:+ text
  opening : token.opens = true → ∃ c, isOpening c = true ∧ text = c :: rest
  whole : ∀ negative digits, token = .int negative digits →
    digits <:+: text ∧ digits ≠ [] ∧ ∀ c ∈ digits, c.isDigit = true

theorem takes_quoted (text : List Char) :
    Takes ('"' :: text) (quotedText text).1 (quotedText text).2 where
  leaves := (quotedText_suffix text).trans (List.suffix_cons _ _)
  opening := by
    unfold quotedText
    split <;> nofun
  whole := by
    unfold quotedText
    split <;> nofun

theorem takes_keyword (hscan : scanKeyword text = some (token, rest)) : Takes text token rest := by
  obtain ⟨word, hword, rfl⟩ := scanKeyword_word hscan
  have hplain : ∀ entry ∈ keywords, entry.2.opens = false ∧ ∀ negative digits,
      entry.2 ≠ .int negative digits := by
    simp [keywords, opens]
  obtain ⟨hopens, hint⟩ := hplain _ hword
  exact ⟨List.drop_suffix _ _, by simp [hopens], fun negative digits h => absurd h (hint _ _)⟩

theorem takes_number {negative : Bool} (hscan : scanNumber negative text = some (token, rest)) :
    Takes text token rest := by
  obtain ⟨digits, after, hwhole, hrest, hkind⟩ := scanNumber_whole hscan
  obtain ⟨rfl, hfilled, hdigits⟩ := scanWhole_digits hwhole
  have hleaves : rest <:+ digits ++ after := hrest.trans (List.suffix_append _ _)
  obtain rfl | ⟨x, rfl⟩ := hkind
  · refine ⟨hleaves, nofun, fun sign spelled h => ?_⟩
    cases h
    exact ⟨(List.prefix_append _ _).isInfix, hfilled, hdigits⟩
  · exact ⟨hleaves, nofun, nofun⟩

theorem scanNumber_opens {negative : Bool} (hscan : scanNumber negative text = some (token, rest)) :
    token.opens = false := by
  obtain ⟨-, -, -, -, rfl | ⟨x, rfl⟩⟩ := scanNumber_whole hscan
  · rfl
  · rfl

theorem Takes.behind {c : Char} (h : Takes text token rest) (hopens : token.opens = false) :
    Takes (c :: text) token rest where
  leaves := h.leaves.trans (List.suffix_cons _ _)
  opening := by simp [hopens]
  whole := fun negative digits hint =>
    ⟨(h.whole negative digits hint).1.trans (List.suffix_cons _ _).isInfix,
      (h.whole negative digits hint).2⟩

theorem takes_scan (hscan : scan? text = some (token, rest)) : Takes text token rest := by
  unfold scan? at hscan
  split at hscan
  case h_1 => cases hscan
  case h_2 | h_4 =>
    cases hscan
    exact ⟨List.suffix_cons _ _, fun _ => ⟨_, by decide, rfl⟩, nofun⟩
  case h_3 | h_5 | h_6 | h_7 =>
    cases hscan
    exact ⟨List.suffix_cons _ _, nofun, nofun⟩
  case h_8 tail =>
    have hquoted := takes_quoted tail
    rwa [Option.some.inj hscan] at hquoted
  case h_9 tail =>
    obtain hkeyword | ⟨-, hnumber⟩ := Option.or_eq_some_iff.mp hscan
    · exact takes_keyword hkeyword
    · exact (takes_number hnumber).behind (scanNumber_opens hnumber)
  case h_10 =>
    obtain hkeyword | ⟨-, hnumber⟩ := Option.or_eq_some_iff.mp hscan
    · exact takes_keyword hkeyword
    · exact takes_number hnumber

/-- An opening bracket is passed with each token that opens a list or an object. -/
theorem countP_isOpening_scan (hscan : scan? text = some (token, rest)) :
    rest.countP isOpening + (if token.opens then 1 else 0) ≤ text.countP isOpening := by
  have htakes := takes_scan hscan
  cases hopens : token.opens with
  | false => simpa using htakes.leaves.sublist.countP_le (p := isOpening)
  | true =>
    obtain ⟨c, hc, rfl⟩ := htakes.opening hopens
    simp [hc]

end Token

/-! ### Runs of the machine -/

open Token Text

/-- The machine stops though the text is not at fault. -/
def Stop.IsLimit (stop : Stop) : Prop := ∀ fault left, stop ≠ .malformed fault left

namespace Progress

/-- The machine comes from a text's start to a state of progress with a part of the text left. -/
inductive Reaches (nesting : Nat) (text : List Char) : Progress → List Char → Prop
  | start : Reaches nesting text (.value [] false) text
  | next {progress further : Progress} {left rest : List Char} {token : Token}
      (reached : Reaches nesting text progress left)
      (scanned : scan? (left.dropWhile isSpace) = some (token, rest))
      (steps : progress.step? nesting token = some (.ok further)) :
      Reaches nesting text further rest

variable {nesting : Nat} {text left rest : List Char} {progress further : Progress} {token : Token}
  {stop : Stop}

theorem run_of_step {outcome : Except Stop Progress}
    (hscan : scan? (left.dropWhile isSpace) = some (token, rest))
    (hstep : progress.step? nesting token = some outcome) :
    progress.run nesting left = outcome.bind fun further => further.run nesting rest := by
  rw [run.eq_def]
  split
  next hnone =>
    rw [hscan] at hnone
    cases hnone
  next hsome =>
    rw [hscan] at hsome
    cases hsome
    rw [hstep]
    cases outcome <;> rfl

theorem Reaches.run_eq (h : Reaches nesting text progress left) :
    progress.run nesting left = (Progress.value [] false).run nesting text := by
  induction h with
  | start => rfl
  | next hreached hscan hstep ih => rw [← ih, run_of_step hscan hstep]; rfl

/-- What stops the machine, other than a fault of the text, is a token in a state of progress. -/
theorem Reaches.stops (h : Reaches nesting text progress left)
    (hstop : progress.run nesting left = .error stop) (hlimit : stop.IsLimit) :
    ∃ progress left token rest, Reaches nesting text progress left ∧
      scan? (left.dropWhile isSpace) = some (token, rest) ∧
      progress.step? nesting token = some (.error stop) := by
  fun_induction run nesting progress left
  case case1 => cases hstop
  case case2 | case3 =>
    cases hstop
    exact absurd rfl (hlimit _ _)
  case case4 progress left token rest hscan other hstep =>
    cases hstop
    exact ⟨progress, left, token, rest, h, hscan, hstep⟩
  case case5 progress left token rest hscan further hstep ih =>
    exact ih (h.next hscan hstep) hstop

/-- A text that starts with no token is not read any further. -/
theorem Reaches.eq_text (hnone : scan? (text.dropWhile isSpace) = none)
    (h : Reaches nesting text progress left) : left = text := by
  induction h with
  | start => rfl
  | next hreached hscan hstep ih =>
    rw [ih, hnone] at hscan
    cases hscan

/-- How many lists and objects are open. -/
def depth : Progress → Nat
  | .value stack _ => stack.length
  | .key _ stack _ | .colon _ _ stack | .afterItem _ stack | .afterMember _ stack =>
    stack.length + 1
  | .done _ => 0

@[simp] theorem depth_supply (value : Json) (stack : List Frame) :
    (supply value stack).depth = stack.length := by
  match stack with
  | [] => rfl
  | .list _ :: _ => rfl
  | .member _ _ :: _ => rfl

theorem depth_openValue {stack : List Frame}
    (hopen : openValue nesting stack token = some (.ok further)) :
    further.depth ≤ stack.length + (if token.opens then 1 else 0) := by
  cases token with
  | openList | openObject =>
    simp only [openValue, Option.some.injEq] at hopen
    split at hopen
    · cases hopen
    · cases hopen
      simp [depth, opens]
  | int negative digits =>
    simp only [openValue, Option.some.injEq] at hopen
    split at hopen
    · cases hopen
    · cases hopen
      simp [opens]
  | null | bool _ | real _ | text _ =>
    cases hopen
    simp [opens]
  | closeList | closeObject | comma | colon | badText _ _ => cases hopen

/-- A step opens a list or an object only where its token does. -/
theorem depth_step? (hstep : progress.step? nesting token = some (.ok further)) :
    further.depth ≤ progress.depth + (if token.opens then 1 else 0) := by
  unfold step? at hstep
  split at hstep
  case h_2 stack mayClose token hother => exact depth_openValue hstep
  case h_1 | h_3 | h_8 | h_10 =>
    cases hstep
    rw [depth_supply]
    exact Nat.le_add_right_of_le (Nat.le_succ _)
  case h_5 | h_11 => cases hstep
  case h_4 | h_6 | h_7 | h_9 =>
    cases hstep
    simp [depth]

/-- As many lists and objects are open as brackets have been passed, or fewer. -/
theorem Reaches.depth_add_le (h : Reaches nesting text progress left) :
    progress.depth + left.countP isOpening ≤ text.countP isOpening := by
  induction h with
  | start => simp [depth]
  | @next progress further left rest token hreached hscan hstep ih =>
    -- the bracket that the step opens is one that it takes off the text
    have hdepth := depth_step? hstep
    have hskip := (List.dropWhile_suffix isSpace (l := left)).sublist.countP_le (p := isOpening)
    have hpassed := countP_isOpening_scan hscan
    omega

theorem Reaches.leaves (h : Reaches nesting text progress left) : left <:+ text := by
  induction h with
  | start => exact List.suffix_rfl
  | next hreached hscan hstep ih =>
    exact ((takes_scan hscan).leaves.trans (List.dropWhile_suffix _)).trans ih

/-- A token goes beyond a limit where the machine is. -/
inductive Beyond (nesting : Nat) : Progress → Token → Prop
  | depth {stack : List Frame} {mayClose : Bool} {token : Token} (opens : token.opens = true)
      (full : nesting ≤ stack.length) : Beyond nesting (.value stack mayClose) token
  | digits {stack : List Frame} {mayClose negative : Bool} {digits : List Char}
      (long : longestNumber < digits.length) :
      Beyond nesting (.value stack mayClose) (.int negative digits)

theorem beyond_of_openValue {stack : List Frame} {mayClose : Bool} (htakes : Takes text token rest)
    (hopen : openValue nesting stack token = some (.error stop)) (hlimit : stop.IsLimit) :
    Beyond nesting (.value stack mayClose) token := by
  cases token with
  | openList | openObject =>
    simp only [openValue, Option.some.injEq] at hopen
    split at hopen
    next hfull => exact .depth rfl hfull
    next => cases hopen
  | int negative digits =>
    obtain ⟨-, hfilled, hdigits⟩ := htakes.whole negative digits rfl
    simp only [openValue, Option.some.injEq] at hopen
    split at hopen
    next hnone => exact .digits ((boundedNumber?_eq_none_iff hfilled hdigits).mp hnone)
    next => cases hopen
  | badText fault left =>
    cases hopen
    exact absurd rfl (hlimit fault left)
  | _ => cases hopen

/-- The machine stops on account of a limit just where a token goes beyond it. -/
theorem step?_isLimit_iff (htakes : Takes text token rest) :
    (∃ stop, progress.step? nesting token = some (.error stop) ∧ stop.IsLimit) ↔
      Beyond nesting progress token := by
  constructor
  · rintro ⟨stop, hstep, hlimit⟩
    unfold step? at hstep
    split at hstep
    case h_2 stack mayClose token hother => exact beyond_of_openValue htakes hstep hlimit
    case h_5 =>
      cases hstep
      exact absurd rfl (hlimit _ _)
    all_goals cases hstep
  · intro hbeyond
    cases hbeyond with
    | @depth stack mayClose _ hopens hfull =>
      cases token <;> simp only [opens, Bool.false_eq_true] at hopens
      · exact ⟨.tooDeep .list, by simp [step?, openValue, hfull], nofun⟩
      · exact ⟨.tooDeep .object, by simp [step?, openValue, hfull], nofun⟩
    | @digits stack mayClose negative digits hlong =>
      obtain ⟨-, hfilled, hdigits⟩ := htakes.whole negative digits rfl
      have hnone := (boundedNumber?_eq_none_iff hfilled hdigits).mpr hlong
      exact ⟨.tooManyDigits digits.length, by simp [step?, openValue, hnone], nofun⟩

/-- Where a reading stops short of a fault in its text. -/
theorem run_isLimit_iff :
    (∃ stop, (Progress.value [] false).run nesting text = .error stop ∧ stop.IsLimit) ↔
      ∃ progress left token rest, Reaches nesting text progress left ∧
        scan? (left.dropWhile isSpace) = some (token, rest) ∧
        Beyond nesting progress token := by
  constructor
  · rintro ⟨stop, hstop, hlimit⟩
    obtain ⟨progress, left, token, rest, hreached, hscan, hstep⟩ := Reaches.start.stops hstop hlimit
    exact ⟨progress, left, token, rest, hreached, hscan,
      (step?_isLimit_iff (takes_scan hscan)).mp ⟨stop, hstep, hlimit⟩⟩
  · rintro ⟨progress, left, token, rest, hreached, hscan, hbeyond⟩
    obtain ⟨stop, hstep, hlimit⟩ := (step?_isLimit_iff (takes_scan hscan)).mpr hbeyond
    exact ⟨stop, hreached.run_eq ▸ run_of_step hscan hstep, hlimit⟩

end Progress

/-- A text goes beyond a limit of reading before any fault in it is met: a list or an object opens
inside `nesting` others, or a whole number has more than `longestNumber` digits. -/
def Overtaxes (nesting : Nat) (text : List Char) : Prop :=
  ∃ progress left token rest, Progress.Reaches nesting text progress left ∧
    scan? (left.dropWhile isSpace) = some (token, rest) ∧ Progress.Beyond nesting progress token

variable {nesting : Nat} {text : List Char}

theorem scan?_of_mark (hmark : text.head? = some '\ufeff') :
    scan? (text.dropWhile isSpace) = none := by
  obtain ⟨rest, rfl⟩ := List.head?_eq_some_iff.mp hmark
  simp [isSpace, scan?, scanKeyword, keywords, scanNumber, scanWhole, spanDigits]

theorem overtaxes_iff : Overtaxes nesting text ↔
    ∃ error, read nesting text = .error error ∧ ∀ fault place, error ≠ .malformed fault place := by
  unfold read
  split
  next hmark =>
    -- the mark begins no token, so the machine does not get past it either
    refine iff_of_false ?_ ?_
    · rintro ⟨progress, left, token, rest, hreached, hscan, -⟩
      rw [hreached.eq_text (scan?_of_mark hmark), scan?_of_mark hmark] at hscan
      cases hscan
    · rintro ⟨error, herror, hlimit⟩
      cases herror
      exact hlimit _ _ rfl
  next hplain =>
    rw [Overtaxes, ← Progress.run_isLimit_iff]
    constructor
    · rintro ⟨stop, hstop, hlimit⟩
      refine ⟨stop.error text, by rw [hstop]; rfl, ?_⟩
      cases stop with
      | malformed fault left => exact absurd rfl (hlimit fault left)
      | _ => nofun
    · rintro ⟨error, herror, hlimit⟩
      cases hrun : (Progress.value [] false).run nesting text with
      | ok answer =>
        rw [hrun] at herror
        cases herror
      | error stop =>
        refine ⟨stop, rfl, ?_⟩
        rintro fault left rfl
        rw [hrun] at herror
        exact hlimit _ _ (Except.error.inj herror).symm

theorem read_nil : read nesting [] = .error (.malformed .valueExpected ⟨0, 1, 1⟩) := by
  unfold read
  rw [Progress.run.eq_def]
  rfl

/-- A text of few brackets and short rows of digits stays within the limits. -/
theorem Overtaxes.bounds (h : Overtaxes nesting text) :
    nesting < text.countP isOpening ∨
      ∃ digits, digits <:+: text ∧ (∀ c ∈ digits, c.isDigit = true) ∧
        longestNumber < digits.length := by
  obtain ⟨progress, left, token, rest, hreached, hscan, hbeyond⟩ := h
  have hskip := List.dropWhile_suffix isSpace (l := left)
  cases hbeyond with
  | depth hopens hfull =>
    have hdepth := hreached.depth_add_le
    have hpassed := countP_isOpening_scan hscan
    have hspaces := hskip.sublist.countP_le (p := isOpening)
    simp only [Progress.depth, hopens, if_true] at hdepth hpassed
    exact .inl (by omega)
  | @digits _ _ negative digits hlong =>
    obtain ⟨hwithin, -, hdigits⟩ := (takes_scan hscan).whole negative digits rfl
    exact .inr ⟨digits, hwithin.trans (hskip.trans hreached.leaves).isInfix, hdigits, hlong⟩

/-! ### Brackets in a row -/

theorem scan?_bracket (n : Nat) :
    scan? ((List.replicate (n + 1) '[').dropWhile isSpace) =
      some (.openList, List.replicate n '[') := by
  simp [List.replicate_succ, isSpace, scan?]

theorem reaches_brackets {n k : Nat} (hk : k ≤ n) (hdeep : k ≤ nesting) :
    ∃ mayClose, Progress.Reaches nesting (List.replicate n '[')
      (.value (List.replicate k (.list [])) mayClose) (List.replicate (n - k) '[') := by
  induction k with
  | zero => exact ⟨false, .start⟩
  | succ k ih =>
    obtain ⟨mayClose, hreached⟩ := ih (Nat.le_of_succ_le hk) (Nat.le_of_succ_le hdeep)
    have hleft : n - k = n - (k + 1) + 1 := by omega
    have hopen : ¬ nesting ≤ k := Nat.not_le_of_lt hdeep
    rw [hleft] at hreached
    refine ⟨true, hreached.next (scan?_bracket _) ?_⟩
    simp [Progress.step?, Progress.openValue, hopen, List.replicate_succ]

theorem overtaxes_brackets {n : Nat} (h : nesting < n) :
    Overtaxes nesting (List.replicate n '[') := by
  obtain ⟨mayClose, hreached⟩ := reaches_brackets (Nat.le_of_lt h) (Nat.le_refl _)
  have hleft : n - nesting = n - (nesting + 1) + 1 := by omega
  rw [hleft] at hreached
  exact ⟨_, _, _, _, hreached, scan?_bracket _, .depth rfl (by simp)⟩

end Json

end NodeHistory
