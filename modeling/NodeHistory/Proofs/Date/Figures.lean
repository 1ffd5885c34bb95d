import Mathlib.Algebra.GroupWithZero.Nat
import Mathlib.Data.List.TakeWhile
import NodeHistory.Text.Blank
import NodeHistory.Text.Letter
import NodeHistory.Time.Text

/-!
Rows of figures and the blanks around them. Figures are neither letters nor blanks, a blank is
nothing else, and trimming takes off what is blank and no more. Numbers are written by their last
figures, and the figures of a number spell it.
-/

namespace NodeHistory

namespace Text

/-- The code points of blank characters. -/
def blankPoints : List Nat :=
  [9, 10, 11, 12, 13, 28, 29, 30, 31, 32, 0x85, 0xa0, 0x1680, 0x2000, 0x2001, 0x2002, 0x2003,
   0x2004, 0x2005, 0x2006, 0x2007, 0x2008, 0x2009, 0x200a, 0x2028, 0x2029, 0x202f, 0x205f, 0x3000]

theorem toNat_mem_blankPoints {c : Char} (h : isBlank c = true) : c.toNat ∈ blankPoints := by
  simp [isBlank] at h
  simp [blankPoints]
  omega

/-- A blank begins nothing but a token of its own. -/
theorem plain_of_isBlank {c : Char} (h : isBlank c = true) :
    isLetter c = false ∧ isDigit c = false ∧ c ≠ '.' ∧ c ≠ ',' ∧ c ≠ '\x00' := by
  have hpoint := toNat_mem_blankPoints h
  rw [← Char.ofNat_toNat c]
  generalize c.toNat = n at hpoint
  revert n
  decide +kernel

/-- A row of Latin figures. -/
def IsFigures (row : List Char) : Prop := row ≠ [] ∧ ∀ c ∈ row, c.isDigit = true

variable {c : Char} {row : List Char}

theorem toNat_of_figure (h : c.isDigit = true) : 48 ≤ c.toNat ∧ c.toNat ≤ 57 := by
  simpa [Char.isDigit, UInt32.le_iff_toNat_le] using h

theorem isDigit_of_figure (h : c.isDigit = true) : isDigit c = true := by
  rw [isDigit, isDecimal_of_isDigit h, Bool.true_or]

theorem isLetter_of_figure (h : c.isDigit = true) : isLetter c = false := by
  obtain ⟨hlow, hhigh⟩ := toNat_of_figure h
  have hlatin : ¬ 127 < c.toNat := by omega
  have halpha : ¬ c.isAlpha = true := by
    intro halpha
    rcases (Bool.or_eq_true _ _).mp halpha with hupper | hlower
    · have hcapital : 65 ≤ c.toNat ∧ c.toNat ≤ 90 := of_decide_eq_true hupper
      omega
    · have hsmall : 97 ≤ c.toNat := of_decide_eq_true (Bool.and_eq_true_iff.mp hlower).1
      omega
  simp [isLetter, halpha, hlatin]

theorem toLower_of_figure (h : c.isDigit = true) : c.toLower = c := by
  obtain ⟨hlow, hhigh⟩ := toNat_of_figure h
  apply dif_neg
  rintro ⟨hupper, -⟩
  have hcapital : 65 ≤ c.toNat := hupper
  omega

theorem ne_of_figure (h : c.isDigit = true) : c ≠ '.' ∧ c ≠ ',' ∧ c ≠ '\x00' := by
  refine ⟨?_, ?_, ?_⟩
  · rintro rfl
    cases h
  · rintro rfl
    cases h
  · rintro rfl
    cases h

theorem not_isBlank_of_figure (h : c.isDigit = true) : isBlank c = false := by
  rw [← Bool.not_eq_true]
  intro hblank
  have hno := (plain_of_isBlank hblank).2.1
  rw [isDigit_of_figure h] at hno
  cases hno

theorem IsFigures.of_mem_head? (h : IsFigures row) {rest : List Char}
    (hc : c ∈ (row ++ rest).head?) : c.isDigit = true := by
  rw [List.head?_append, Option.or_of_isSome (by simpa using h.1)] at hc
  exact h.2 c (List.mem_of_head? hc)

theorem IsFigures.of_mem_getLast? (h : IsFigures row) {front : List Char}
    (hc : c ∈ (front ++ row).getLast?) : c.isDigit = true := by
  rw [List.getLast?_append, Option.or_of_isSome (by simpa using h.1)] at hc
  exact h.2 c (List.mem_of_getLast? hc)

theorem dropWhile_blanks {blanks text : List Char} (hblanks : ∀ c ∈ blanks, isBlank c = true)
    (hfirst : ∀ c ∈ text.head?, isBlank c = false) : (blanks ++ text).dropWhile isBlank = text := by
  rw [List.dropWhile_append_of_pos hblanks]
  cases text with
  | nil => rfl
  | cons c text => exact List.dropWhile_cons_of_neg (by simp [hfirst c rfl])

/-- Trimming takes away the blanks around a text that neither begins nor ends in one. -/
theorem trim_surrounded {lead text trail : List Char} (hfilled : text ≠ [])
    (hlead : ∀ c ∈ lead, isBlank c = true) (htrail : ∀ c ∈ trail, isBlank c = true)
    (hfirst : ∀ c ∈ text.head?, isBlank c = false)
    (hlast : ∀ c ∈ text.getLast?, isBlank c = false) : trim (lead ++ text ++ trail) = text := by
  have hfront : ∀ c ∈ (text ++ trail).head?, isBlank c = false := by
    intro c hc
    rw [List.head?_append, Option.or_of_isSome (by simpa using hfilled)] at hc
    exact hfirst c hc
  have hback : ∀ c ∈ text.reverse.head?, isBlank c = false := by
    rw [List.head?_reverse]
    exact hlast
  have hreversed : ∀ c ∈ trail.reverse, isBlank c = true := by
    simpa using htrail
  rw [trim, trimEnd, List.append_assoc, dropWhile_blanks hlead hfront, List.reverse_append,
    dropWhile_blanks hreversed hback, List.reverse_reverse]

theorem decimalValue?_digitChar : ∀ n < 10, decimalValue? (Nat.digitChar n) = some n := by decide

end Text

namespace Time

open Text

theorem length_fixedDigits (width n : Nat) : (fixedDigits width n).length = width := by
  induction width generalizing n with
  | zero => rfl
  | succ width ih => simp [fixedDigits, ih]

theorem isDigit_of_mem_fixedDigits {width n : Nat} {c : Char} (h : c ∈ fixedDigits width n) :
    c.isDigit = true := by
  have hdigit : ∀ d < 10, (Nat.digitChar d).isDigit = true := by decide
  induction width generalizing n with
  | zero => cases h
  | succ width ih =>
      rcases List.mem_append.mp h with hfront | hlast
      · exact ih hfront
      · obtain rfl := List.mem_singleton.mp hlast
        exact hdigit _ (Nat.mod_lt n (by omega))

theorem isFigures_fixedDigits {width : Nat} (hwidth : 0 < width) (n : Nat) :
    IsFigures (fixedDigits width n) := by
  refine ⟨?_, fun c => isDigit_of_mem_fixedDigits⟩
  rw [← List.length_pos_iff, length_fixedDigits]
  exact hwidth

/-- The last figures of a number spell what they keep of it. -/
theorem foldl_fixedDigits (width n : Nat) :
    (fixedDigits width n).foldl
        (fun sum? c => do return 10 * (← sum?) + (← decimalValue? c)) (some 0) =
      some (n % 10 ^ width) := by
  induction width generalizing n with
  | zero => simp [fixedDigits, Nat.mod_one]
  | succ width ih =>
      have hlast := decimalValue?_digitChar (n % 10) (Nat.mod_lt n (by omega))
      have hwhole : n % 10 ^ (width + 1) = 10 * (n / 10 % 10 ^ width) + n % 10 := by
        rw [Nat.pow_succ', Nat.mod_mul, Nat.add_comm]
      rw [fixedDigits, List.foldl_append, ih, hwhole]
      simp [hlast]

theorem number?_fixedDigits {width n : Nat} (hwidth : 0 < width) (hn : n < 10 ^ width) :
    number? (fixedDigits width n) = some n := by
  have hfilled : (fixedDigits width n).isEmpty = false := by
    simpa using (isFigures_fixedDigits hwidth n).1
  rw [number?, hfilled, foldl_fixedDigits, Nat.mod_eq_of_lt hn]
  rfl

theorem boundedNumber?_fixedDigits {width n : Nat} (hwidth : 0 < width) (hshort : width ≤ 4300)
    (hn : n < 10 ^ width) : boundedNumber? (fixedDigits width n) = some n := by
  have hlength : (fixedDigits width n).length ≤ longestNumber := by
    rw [length_fixedDigits]
    exact hshort
  rw [boundedNumber?, if_pos hlength, number?_fixedDigits hwidth hn]

end Time

end NodeHistory
