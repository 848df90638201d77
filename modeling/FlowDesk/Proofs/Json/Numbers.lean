/-
# Numbers in JSON texts

What is written for a number is read as that number, whatever stands after it,
as long as that cannot belong to a number (`readNumber_digits`,
`readNumber_text`).  Only a whole number with too many digits is written and not
read.
-/

import FlowDesk.Json.Reader
import FlowDesk.Json.Writer
import FlowDesk.Proofs.Number.Shortest

namespace FlowDesk

/-! ## Runs of digits -/

/-- A run of digits is read up to what is no digit. -/
theorem takeWhile_isDigit {digits rest : List Char} (hdigits : ∀ c ∈ digits, c.isDigit = true)
    (hrest : ∀ c ∈ rest.head?, c.isDigit = false) :
    (digits ++ rest).takeWhile Char.isDigit = digits ∧
      (digits ++ rest).dropWhile Char.isDigit = rest := by
  have hnone : rest.takeWhile Char.isDigit = [] ∧ rest.dropWhile Char.isDigit = rest := by
    cases rest with
    | nil => exact ⟨rfl, rfl⟩
    | cons c rest =>
      have hc := hrest c rfl
      exact ⟨by simp [hc], by simp [hc]⟩
  rw [List.takeWhile_append_of_pos hdigits, List.dropWhile_append_of_pos hdigits, hnone.1, hnone.2,
    List.append_nil]
  exact ⟨rfl, rfl⟩

/-- A whole number is its magnitude with its sign. -/
theorem Numeral.signed_natAbs (n : Int) : signed (decide (n < 0)) n.natAbs = n := by
  by_cases hneg : n < 0
  · rw [decide_eq_true hneg, signed, if_pos rfl]
    omega
  · rw [decide_eq_false hneg, signed, if_neg Bool.false_ne_true]
    omega

/-- The value of a run of digits is the number with these digits. -/
theorem Numeral.digits?_eq {digits : List Char} (hdigits : ∀ c ∈ digits, c.isDigit = true)
    (hne : digits ≠ []) :
    digits? Text.asciiDigit? digits = some (Nat.ofDigitChars 10 digits 0) := by
  have hfrom : ∀ (run : List Char) (total : Nat), (∀ c ∈ run, c.isDigit = true) →
      digitsFrom Text.asciiDigit? total run = some (Nat.ofDigitChars 10 run total) := by
    intro run
    induction run with
    | nil =>
      intro total _
      rfl
    | cons c run ih =>
      intro total hrun
      have hc := hrun c List.mem_cons_self
      have hmark : c ≠ '_' := by
        rintro rfl
        exact absurd hc (by decide)
      have hvalue : Text.asciiDigit? c = some (c.toNat - 48) := by simp [Text.asciiDigit?, hc]
      rw [digitsFrom.eq_def]
      split
      · rename_i heq
        cases heq
      · rename_i heq
        exact absurd (List.cons.inj heq).1 hmark
      · rename_i heq
        cases heq
        rw [hvalue, Option.bind_some, ih _ fun d hd => hrun d (List.mem_cons_of_mem _ hd),
          Nat.ofDigitChars_cons]
        rfl
  cases digits with
  | nil => exact absurd rfl hne
  | cons c run =>
    have hc := hdigits c List.mem_cons_self
    have hvalue : Text.asciiDigit? c = some (c.toNat - 48) := by simp [Text.asciiDigit?, hc]
    rw [digits?, hvalue, Option.bind_some, hfrom _ _ fun d hd =>
      hdigits d (List.mem_cons_of_mem _ hd), Nat.ofDigitChars_cons]
    simp

namespace Json

/-- What may stand after a value: nothing, or a comma or closing bracket. -/
def Closes (rest : List Char) : Prop :=
  ∀ c ∈ rest.head?, c = ',' ∨ c = ']' ∨ c = '\x7d'

namespace Closes

variable {rest : List Char}

/-- No digit comes after a value. -/
theorem isDigit (hrest : Closes rest) : ∀ c ∈ rest.head?, c.isDigit = false := by
  intro c hc
  rcases hrest c hc with rfl | rfl | rfl <;> decide

/-- No fraction comes after a value. -/
theorem readFraction (hrest : Closes rest) : readFraction rest = (none, rest) := by
  cases rest with
  | nil => rfl
  | cons c rest => rcases hrest c rfl with rfl | rfl | rfl <;> rfl

/-- No exponent comes after a value. -/
theorem readExponent (hrest : Closes rest) : readExponent rest = (none, rest) := by
  cases rest with
  | nil => rfl
  | cons c rest => rcases hrest c rfl with rfl | rfl | rfl <;> rfl

end Closes

/-- The whole part of a number: digits that do not start with a zero, or one
zero. -/
structure WholePart (whole : List Char) : Prop where
  digits : ∀ c ∈ whole, c.isDigit = true
  nonempty : whole ≠ []
  head : whole.head? = some '0' → whole = ['0']

/-- The digits of a whole number are a whole part. -/
theorem wholePart_toDigits (n : Nat) : WholePart (Nat.toDigits 10 n) := by
  refine ⟨fun c hc => Nat.isDigit_of_mem_toDigits (by decide) (by decide) hc, Nat.toDigits_ne_nil,
    fun hzero => ?_⟩
  rcases Nat.eq_zero_or_pos n with rfl | hpos
  · exact Nat.toDigits_zero 10
  · exact absurd hzero (head?_toDigits_ne hpos)

/-- A whole part is read up to what is no digit. -/
theorem readWhole_eq {digits rest : List Char} (hdigits : WholePart digits)
    (hrest : ∀ c ∈ rest.head?, c.isDigit = false) :
    readWhole (digits ++ rest) = some (digits, rest) := by
  obtain ⟨hall, hne, hhead⟩ := hdigits
  cases digits with
  | nil => exact absurd rfl hne
  | cons c run =>
    by_cases hzero : c = '0'
    · subst hzero
      rw [hhead rfl]
      rfl
    · have hrun : ∀ d ∈ run, d.isDigit = true := fun d hd => hall d (List.mem_cons_of_mem _ hd)
      obtain ⟨htake, hdrop⟩ := takeWhile_isDigit hrun hrest
      rw [List.cons_append, readWhole.eq_def]
      split
      · rename_i heq
        exact absurd (List.cons.inj heq).1 hzero
      · rename_i heq
        cases heq
        rw [if_pos (hall c List.mem_cons_self), htake, hdrop]
      · rename_i heq
        cases heq

/-- Digits after a point are a fraction. -/
theorem readFraction_eq {digits rest : List Char} (hdigits : ∀ c ∈ digits, c.isDigit = true)
    (hne : digits ≠ []) (hrest : ∀ c ∈ rest.head?, c.isDigit = false) :
    readFraction ('.' :: (digits ++ rest)) = (some digits, rest) := by
  obtain ⟨htake, hdrop⟩ := takeWhile_isDigit hdigits hrest
  simp only [readFraction, htake, hdrop]
  rw [if_neg]
  rwa [List.isEmpty_iff]

/-- A written exponent is read. -/
theorem readExponent_eq (exponent : Int) {rest : List Char} (hrest : Closes rest) :
    readExponent ('e' :: (Decimal.exponentText exponent ++ rest)) = (some exponent, rest) := by
  obtain ⟨digits, hdigits, hall, hne, hvalue⟩ : ∃ digits,
      Decimal.exponentText exponent = (if exponent < 0 then '-' else '+') :: digits ∧
        (∀ c ∈ digits, c.isDigit = true) ∧ digits ≠ [] ∧
        Nat.ofDigitChars 10 digits 0 = exponent.natAbs := by
    have hall : ∀ c ∈ Nat.toDigits 10 exponent.natAbs, c.isDigit = true := fun c hc =>
      Nat.isDigit_of_mem_toDigits (by decide) (by decide) hc
    have hvalue := Nat.ofDigitChars_ten_toDigits (n := exponent.natAbs)
    by_cases hshort : (Nat.toDigits 10 exponent.natAbs).length < 2
    · refine ⟨'0' :: Nat.toDigits 10 exponent.natAbs, by simp [Decimal.exponentText, hshort], ?_,
        by simp, ?_⟩
      · intro c hc
        rcases List.mem_cons.1 hc with rfl | hc
        · decide
        · exact hall c hc
      · rw [Nat.ofDigitChars_cons]
        exact hvalue
    · exact ⟨Nat.toDigits 10 exponent.natAbs, by simp [Decimal.exponentText, hshort], hall,
        Nat.toDigits_ne_nil, hvalue⟩
  obtain ⟨htake, hdrop⟩ := takeWhile_isDigit hall hrest.isDigit
  have hread : ∀ negative : Bool, decide (exponent < 0) = negative →
      Numeral.signed negative exponent.natAbs = exponent := by
    rintro negative rfl
    exact Numeral.signed_natAbs exponent
  rw [hdigits]
  by_cases hneg : exponent < 0
  · rw [if_pos hneg]
    simp only [readExponent, List.cons_append, Numeral.sign, htake, hdrop]
    rw [Numeral.digits?_eq hall hne, hvalue]
    simp [hread true (decide_eq_true hneg)]
  · rw [if_neg hneg]
    simp only [readExponent, List.cons_append, Numeral.sign, htake, hdrop]
    rw [Numeral.digits?_eq hall hne, hvalue]
    simp [hread false (decide_eq_false hneg)]

/-- The value of a run of digits is the number with these digits. -/
theorem digitsValue_eq (digits : List Char) : digitsValue digits = Nat.ofDigitChars 10 digits 0 :=
  Nat.ofDigitChars_eq_foldl.symm

/-! ## Numbers -/

/-- The digits of a whole number are read as that number, unless they are too
many. -/
theorem readNumber_digits (negative : Bool) (n : Nat) {rest : List Char} (hrest : Closes rest) :
    readNumber negative (Nat.toDigits 10 n ++ rest) =
      if Numeral.mostDigits < (Nat.toDigits 10 n).length then
        .error (.longNumber (Nat.toDigits 10 n).length)
      else .ok (.int (Numeral.signed negative n), rest) := by
  unfold readNumber
  rw [readWhole_eq (wholePart_toDigits n) hrest.isDigit]
  simp only [hrest.readFraction, hrest.readExponent, digitsValue_eq, Nat.ofDigitChars_ten_toDigits]

/-- A number with a fraction is read as the decimal with all its digits. -/
theorem readNumber_fraction (negative : Bool) (whole fraction : List Char) {rest : List Char}
    (hwhole : WholePart whole) (hfraction : ∀ c ∈ fraction, c.isDigit = true)
    (hne : fraction ≠ []) (hrest : Closes rest) :
    readNumber negative (whole ++ '.' :: (fraction ++ rest)) =
      .ok (.real (Binary64.ofDecimal negative (Nat.ofDigitChars 10 (whole ++ fraction) 0)
        (0 - fraction.length)), rest) := by
  have hpoint : ∀ c ∈ ('.' :: (fraction ++ rest)).head?, c.isDigit = false := by
    intro c hc
    cases hc
    decide
  unfold readNumber
  rw [readWhole_eq hwhole hpoint]
  simp only [readFraction_eq hfraction hne hrest.isDigit, hrest.readExponent, digitsValue_eq,
    Option.getD_some, Option.getD_none]

/-- A number with an exponent is read as the decimal with all its digits. -/
theorem readNumber_exponent (negative : Bool) (whole fraction : List Char) (exponent : Int)
    {rest : List Char} (hwhole : WholePart whole) (hfraction : ∀ c ∈ fraction, c.isDigit = true)
    (hrest : Closes rest) :
    readNumber negative (whole ++ ((if fraction.isEmpty then [] else '.' :: fraction) ++
        'e' :: (Decimal.exponentText exponent ++ rest))) =
      .ok (.real (Binary64.ofDecimal negative (Nat.ofDigitChars 10 (whole ++ fraction) 0)
        (exponent - fraction.length)), rest) := by
  have hmark : ∀ c ∈ ('e' :: (Decimal.exponentText exponent ++ rest)).head?, c.isDigit = false := by
    intro c hc
    cases hc
    decide
  unfold readNumber
  cases hempty : fraction.isEmpty with
  | true =>
    have hnone : readFraction ('e' :: (Decimal.exponentText exponent ++ rest)) =
        (none, 'e' :: (Decimal.exponentText exponent ++ rest)) := rfl
    rw [List.isEmpty_iff.1 hempty, if_pos rfl, List.nil_append, readWhole_eq hwhole hmark]
    simp only [hnone, readExponent_eq exponent hrest, digitsValue_eq, Option.getD_some,
      Option.getD_none]
  | false =>
    have hne : fraction ≠ [] := by
      rintro rfl
      cases hempty
    have hpoint : ∀ c ∈ ('.' :: fraction ++
        'e' :: (Decimal.exponentText exponent ++ rest)).head?, c.isDigit = false := by
      intro c hc
      cases hc
      decide
    rw [if_neg Bool.false_ne_true, readWhole_eq hwhole hpoint]
    simp only [List.cons_append, readFraction_eq hfraction hne hmark,
      readExponent_eq exponent hrest, digitsValue_eq, Option.getD_some]

/-- A well-written decimal is read as a decimal of the same worth, wherever its
point is laid out. -/
theorem readNumber_text (negative : Bool) {d : Decimal} (hd : d.WellWritten) {rest : List Char}
    (hrest : Closes rest) :
    ∃ (digits : Nat) (scale : Int),
      readNumber negative (d.text .plain ++ rest) =
        .ok (.real (Binary64.ofDecimal negative digits scale), rest) ∧
      (digits : ℚ) * 10 ^ scale = d.value := by
  obtain ⟨hdigits, hne, hhead⟩ := hd
  have hzeros : ∀ n, ∀ c ∈ List.replicate n '0', c.isDigit = true := by
    intro n c hc
    rw [List.eq_of_mem_replicate hc]
    decide
  unfold Decimal.text Decimal.value
  dsimp only
  by_cases hlayout : DecimalLayout.plain.leastPositional ≤ d.point - 1 ∧
      d.point - 1 < DecimalLayout.plain.firstExponential
  · rw [if_pos hlayout]
    by_cases hpoint : d.point ≤ 0
    · rw [if_pos hpoint]
      have hread := readNumber_fraction negative ['0']
        (List.replicate (-d.point).toNat '0' ++ d.digits)
        ⟨by simp, by simp, by simp⟩ (fun c hc => (List.mem_append.1 hc).elim (hzeros _ c)
          (hdigits c)) (by simp [hne]) hrest
      refine ⟨_, _, (congrArg _ ?_).trans hread, ?_⟩
      · simp
      · have hvalue : Nat.ofDigitChars 10 (['0'] ++ (List.replicate (-d.point).toNat '0' ++
            d.digits)) 0 = Nat.ofDigitChars 10 d.digits 0 := by
          rw [Nat.ofDigitChars_append, Nat.ofDigitChars_append, Nat.ofDigitChars_replicate_zero]
          rfl
        rw [hvalue]
        congr 2
        rw [List.length_append, List.length_replicate]
        omega
    · rw [if_neg hpoint]
      by_cases hlength : d.digits.length ≤ d.point.toNat
      · rw [if_pos hlength]
        obtain ⟨zeros, hcount⟩ : ∃ zeros, d.point.toNat - d.digits.length = zeros := ⟨_, rfl⟩
        have hwhole : WholePart (d.digits ++ List.replicate zeros '0') :=
          ⟨fun c hc => (List.mem_append.1 hc).elim (hdigits c) (hzeros _ c), by simp [hne],
            fun h => absurd (by rwa [List.head?_append_of_ne_nil _ hne] at h) hhead⟩
        have hread := readNumber_fraction negative _ ['0'] hwhole
          (by simp) (by simp) hrest
        refine ⟨_, _, (congrArg _ ?_).trans hread, ?_⟩
        · rw [hcount]
          simp [DecimalLayout.plain]
        · have hvalue : Nat.ofDigitChars 10 (d.digits ++ List.replicate zeros '0' ++ ['0']) 0 =
              10 ^ (zeros + 1) * Nat.ofDigitChars 10 d.digits 0 := by
            rw [List.append_assoc, ← List.replicate_succ', Nat.ofDigitChars_append,
              Nat.ofDigitChars_replicate_zero]
          have hscale : d.point - d.digits.length = (zeros : Int) := by omega
          rw [hvalue, hscale]
          push_cast
          rw [zpow_natCast, List.length_singleton, pow_succ]
          norm_num
          ring
      · rw [if_neg hlength]
        have htake : d.digits.take d.point.toNat ≠ [] := by
          rw [Ne, List.take_eq_nil_iff]
          rintro (hzero | hnil)
          · omega
          · exact hne hnil
        have hwhole : WholePart (d.digits.take d.point.toNat) :=
          ⟨fun c hc => hdigits c (List.mem_of_mem_take hc), htake, fun h => by
            rw [List.head?_take, if_neg (by omega)] at h
            exact absurd h hhead⟩
        have hread := readNumber_fraction negative _ (d.digits.drop d.point.toNat) hwhole
          (fun c hc => hdigits c (List.mem_of_mem_drop hc))
          (by rw [Ne, List.drop_eq_nil_iff]; omega) hrest
        refine ⟨_, _, (congrArg _ ?_).trans hread, ?_⟩
        · simp
        · rw [List.take_append_drop]
          congr 2
          rw [List.length_drop]
          omega
  · rw [if_neg hlayout]
    obtain ⟨first, others, hparts⟩ := List.exists_cons_of_ne_nil hne
    rw [hparts] at hdigits hhead ⊢
    have hwhole : WholePart [first] :=
      ⟨fun c hc => hdigits c (by simp [List.mem_singleton.1 hc]), by simp,
        fun h => absurd (by simpa using h) hhead⟩
    have hread := readNumber_exponent negative _ others (d.point - 1) hwhole
      (fun c hc => hdigits c (List.mem_cons_of_mem _ hc)) hrest
    refine ⟨_, _, (congrArg _ ?_).trans hread, ?_⟩
    · simp
    · rw [List.singleton_append]
      congr 2
      rw [List.length_cons]
      omega

/-- A number starts with a digit. -/
theorem isDigit_of_readNumber {negative : Bool} {cs : List Char}
    (hread : readNumber negative cs ≠ .error .malformed) :
    ∃ c more, cs = c :: more ∧ c.isDigit = true := by
  cases cs with
  | nil => exact absurd rfl hread
  | cons c more =>
    refine ⟨c, more, rfl, ?_⟩
    by_contra hdigit
    have hzero : c ≠ '0' := by
      rintro rfl
      exact hdigit (by decide)
    have hnone : readWhole (c :: more) = none := by
      rw [readWhole.eq_def]
      split
      · rename_i heq
        exact absurd (List.cons.inj heq).1 hzero
      · rename_i heq
        cases heq
        rw [if_neg hdigit]
      · rfl
    exact hread (by rw [readNumber, hnone])

/-- A number with its sign is read as a number. -/
theorem readPlain_number {negative : Bool} {cs : List Char}
    (hread : readNumber negative cs ≠ .error .malformed) :
    readPlain (if negative then '-' :: cs else cs) = readNumber negative cs := by
  obtain ⟨c, more, rfl, hdigit⟩ := isDigit_of_readNumber hread
  have hother : ∀ letter : Char, letter.isDigit = false → c ≠ letter := by
    rintro letter hletter rfl
    exact absurd hdigit (by simp [hletter])
  cases negative with
  | true =>
    simp only [if_true]
    rw [readPlain.eq_def]
    split
    all_goals try (rename_i heq; injection heq with hhead htail)
    all_goals try exact absurd hhead (by decide)
    · exact absurd (List.cons.inj htail).1 (hother 'I' (by decide))
    · rw [htail]
    · rename_i hsign
      exact absurd rfl (hsign _)
  | false =>
    simp only [Bool.false_eq_true, if_false]
    rw [readPlain.eq_def]
    split
    all_goals try (rename_i heq; injection heq with hhead htail)
    all_goals try exact absurd hhead (hother _ (by decide))
    rfl

/-- The text of a whole number is read as that number, unless its digits are
too many. -/
theorem readPlain_writeInt (n : Int) {rest : List Char} (hrest : Closes rest) :
    readPlain (writeInt n ++ rest) =
      if Numeral.mostDigits < (Nat.toDigits 10 n.natAbs).length then
        .error (.longNumber (Nat.toDigits 10 n.natAbs).length)
      else .ok (.int n, rest) := by
  have hread := readNumber_digits (decide (n < 0)) n.natAbs hrest
  have hwritten : writeInt n ++ rest =
      if decide (n < 0) then '-' :: (Nat.toDigits 10 n.natAbs ++ rest)
      else Nat.toDigits 10 n.natAbs ++ rest := by
    by_cases hneg : n < 0 <;> simp [writeInt, hneg]
  rw [Numeral.signed_natAbs] at hread
  rw [hwritten, readPlain_number, hread]
  rw [hread]
  split <;> simp

/-- A finite number is read back from its text as it was, the sign of a zero
included. -/
theorem readPlain_writeReal {negative : Bool} {mantissa : Nat} {exponent : Int}
    (hcanonical : Binary64.Canonical mantissa exponent) {rest : List Char} (hrest : Closes rest) :
    readPlain (writeReal (.finite negative mantissa exponent hcanonical) ++ rest) =
      .ok (.real (.finite negative mantissa exponent hcanonical), rest) := by
  obtain ⟨body, hbody, hread⟩ : ∃ body,
      writeReal (.finite negative mantissa exponent hcanonical) =
        (if negative then '-' :: body else body) ∧
      readNumber negative (body ++ rest) =
        .ok (.real (.finite negative mantissa exponent hcanonical), rest) := by
    rcases Nat.eq_zero_or_pos mantissa with rfl | hmantissa
    · refine ⟨['0', '.', '0'], by simp [writeReal, Binary64.text, Binary64.textWith,
        DecimalLayout.plain], ?_⟩
      have hexponent : exponent = -1074 := by
        obtain ⟨-, -, -, hleast | hleast⟩ := hcanonical
        · exact absurd hleast (by decide)
        · exact hleast
      subst hexponent
      exact readNumber_fraction negative ['0'] ['0'] ⟨by simp, by simp, by simp⟩ (by simp)
        (by simp) hrest
    · obtain ⟨hwell, hnear⟩ := Binary64.shortest_near hmantissa hcanonical.1
      obtain ⟨digits, scale, hread, hvalue⟩ := readNumber_text negative hwell hrest
      refine ⟨(Binary64.shortest mantissa exponent).text .plain, by simp [writeReal, Binary64.text,
        Binary64.textWith, Nat.pos_iff_ne_zero.1 hmantissa], ?_⟩
      rw [hread, Binary64.ofDecimal_eq negative hcanonical hmantissa (hvalue ▸ hnear)]
  have hsigned : (if negative then '-' :: body else body) ++ rest =
      if negative then '-' :: (body ++ rest) else body ++ rest := by
    cases negative <;> rfl
  rw [hbody, hsigned, readPlain_number, hread]
  rw [hread]
  simp

end Json

end FlowDesk
