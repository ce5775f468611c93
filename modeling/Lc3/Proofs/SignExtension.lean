import Lc3.Proofs.InstructionTable

/-!
Numbers denoted by fields of any width. Main statement: the lowest bits of a number are extended to
the word of the one number in their signed range that ends in them, and the condition flag is the
sign of the number that a word denotes.
-/

namespace Lc3

/-- `signed` is the number that the lowest `width` bits of `value` denote by two's complement. -/
structure SignedResidue (width : Nat) (value signed : Int) : Prop where
  lower : -(twoTo (width - 1) : Int) ≤ signed
  upper : signed < twoTo (width - 1)
  congruent : signed % twoTo width = value % twoTo width

theorem twoTo_eq_double {width : Nat} (positive : 0 < width) :
    twoTo width = 2 * twoTo (width - 1) := by
  obtain ⟨rest, rfl⟩ := Nat.exists_eq_add_of_le' positive
  exact Nat.pow_succ'

theorem wordOf_congruent {width : Nat} (narrow : width ≤ 16) (value : Int) :
    ((wordOf value).toNat : Int) % twoTo width = value % twoTo width := by
  have divides : (twoTo width : Int) ∣ 65536 :=
    Int.natCast_dvd_natCast.mpr (Nat.pow_dvd_pow 2 narrow)
  rw [toNat_wordOf, Int.emod_emod_of_dvd value divides]

section

variable {width : Nat} {value signed : Int}

theorem signedResidue_iff (positive : 0 < width) :
    SignedResidue width value signed ↔ signed = value.bmod (twoTo width) := by
  have double := twoTo_eq_double positive
  have nonzero : 0 < twoTo width := Nat.two_pow_pos width
  rw [eq_comm, Int.bmod_eq_iff nonzero, Int.dvd_iff_emod_eq_zero,
    ← Int.emod_eq_emod_iff_emod_sub_eq_zero]
  constructor
  · rintro ⟨lower, upper, congruent⟩
    exact ⟨by omega, by omega, congruent⟩
  · rintro ⟨lower, upper, congruent⟩
    exact ⟨by omega, by omega, congruent⟩

theorem signedResidue_word_iff :
    SignedResidue 16 value signed ↔ signed = signedOf (wordOf value) := by
  rw [signedResidue_iff (by decide), signedOf_eq_toInt, wordOf, BitVec.toInt_ofInt]
  rfl

/-- A number fits every wider field, and is what this field denotes if it ends in the same bits. -/
theorem SignedResidue.widen (residue : SignedResidue width value signed) {wider : Nat}
    (narrow : width ≤ wider) {other : Int}
    (congruent : signed % twoTo wider = other % twoTo wider) :
    SignedResidue wider other signed := by
  have room : twoTo (width - 1) ≤ twoTo (wider - 1) :=
    Nat.pow_le_pow_right (by decide) (Nat.sub_le_sub_right narrow 1)
  have lower := residue.lower
  have upper := residue.upper
  exact ⟨by omega, by omega, congruent⟩

end

theorem ofWord_iff_signedOf (word : Word) :
    (Condition.ofWord word = .negative ↔ signedOf word < 0) ∧
    (Condition.ofWord word = .zero ↔ signedOf word = 0) ∧
    (Condition.ofWord word = .positive ↔ 0 < signedOf word) := by
  rw [ofWord_eq_signOf, signedOf_eq_toInt, signOf]
  obtain below | none | above := Int.lt_trichotomy word.toInt 0
  · simp [below, Int.ne_of_lt below, Int.lt_asymm below]
  · simp [none]
  · simp [above, Int.ne_of_gt above, Int.lt_asymm above]

theorem signExtend_eq_error_iff {value width : Int} :
    signExtend value width = .error .noSignBit ↔ width ≤ 0 := by
  by_cases positive : 0 < width
  · rw [signExtend, if_pos positive]
    simp [positive]
  · rw [signExtend, if_neg positive]
    simp [Int.not_lt.mp positive]

theorem signExtend_of_residue {value width signed : Int} (positive : 0 < width)
    (residue : SignedResidue width.toNat value signed) :
    signExtend value width = .ok (wordOf signed) := by
  have balanced := (signedResidue_iff (Int.pos_iff_toNat_pos.mp positive)).mp residue
  rw [signExtend, if_pos positive, balanced, BitVec.signExtend, BitVec.toInt_ofInt]
  rfl

/-- The offsets and constants of the instruction table are fields that are extended like this. -/
theorem signExtend_field (word : Word) {width : Nat} (positive : 0 < width) :
    signExtend (word.extractLsb' 0 width).toNat width = .ok (wordOf (signedBits word width)) := by
  rw [signExtend_toNat positive, signExtend_offset word positive]

theorem testBit_top_iff {field width : Nat} (positive : 0 < width) (inside : field < twoTo width) :
    field.testBit (width - 1) = true ↔ twoTo (width - 1) ≤ field := by
  constructor
  · intro set
    exact Nat.ge_two_pow_of_testBit set
  · intro above
    apply Nat.testBit_of_two_pow_le_and_two_pow_add_one_gt above
    rw [Nat.sub_add_cancel positive]
    exact inside

theorem wordOf_filled {field width : Nat} (inside : field < twoTo width) :
    wordOf (greatestWord.toNat <<< width ||| field : Nat) = wordOf (field - twoTo width) := by
  have sum : greatestWord.toNat <<< width ||| field = 65535 * twoTo width + field := by
    rw [← Nat.shiftLeft_add_eq_or_of_lt inside, Nat.shiftLeft_eq]
    rfl
  have filled := toNat_wordOf (65535 * twoTo width + field : Nat)
  have negative := toNat_wordOf (field - twoTo width)
  rw [sum]
  apply BitVec.eq_of_toNat_eq
  omega

/-- Ones are filled in above a field whose topmost bit is set. Sixteen of them are enough for every
width, as no more than sixteen bits of the result are kept. -/
theorem signExtend_eq_filled (value : Int) {width : Nat} (positive : 0 < width) :
    let field := (value % twoTo width).toNat
    let filled := greatestWord.toNat <<< width ||| field
    signExtend value width =
      .ok (wordOf (if field.testBit (width - 1) then filled else field : Nat)) := by
  intro field filled
  have double := twoTo_eq_double positive
  have nonzero : (0 : Int) < twoTo width := Int.natCast_pos.mpr (Nat.two_pow_pos width)
  have number : (field : Int) = value % twoTo width :=
    Int.toNat_of_nonneg (Int.emod_nonneg value (Int.ne_of_gt nonzero))
  have inside : field < twoTo width := by
    have below := Int.emod_lt_of_pos value nonzero
    omega
  have top := testBit_top_iff positive inside
  by_cases negative : field.testBit (width - 1) = true
  · have high := top.mp negative
    have residue : SignedResidue width value (field - twoTo width) := by
      refine ⟨by omega, by omega, ?_⟩
      rw [number, Int.sub_emod_right, Int.emod_emod]
    rw [if_pos negative, wordOf_filled inside]
    exact signExtend_of_residue (Int.natCast_pos.mpr positive) residue
  · have low := mt top.mpr negative
    have residue : SignedResidue width value field := by
      refine ⟨by omega, by omega, ?_⟩
      rw [number, Int.emod_emod]
    rw [if_neg negative]
    exact signExtend_of_residue (Int.natCast_pos.mpr positive) residue

/-- A field of any width, taken from a number of any size, is extended to the word of what it
denotes. A word denotes what its sixteen bits do, and the condition flag is the sign of that. -/
theorem sign_extension_is_exact (value width : Int) :
    (signExtend value width = .error .noSignBit ↔ width ≤ 0) ∧
    (0 < width → ∃ signed word,
      (∀ other, SignedResidue width.toNat value other ↔ other = signed) ∧
      signExtend value width = .ok word ∧ (word.toNat : Int) = signed % 65536 ∧
      (width ≤ 16 → signedOf word = signed ∧
        ∀ wider, width ≤ wider → wider ≤ 16 → signExtend word.toNat wider = .ok word)) ∧
    (∀ other, SignedResidue 16 value other ↔ other = signedOf (wordOf value)) ∧
    (Condition.ofWord (wordOf value) = .negative ↔ signedOf (wordOf value) < 0) ∧
    (Condition.ofWord (wordOf value) = .zero ↔ signedOf (wordOf value) = 0) ∧
    (Condition.ofWord (wordOf value) = .positive ↔ 0 < signedOf (wordOf value)) := by
  refine ⟨signExtend_eq_error_iff, ?_, fun other => signedResidue_word_iff,
    ofWord_iff_signedOf (wordOf value)⟩
  intro positive
  have only (other : Int) : SignedResidue width.toNat value other ↔ _ :=
    signedResidue_iff (Int.pos_iff_toNat_pos.mp positive)
  have residue := (only _).mpr rfl
  refine ⟨_, _, only, signExtend_of_residue positive residue, toNat_wordOf _, ?_⟩
  intro narrow
  constructor
  · have kept := residue.widen (show width.toNat ≤ 16 by omega) rfl
    exact (signedResidue_word_iff.mp kept).symm
  · intro wider above inside
    -- A word has the number's bits only up to its own width, hence the bound on `wider`.
    have bits := wordOf_congruent (show wider.toNat ≤ 16 by omega)
    apply signExtend_of_residue (by omega)
    exact residue.widen (by omega) (bits _).symm

theorem distant_offset_is_extended_exactly :
    SignedResidue 9 (-70244) (-100) ∧
    signExtend (-70244) 9 = .ok 0xFF9C ∧ signedOf 0xFF9C = -100 ∧
    signExtend 0xFF9C 11 = .ok 0xFF9C ∧
    signExtend (-70244) 0 = .error .noSignBit := by
  have residue : SignedResidue 9 (-70244) (-100) := ⟨by decide, by decide, by decide⟩
  obtain ⟨signed, word, only, extended, number, kept⟩ :=
    (sign_extension_is_exact (-70244) 9).2.1 (by decide)
  obtain rfl : -100 = signed := (only _).mp residue
  obtain rfl : word = 0xFF9C := BitVec.eq_of_toNat_eq (Int.ofNat_inj.mp number)
  obtain ⟨denoted, again⟩ := kept (by decide)
  exact ⟨residue, extended, denoted, again 11 (by decide) (by decide),
    (sign_extension_is_exact (-70244) 0).1.mpr (by decide)⟩

end Lc3
