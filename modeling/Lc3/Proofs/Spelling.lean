import Mathlib.Data.List.TakeWhile
import Mathlib.Data.Nat.Digits.Lemmas
import Lc3.Proofs.Configuration
import Lc3.Proofs.UnknownKeys

/-!
Integers as configurations spell them: in four bases, with a sign, with underscores between digits
and with blanks around it all. A spelling of an integer is read as that integer unless it has too
many decimal digits, so a configuration loads alike from a spelling and from the integer itself.
-/

namespace Lc3

namespace Numeral

/-! Spellings. -/

/-- A character for a digit; letters may be of either case. -/
inductive Shows : Nat → Char → Prop
  | lower {digit} : Shows digit (Nat.digitChar digit)
  | upper {digit} : Shows digit (Nat.digitChar digit).toUpper

/-- Digits one after the other. A single underscore may stand between two of them. -/
inductive Spaced (radix : Nat) : List Nat → List Char → Prop
  | last {digit char} : digit < radix → Shows digit char → Spaced radix [digit] [char]
  | next {digit char digits chars} : digit < radix → Shows digit char →
      Spaced radix digits chars → Spaced radix (digit :: digits) (char :: chars)
  | apart {digit char digits chars} : digit < radix → Shows digit char →
      Spaced radix digits chars → Spaced radix (digit :: digits) (char :: '_' :: chars)

inductive Mark : Nat → Char → Prop
  | hexadecimal : Mark 16 'x'
  | hexadecimalUpper : Mark 16 'X'
  | octal : Mark 8 'o'
  | octalUpper : Mark 8 'O'
  | binary : Mark 2 'b'
  | binaryUpper : Mark 2 'B'

/-- A number in one of the four bases, with the count of its decimal digits; other bases have none.
A decimal numeral starts with a zero only if it has nothing but zeros. -/
inductive SpellsNat (number : Nat) : Nat → List Char → Prop
  | decimal {digit digits chars} : Spaced 10 (digit :: digits) chars → digit ≠ 0 →
      Nat.ofDigits 10 (digit :: digits).reverse = number →
      SpellsNat number (digit :: digits).length chars
  | zeros {digits chars} : Spaced 10 digits chars → (∀ digit ∈ digits, digit = 0) →
      number = 0 → SpellsNat number digits.length chars
  | marked {radix mark digits chars} : Mark radix mark → Spaced radix digits chars →
      Nat.ofDigits radix digits.reverse = number → SpellsNat number 0 ('0' :: mark :: chars)
  | markedApart {radix mark digits chars} : Mark radix mark → Spaced radix digits chars →
      Nat.ofDigits radix digits.reverse = number →
      SpellsNat number 0 ('0' :: mark :: '_' :: chars)

inductive SpellsInt : Int → Nat → List Char → Prop
  | bare {number decimals chars} : SpellsNat number decimals chars →
      SpellsInt number decimals chars
  | plus {number decimals chars} : SpellsNat number decimals chars →
      SpellsInt number decimals ('+' :: chars)
  | minus {number decimals chars} : SpellsNat number decimals chars →
      SpellsInt (-number) decimals ('-' :: chars)

def narrowBlanks : List Char := [' ', '\t', '\n', '\x0b', '\x0c', '\r']

def IsBlank (point : CodePoint) : Prop :=
  ∃ char, point = .character char ∧ (char ∈ narrowBlanks ∨ char.toNat ∈ Text.wideBlanks)

/-- What stands for a character of a numeral. Digits may be of any script. -/
inductive Stands : CodePoint → Char → Prop
  | itself {char} : Stands (.character char) char
  | script {char first digit} : first ∈ Text.wideZeros → digit < 10 →
      char.toNat = first + digit → Stands (.character char) (Nat.digitChar digit)

/-- A numeral of so many decimal digits with blanks around it. -/
def Spells (number : Int) (decimals : Nat) (text : Text) : Prop :=
  ∃ before points after chars, text = before ++ (points ++ after) ∧
    (∀ point ∈ before, IsBlank point) ∧ (∀ point ∈ after, IsBlank point) ∧
    List.Forall₂ Stands points chars ∧ SpellsInt number decimals chars

/-! Digits. -/

theorem digit?_of_lt {wide radix digit : Nat} {char : Char} (read : digit? wide char = some digit)
    (below : digit < radix) : digit? radix char = some digit := by
  simp only [digit?, Option.filter_eq_some_iff, decide_eq_true_eq] at read ⊢
  exact ⟨read.1, below⟩

theorem digit?_of_shows {radix digit : Nat} {char : Char} (small : radix ≤ 16)
    (below : digit < radix) (shows : Shows digit char) : digit? radix char = some digit := by
  have inside : digit < 16 := by omega
  have lower : ∀ digit < 16, digit? 16 (Nat.digitChar digit) = some digit := by decide
  have upper : ∀ digit < 16, digit? 16 (Nat.digitChar digit).toUpper = some digit := by decide
  cases shows with
  | lower => exact digit?_of_lt (lower digit inside) below
  | upper => exact digit?_of_lt (upper digit inside) below

theorem ne_underscore_of_shows {radix digit : Nat} {char : Char} (small : radix ≤ 16)
    (below : digit < radix) (shows : Shows digit char) : char ≠ '_' := by
  rintro rfl
  have read := digit?_of_shows small below shows
  have unread : digit? 16 '_' = none := by decide
  have inside : digit < 16 := by omega
  rw [digit?_of_lt read inside] at unread
  cases unread

theorem Spaced.exists_head {radix : Nat} {digits : List Nat} {chars : List Char}
    (spaced : Spaced radix digits chars) :
    ∃ digit rest char tail, digits = digit :: rest ∧ chars = char :: tail ∧ digit < radix ∧
      Shows digit char := by
  cases spaced with
  | last below shows => exact ⟨_, _, _, _, rfl, rfl, below, shows⟩
  | next below shows _ => exact ⟨_, _, _, _, rfl, rfl, below, shows⟩
  | apart below shows _ => exact ⟨_, _, _, _, rfl, rfl, below, shows⟩

theorem digits?_of_spaced {radix : Nat} (small : radix ≤ 16) {digits : List Nat}
    {chars : List Char} (spaced : Spaced radix digits chars) :
    digits? radix chars = some digits := by
  induction spaced with
  | last below shows => simp [digits?, digit?_of_shows small below shows]
  | next below shows rest ih =>
      obtain ⟨digit, others, char, tail, rfl, rfl, headBelow, headShows⟩ := rest.exists_head
      have single := ne_underscore_of_shows small headBelow headShows
      rw [digits?, digit?_of_shows small below shows, ih]
      · rfl
      · simp
      · simp [single]
  | apart below shows rest ih =>
      simp [digits?, digit?_of_shows small below shows, ih]

theorem valueOf_eq_ofDigits (radix : Nat) (digits : List Nat) :
    valueOf radix digits = Nat.ofDigits radix digits.reverse := by
  rw [Nat.ofDigits_eq_foldr, List.foldr_reverse, valueOf]
  simp only [Nat.cast_id, Nat.add_comm, Nat.mul_comm]

theorem Spaced.cases_of_mem {radix : Nat} {digits : List Nat} {chars : List Char}
    (spaced : Spaced radix digits chars) {char : Char} (member : char ∈ chars) :
    char = '_' ∨ ∃ digit, digit < radix ∧ Shows digit char := by
  induction spaced with
  | last below shows =>
      obtain rfl := List.mem_singleton.mp member
      exact .inr ⟨_, below, shows⟩
  | next below shows _ ih =>
      rcases List.mem_cons.mp member with rfl | later
      · exact .inr ⟨_, below, shows⟩
      · exact ih later
  | apart below shows _ ih =>
      rcases List.mem_cons.mp member with rfl | later
      · exact .inr ⟨_, below, shows⟩
      · rcases List.mem_cons.mp later with rfl | later
        · exact .inl rfl
        · exact ih later

/-! Magnitudes. -/

/-- What is read of a numeral: too many decimal digits are refused. -/
def readingOf (decimals number : Nat) : Except Defect Nat :=
  if digitLimit < decimals then .error (.tooLong decimals) else .ok number

theorem readDecimal_of_spaced {digits : List Nat} {chars : List Char}
    (spaced : Spaced 10 digits chars) :
    readDecimal chars = readingOf digits.length (Nat.ofDigits 10 digits.reverse) := by
  have whole : chars.takeWhile (fun char => char == '_' || (digit? 10 char).isSome) = chars := by
    rw [List.takeWhile_eq_self_iff]
    intro char member
    rcases spaced.cases_of_mem member with rfl | ⟨digit, below, shows⟩
    · rfl
    · rw [digit?_of_shows (by omega) below shows]
      simp
  have read := digits?_of_spaced (by omega) spaced
  simp only [readDecimal, whole, read, valueOf_eq_ofDigits, readingOf, Nat.lt_irrefl, if_false]

theorem ofDigits_zeros (radix : Nat) {digits : List Nat} (zeros : ∀ digit ∈ digits, digit = 0) :
    Nat.ofDigits radix digits = 0 := by
  induction digits with
  | nil => rfl
  | cons digit digits ih =>
      rw [Nat.ofDigits_cons, zeros digit List.mem_cons_self,
        ih fun other member => zeros other (List.mem_cons_of_mem _ member)]
      simp

theorem eq_zero_of_shows_zero {digit : Nat} (below : digit < 10) (shows : Shows digit '0') :
    digit = 0 := by
  have read := digit?_of_shows (by omega) below shows
  have zero : digit? 10 '0' = some 0 := by decide
  rw [zero] at read
  exact (Option.some.inj read).symm

theorem radixOf?_of_shows {digit : Nat} {char : Char} (below : digit < 10)
    (shows : Shows digit char) : radixOf? char = none := by
  have lower : ∀ digit < 10, radixOf? (Nat.digitChar digit) = none := by decide
  have upper : ∀ digit < 10, radixOf? (Nat.digitChar digit).toUpper = none := by decide
  cases shows with
  | lower => exact lower digit below
  | upper => exact upper digit below

theorem radixOf?_of_mark {radix : Nat} {mark : Char} (marks : Mark radix mark) :
    radixOf? mark = some radix := by
  cases marks <;> rfl

theorem Mark.le_sixteen {radix : Nat} {mark : Char} (marks : Mark radix mark) : radix ≤ 16 := by
  cases marks <;> decide

theorem readMarked_of_spaced {radix : Nat} (small : radix ≤ 16) {digits : List Nat}
    {chars : List Char} (spaced : Spaced radix digits chars) :
    readMarked radix chars = .ok (Nat.ofDigits radix digits.reverse) ∧
      readMarked radix ('_' :: chars) = .ok (Nat.ofDigits radix digits.reverse) := by
  have read := digits?_of_spaced small spaced
  obtain ⟨digit, rest, char, tail, rfl, rfl, below, shows⟩ := spaced.exists_head
  have single := ne_underscore_of_shows small below shows
  constructor
  · simp [readMarked, single, read, valueOf_eq_ofDigits]
  · simp [readMarked, read, valueOf_eq_ofDigits]

/-- What follows a leading zero of a decimal numeral marks no base. -/
theorem Spaced.radixOf?_eq_none {digits : List Nat} {first second : Char} {rest : List Char}
    (spaced : Spaced 10 digits (first :: second :: rest)) : radixOf? second = none := by
  have member : second ∈ first :: second :: rest := by simp
  rcases spaced.cases_of_mem member with rfl | ⟨digit, below, shows⟩
  · rfl
  · exact radixOf?_of_shows below shows

theorem readMagnitude_of_zeros {digits : List Nat} {chars : List Char}
    (spaced : Spaced 10 digits chars) (zeros : ∀ digit ∈ digits, digit = 0) :
    readMagnitude chars = readingOf digits.length 0 := by
  have read := readDecimal_of_spaced spaced
  rw [ofDigits_zeros 10 fun digit member => zeros digit (List.mem_reverse.mp member)] at read
  unfold readMagnitude
  split
  · simp only [spaced.radixOf?_eq_none, readZero, read, readingOf]
    split <;> rfl
  · exact read

theorem readMagnitude_of_spellsNat {number decimals : Nat} {chars : List Char}
    (spelled : SpellsNat number decimals chars) :
    readMagnitude chars = readingOf decimals number := by
  cases spelled with
  | @decimal digit digits _ spaced significant value =>
      subst value
      have read := readDecimal_of_spaced spaced
      unfold readMagnitude
      split
      · obtain ⟨_, _, _, _, same, shape, below, shows⟩ := spaced.exists_head
        cases same
        cases shape
        exact absurd (eq_zero_of_shows_zero below shows) significant
      · exact read
  | zeros spaced zeros value =>
      subst value
      exact readMagnitude_of_zeros spaced zeros
  | marked marks spaced value =>
      subst value
      simp only [readMagnitude, radixOf?_of_mark marks]
      exact (readMarked_of_spaced marks.le_sixteen spaced).1
  | markedApart marks spaced value =>
      subst value
      simp only [readMagnitude, radixOf?_of_mark marks]
      exact (readMarked_of_spaced marks.le_sixteen spaced).2

/-! Signs and blanks. -/

/-- Characters that are read as they stand: neither blanks nor wide. -/
def IsPlain (char : Char) : Prop := char.toNat < 0x7F ∧ Text.isAsciiBlank char = false

instance (char : Char) : Decidable (IsPlain char) := inferInstanceAs (Decidable (_ ∧ _))

def IsSign (char : Char) : Prop := char = '-' ∨ char = '+'

instance (char : Char) : Decidable (IsSign char) := inferInstanceAs (Decidable (_ ∨ _))

theorem plain_of_shows {digit : Nat} {char : Char} (below : digit < 16)
    (shows : Shows digit char) : IsPlain char ∧ ¬IsSign char := by
  have lower : ∀ digit < 16, IsPlain (Nat.digitChar digit) ∧ ¬IsSign (Nat.digitChar digit) := by
    decide
  have upper : ∀ digit < 16,
      IsPlain (Nat.digitChar digit).toUpper ∧ ¬IsSign (Nat.digitChar digit).toUpper := by
    decide
  cases shows with
  | lower => exact lower digit below
  | upper => exact upper digit below

theorem plain_of_mark {radix : Nat} {mark : Char} (marks : Mark radix mark) :
    IsPlain mark ∧ ¬IsSign mark := by
  cases marks <;> decide

theorem Spaced.plain {radix : Nat} (small : radix ≤ 16) {digits : List Nat} {chars : List Char}
    (spaced : Spaced radix digits chars) : ∀ char ∈ chars, IsPlain char ∧ ¬IsSign char := by
  intro char member
  rcases spaced.cases_of_mem member with rfl | ⟨digit, below, shows⟩
  · decide
  · exact plain_of_shows (by omega) shows

theorem SpellsNat.plain {number decimals : Nat} {chars : List Char}
    (spelled : SpellsNat number decimals chars) : ∀ char ∈ chars, IsPlain char ∧ ¬IsSign char := by
  have zero : IsPlain '0' ∧ ¬IsSign '0' := by decide
  have underscore : IsPlain '_' ∧ ¬IsSign '_' := by decide
  cases spelled with
  | decimal spaced _ _ | zeros spaced _ _ => exact spaced.plain (by omega)
  | marked marks spaced _ =>
      simp only [List.forall_mem_cons]
      exact ⟨zero, plain_of_mark marks, spaced.plain marks.le_sixteen⟩
  | markedApart marks spaced _ =>
      simp only [List.forall_mem_cons]
      exact ⟨zero, plain_of_mark marks, underscore, spaced.plain marks.le_sixteen⟩

theorem SpellsInt.plain {number : Int} {decimals : Nat} {chars : List Char}
    (spelled : SpellsInt number decimals chars) : ∀ char ∈ chars, IsPlain char := by
  cases spelled with
  | bare natural => exact fun char member => (natural.plain char member).1
  | plus natural | minus natural =>
      rw [List.forall_mem_cons]
      exact ⟨by decide, fun char member => (natural.plain char member).1⟩

theorem splitSign_of_unsigned {chars : List Char} (unsigned : ∀ char ∈ chars, ¬IsSign char) :
    splitSign chars = (false, chars) := by
  unfold splitSign
  split
  · simp [IsSign] at unsigned
  · simp [IsSign] at unsigned
  · rfl

theorem readSigned_of_spellsInt {number : Int} {decimals : Nat} {chars : List Char}
    (spelled : SpellsInt number decimals chars) :
    (readMagnitude (splitSign chars).2).map (signed (splitSign chars).1) =
      if digitLimit < decimals then .error (.tooLong decimals) else .ok number := by
  cases spelled with
  | bare natural =>
      rw [splitSign_of_unsigned fun char member => (natural.plain char member).2,
        readMagnitude_of_spellsNat natural, readingOf]
      split <;> rfl
  | plus natural | minus natural =>
      simp only [splitSign, readMagnitude_of_spellsNat natural, readingOf]
      split <;> rfl

theorem dropWhile_blanks {before rest : List Char}
    (blank : ∀ char ∈ before, Text.isAsciiBlank char = true)
    (solid : ∀ char ∈ rest.head?, Text.isAsciiBlank char = false) :
    (before ++ rest).dropWhile Text.isAsciiBlank = rest := by
  rw [List.dropWhile_append_of_pos blank]
  cases rest with
  | nil => rfl
  | cons char rest => simp [solid char rfl]

theorem trim_of_blanks {before chars after : List Char}
    (blankBefore : ∀ char ∈ before, Text.isAsciiBlank char = true)
    (blankAfter : ∀ char ∈ after, Text.isAsciiBlank char = true)
    (solid : ∀ char ∈ chars, Text.isAsciiBlank char = false) (present : chars ≠ []) :
    Text.trim (before ++ (chars ++ after)) = chars := by
  have front : (before ++ (chars ++ after)).dropWhile Text.isAsciiBlank = chars ++ after := by
    refine dropWhile_blanks blankBefore fun char first => solid char ?_
    rw [List.head?_append_of_ne_nil _ present] at first
    exact List.mem_of_head? first
  have back : (after.reverse ++ chars.reverse).dropWhile Text.isAsciiBlank = chars.reverse := by
    refine dropWhile_blanks (by simpa using blankAfter) fun char first => solid char ?_
    exact List.mem_reverse.mp (List.mem_of_head? first)
  rw [Text.trim, front, List.reverse_append, back, List.reverse_reverse]

theorem isAsciiBlank_of_isBlank {point : CodePoint} (blank : IsBlank point) :
    Text.isAsciiBlank (toAscii point) = true := by
  obtain ⟨char, rfl, narrow | wide⟩ := blank
  · simp only [narrowBlanks, List.mem_cons, List.not_mem_nil, or_false] at narrow
    rcases narrow with rfl | rfl | rfl | rfl | rfl | rfl <;> decide
  · have beyond : ∀ code ∈ Text.wideBlanks, ¬code < 0x7F := by decide
    have listed : Text.isWideBlank char = true := List.contains_iff_mem.mpr wide
    simp only [toAscii, if_neg (beyond _ wide), listed]
    rfl

/-- Scripts whose digits do not overlap. -/
def Apart (first second : Nat) : Prop := first + 10 ≤ second ∨ second + 10 ≤ first

instance : Std.Symm Apart := ⟨fun _ _ => Or.symm⟩

theorem wideZeros_apart {left right : Nat} (inLeft : left ∈ Text.wideZeros)
    (inRight : right ∈ Text.wideZeros) (differ : left ≠ right) : Apart left right := by
  have ordered : Text.wideZeros.Pairwise fun first second => first + 10 ≤ second := by
    decide +kernel
  have apart : Text.wideZeros.Pairwise Apart := ordered.imp Or.inl
  exact apart.forall inLeft inRight differ

theorem wideDigit?_script {first digit : Nat} {char : Char} (listed : first ∈ Text.wideZeros)
    (below : digit < 10) (code : char.toNat = first + digit) :
    Text.wideDigit? char = some digit := by
  rw [Text.wideDigit?, code]
  cases found : Text.wideZeros.find? fun other =>
      other ≤ first + digit && first + digit < other + 10 with
  | none =>
      have missed := List.find?_eq_none.mp found first listed
      simp [below] at missed
  | some other =>
      have inside := List.find?_some found
      simp only [Bool.and_eq_true, decide_eq_true_eq] at inside
      have same : other = first := by
        by_contra differ
        have apart := wideZeros_apart (List.mem_of_find?_eq_some found) listed differ
        unfold Apart at apart
        omega
      rw [same, Option.map_some, Nat.add_sub_cancel_left]

theorem toAscii_of_stands {point : CodePoint} {char : Char} (stands : Stands point char)
    (plain : IsPlain char) : toAscii point = char := by
  cases stands with
  | itself => rw [toAscii, if_pos plain.1]
  | @script char first digit listed below code =>
      -- Digits of other scripts are neither ASCII nor blanks.
      have beyond : ∀ first ∈ Text.wideZeros, 0x7F ≤ first := by decide +kernel
      have solid : ∀ blank ∈ Text.wideBlanks, ∀ first ∈ Text.wideZeros,
          blank < first ∨ first + 10 ≤ blank := by
        decide +kernel
      have shown : ∀ digit < 10, Char.ofNat ('0'.toNat + digit) = Nat.digitChar digit := by decide
      have wide : ¬char.toNat < 0x7F := by
        have bound := beyond first listed
        omega
      have filled : ¬Text.isWideBlank char = true := by
        rw [Text.isWideBlank, List.contains_iff_mem]
        intro blank
        have apart := solid _ blank first listed
        omega
      simp only [toAscii, if_neg wide, if_neg filled, wideDigit?_script listed below code]
      exact shown digit below

theorem map_toAscii_of_stands {points : Text} {chars : List Char}
    (stand : List.Forall₂ Stands points chars) (plain : ∀ char ∈ chars, IsPlain char) :
    points.map toAscii = chars := by
  induction stand with
  | nil => rfl
  | cons stands _ ih =>
      rw [List.forall_mem_cons] at plain
      rw [List.map_cons, toAscii_of_stands stands plain.1, ih plain.2]

theorem SpellsNat.ne_nil {number decimals : Nat} {chars : List Char}
    (spelled : SpellsNat number decimals chars) : chars ≠ [] := by
  cases spelled with
  | decimal spaced _ _ | zeros spaced _ _ =>
      obtain ⟨_, _, _, _, _, rfl, _, _⟩ := spaced.exists_head
      simp
  | marked _ _ _ | markedApart _ _ _ => simp

theorem SpellsInt.ne_nil {number : Int} {decimals : Nat} {chars : List Char}
    (spelled : SpellsInt number decimals chars) : chars ≠ [] := by
  cases spelled with
  | bare natural => exact natural.ne_nil
  | plus _ | minus _ => simp

/-- A spelling of an integer is read as that integer, unless it has too many decimal digits. -/
theorem read_of_spells {number : Int} {decimals : Nat} {text : Text}
    (spelled : Spells number decimals text) :
    read text = if digitLimit < decimals then .error (.tooLong decimals) else .ok number := by
  obtain ⟨before, points, after, chars, rfl, blankBefore, blankAfter, stand, spelled⟩ := spelled
  have blanks {points : Text} (blank : ∀ point ∈ points, IsBlank point) :
      ∀ char ∈ points.map toAscii, Text.isAsciiBlank char = true := by
    simpa using fun point member => isAsciiBlank_of_isBlank (blank point member)
  have trimmed := trim_of_blanks (blanks blankBefore) (blanks blankAfter)
    (fun char member => (spelled.plain char member).2) spelled.ne_nil
  rw [← map_toAscii_of_stands stand spelled.plain, ← List.map_append, ← List.map_append,
    map_toAscii_of_stands stand spelled.plain] at trimmed
  rw [read, trimmed]
  exact readSigned_of_spellsInt spelled

/-! Written numerals. -/

theorem Spaced.concat {radix digit : Nat} {digits : List Nat} {chars : List Char}
    (spaced : Spaced radix digits chars) (below : digit < radix) :
    Spaced radix (digits ++ [digit]) (chars ++ [Nat.digitChar digit]) := by
  induction spaced with
  | last first shows => exact .next first shows (.last below .lower)
  | next first shows _ ih => exact .next first shows ih
  | apart first shows _ ih => exact .apart first shows ih

theorem exists_spaced_toDigits {radix : Nat} (base : 1 < radix) (number : Nat) :
    ∃ digit digits, Spaced radix (digit :: digits) (Nat.toDigits radix number) ∧
      (digit :: digits).length = (Nat.toDigits radix number).length ∧
      Nat.ofDigits radix (digit :: digits).reverse = number ∧ (number ≠ 0 → digit ≠ 0) := by
  induction number using Nat.strongRecOn with
  | ind number ih =>
      rw [Nat.toDigits_eq_if base]
      split
      next below => exact ⟨number, [], .last below .lower, rfl, by simp, id⟩
      next large =>
        have inside : number % radix < radix := Nat.mod_lt number (by omega)
        have quotient : number / radix ≠ 0 := Nat.div_ne_zero_iff.mpr ⟨by omega, by omega⟩
        obtain ⟨digit, digits, spaced, length, value, significant⟩ :=
          ih (number / radix) (Nat.div_lt_self (by omega) base)
        refine ⟨digit, digits ++ [number % radix], spaced.concat inside, ?_, ?_, ?_⟩
        · simp [← length]
        · rw [← List.cons_append, List.reverse_append, List.reverse_singleton,
            List.singleton_append, Nat.ofDigits_cons, value]
          exact Nat.mod_add_div number radix
        · exact fun _ => significant quotient

theorem spellsNat_decimal (number : Nat) :
    SpellsNat number (Nat.toDigits 10 number).length (Nat.toDigits 10 number) := by
  have base : 1 < 10 := by decide
  obtain ⟨digit, digits, spaced, length, value, significant⟩ := exists_spaced_toDigits base number
  by_cases zero : number = 0
  · subst zero
    have shown : Shows 0 '0' := .lower
    rw [Nat.toDigits_zero]
    exact .zeros (.last (by decide) shown) (by simp) rfl
  · rw [← length]
    exact .decimal spaced (significant zero) value

theorem spellsNat_marked {radix : Nat} {mark : Char} (marks : Mark radix mark) (number : Nat) :
    SpellsNat number 0 ('0' :: mark :: Nat.toDigits radix number) := by
  have base : 1 < radix := by cases marks <;> decide
  obtain ⟨digit, digits, spaced, _, value, _⟩ := exists_spaced_toDigits base number
  exact .marked marks spaced value

theorem spells_of_spellsInt {number : Int} {decimals : Nat} {chars : List Char}
    (spelled : SpellsInt number decimals chars) : Spells number decimals (Text.ofChars chars) :=
  ⟨[], Text.ofChars chars, [], chars, by simp, nofun, nofun,
    List.forall₂_map_left_iff.mpr (List.forall₂_same.mpr fun _ _ => .itself), spelled⟩

theorem spellsInt_decimal (number : Int) :
    SpellsInt number (Nat.toDigits 10 number.natAbs).length (decimal number) := by
  have natural := spellsNat_decimal number.natAbs
  rw [decimal]
  split
  next negative =>
    have same : -(number.natAbs : Int) = number := by omega
    have spelled := SpellsInt.minus natural
    rwa [same] at spelled
  next positive =>
    have same : (number.natAbs : Int) = number := by omega
    have spelled := SpellsInt.bare natural
    rwa [same] at spelled

theorem length_toDigits_le {number limit : Nat} (positive : 0 < limit)
    (short : number < tenTo limit) : (Nat.toDigits 10 number).length ≤ limit :=
  (Nat.length_toDigits_le_iff (by decide) positive).mpr short

/-- What is written of an integer is read back. -/
theorem read_decimal {number : Int} (short : Writable number) :
    read (Text.ofChars (decimal number)) = .ok number := by
  have few := length_toDigits_le (by decide) short
  rw [read_of_spells (spells_of_spellsInt (spellsInt_decimal number)), if_neg (by omega)]

theorem read_marked {radix : Nat} {mark : Char} (marks : Mark radix mark) (number : Nat) :
    read (Text.ofChars ('0' :: mark :: Nat.toDigits radix number)) = .ok (number : Int) := by
  rw [read_of_spells (spells_of_spellsInt (.bare (spellsNat_marked marks number)))]
  rfl

end Numeral

/-! Values and settings. -/

section

variable {number : Int} {decimals : Nat} {text : Text}
  (spelled : Numeral.Spells number decimals text)

include spelled

theorem Value.toInt_spelled (few : decimals ≤ Numeral.digitLimit) :
    toInt (.text text) = .ok number := by
  simp only [toInt, Numeral.read_of_spells spelled, if_neg (Nat.not_lt.mpr few)]

theorem Value.toInt_overlong (many : Numeral.digitLimit < decimals) :
    toInt (.text text) = .error (.tooManyDigits decimals) := by
  simp only [toInt, Numeral.read_of_spells spelled, if_pos many]

theorem Config.toLimit_spelled (few : decimals ≤ Numeral.digitLimit) :
    toLimit (.text text) = .ok (some number) := by
  simp only [toLimit, Value.toInt_spelled spelled few]
  rfl

end

namespace Config

section

variable {left right : Value}

theorem setting_append (entries others : List (Value × Value)) (name : String) (default : Value) :
    setting (entries ++ others) name default =
      setting entries name (setting others name default) := by
  simp only [setting, List.find?_append]
  cases entries.find? fun entry => isKey name entry.1 <;> rfl

theorem setting_default {f : Value → α} (same : f left = f right)
    (entries : List (Value × Value)) (name : String) :
    f (setting entries name left) = f (setting entries name right) := by
  unfold setting
  split
  · rfl
  · exact same

variable (before after : List (Value × Value))

/-- What is read of a setting is the same for two values of one key if they read alike. -/
theorem setting_replaced {key name : String} {f : Value → α}
    (same : key = name → f left = f right) (default : Value) :
    f (setting (before ++ (.text (Text.ofString key), left) :: after) name default) =
      f (setting (before ++ (.text (Text.ofString key), right) :: after) name default) := by
  rw [setting_append, setting_append]
  apply setting_default
  rw [setting_cons, setting_cons]
  split
  next named => exact same named
  next => rfl

theorem convert_replaced {key : String} (numeric : key ≠ haltMessageKey)
    (sameInt : left.toInt = right.toInt) (sameLimit : toLimit left = toLimit right) :
    convert (before ++ (.text (Text.ofString key), left) :: after) =
      convert (before ++ (.text (Text.ofString key), right) :: after) := by
  have number (name : String) :=
    setting_replaced before after fun _ : key = name => sameInt
  have limit := setting_replaced before after (f := toLimit)
    fun _ : key = stepLimitKey => sameLimit
  have unread (same : key = haltMessageKey) : left.toText = right.toText := absurd same numeric
  have message := setting_replaced before after unread
  simp only [convert, number, limit, message]

theorem unknownKeys_replaced (key : String) (left right : Value) :
    unknownKeys (before ++ (.text (Text.ofString key), left) :: after) =
      unknownKeys (before ++ (.text (Text.ofString key), right) :: after) := by
  simp only [unknownKeys, List.map_append, List.map_cons]

end

/-- Keys whose values are integers. -/
def integerKeys : List String := [statusKey, dataKey, stepLimitKey]

theorem ne_haltMessageKey {key : String} (numeric : key ∈ integerKeys) : key ≠ haltMessageKey := by
  rintro rfl
  simp [integerKeys, statusKey, dataKey, stepLimitKey, haltMessageKey] at numeric

end Config

/-- A configuration loads alike, or is rejected with the same error, from a spelling of an integer
and from the integer itself. -/
theorem spelling_changes_no_result (files : Files) {key : String}
    (numeric : key ∈ Config.integerKeys) {number : Int} {decimals : Nat} {text : Text}
    (spelled : Numeral.Spells number decimals text) (few : decimals ≤ Numeral.digitLimit)
    (before after : List (Value × Value)) :
    Config.load files (.mapping (before ++ (.text (Text.ofString key), .text text) :: after)) =
      Config.load files
        (.mapping (before ++ (.text (Text.ofString key), .int number) :: after)) := by
  have sameInt : (Value.text text).toInt = (Value.int number).toInt :=
    Value.toInt_spelled spelled few
  have sameLimit : Config.toLimit (.text text) = Config.toLimit (.int number) :=
    Config.toLimit_spelled spelled few
  have converted := Config.convert_replaced before after (Config.ne_haltMessageKey numeric)
    sameInt sameLimit
  have unknown := Config.unknownKeys_replaced before after key (.text text) (.int number)
  simp only [Config.load, Config.ofEntries, converted, unknown]

/-- An address with a sign, a capital digit, an underscore and blanks around it. -/
theorem padded_address_is_accepted :
    let text := Text.ofString " +0xF_d00\n"
    Config.statusKey ∈ Config.integerKeys ∧ Numeral.Spells 0xFD00 0 text ∧
      0 ≤ Numeral.digitLimit ∧
      Config.load ⟨[]⟩ (.mapping [(.text (Text.ofString Config.statusKey), .text text)]) =
        Config.load ⟨[]⟩ (.mapping [(.text (Text.ofString Config.statusKey), .int 0xFD00)]) := by
  intro text
  have numeric : Config.statusKey ∈ Config.integerKeys := by simp [Config.integerKeys]
  have digits : Numeral.Spaced 16 [15, 13, 0, 0] ['F', '_', 'd', '0', '0'] :=
    .apart (by decide) .upper (.next (by decide) .lower (.next (by decide) .lower
      (.last (by decide) .lower)))
  have spelled : Numeral.Spells 0xFD00 0 text := by
    refine ⟨Text.ofChars [' '], Text.ofString "+0xF_d00", Text.ofChars ['\n'],
      "+0xF_d00".toList, rfl, ?_, ?_, ?_, ?_⟩
    · simp [Numeral.IsBlank, Numeral.narrowBlanks, Text.ofChars]
    · simp [Numeral.IsBlank, Numeral.narrowBlanks, Text.ofChars]
    · exact List.forall₂_map_left_iff.mpr (List.forall₂_same.mpr fun _ _ => .itself)
    · exact .plus (.marked .hexadecimal digits rfl)
  have few : 0 ≤ Numeral.digitLimit := by simp
  exact ⟨numeric, spelled, few, spelling_changes_no_result ⟨[]⟩ numeric spelled few [] []⟩

theorem Numeral.spells_zeros (count : Nat) :
    Spells 0 (count + 1) (Text.ofChars (List.replicate (count + 1) '0')) := by
  have spaced : Spaced 10 (List.replicate (count + 1) 0) (List.replicate (count + 1) '0') := by
    have shown : Shows 0 '0' := .lower
    induction count with
    | zero => exact .last (by decide) shown
    | succ count ih => exact .next (by decide) shown ih
  have natural := SpellsNat.zeros spaced (by simp) rfl
  rw [List.length_replicate] at natural
  exact spells_of_spellsInt (.bare natural)

/-- Zeros are counted as digits, although they add nothing to the number. -/
theorem too_many_zeros_are_rejected :
    let text := Text.ofChars (List.replicate (Numeral.digitLimit + 1) '0')
    let load (value : Value) :=
      Config.load ⟨[]⟩ (.mapping [(.text (Text.ofString Config.statusKey), value)])
    Config.statusKey ∈ Config.integerKeys ∧
      Numeral.Spells 0 (Numeral.digitLimit + 1) text ∧
      (∃ config, load (.int 0) = .ok config) ∧
      load (.text text) = .error (.rejected (.badType (.tooManyDigits 4301))) := by
  intro text load
  have spelled : Numeral.Spells 0 (Numeral.digitLimit + 1) text :=
    Numeral.spells_zeros Numeral.digitLimit
  have overlong := Value.toInt_overlong spelled (by simp)
  have unknown : Config.unknownKeys [(.text (Text.ofString Config.statusKey), .text text)] =
      .ok [] := by
    refine Config.unknownKeys_of_known fun entry member => ?_
    obtain rfl := List.mem_singleton.mp member
    exact Config.isKnown_text (by simp [Config.keys])
  refine ⟨by simp [Config.integerKeys], spelled, ⟨_, rfl⟩, ?_⟩
  simp only [load, Config.load, Config.ofEntries, unknown, Config.convert, Config.setting_cons,
    if_true, overlong]
  rfl

end Lc3
