import Lc3.Image

/-!
Images and their bytes. Main statement: decoding is the inverse of encoding, and it refuses just
the strings that encode no image, those of less than two bytes or of an odd number.
-/

namespace Lc3.Image

/-- Two bytes stand for every word, the high one before the low one. -/
structure BigEndian (bytes : List UInt8) (words : List Word) : Prop where
  length : bytes.length = 2 * words.length
  word : ∀ index (inside : index < words.length), ∃ high low,
    bytes[2 * index]? = some high ∧ bytes[2 * index + 1]? = some low ∧
      words[index].toNat = 256 * high.toNat + low.toNat

theorem encodeWord_eq_iff {word : Word} {high low : UInt8} :
    encodeWord word = [high, low] ↔ word.toNat = 256 * high.toNat + low.toNat := by
  have bound := word.isLt
  have highBound := high.toNat_lt
  have lowBound := low.toNat_lt
  simp only [encodeWord, List.cons.injEq, and_true, ← UInt8.toNat_inj, UInt8.toNat_ofNat']
  constructor
  · rintro ⟨upper, lower⟩
    omega
  · intro sum
    omega

theorem encodeWord_pair (high low : UInt8) : encodeWord (pair high low) = [high, low] := by
  rw [encodeWord_eq_iff, toNat_pair]
  omega

theorem pair_encodeWord (word : Word) :
    pair (UInt8.ofNat (word.toNat / 256)) (UInt8.ofNat (word.toNat % 256)) = word := by
  have sum := encodeWord_eq_iff.mp (Eq.refl (encodeWord word))
  apply BitVec.eq_of_toNat_eq
  rw [toNat_pair]
  omega

theorem bigEndian_cons_iff {bytes : List UInt8} {word : Word} {words : List Word} :
    BigEndian bytes (word :: words) ↔
      ∃ rest, bytes = encodeWord word ++ rest ∧ BigEndian rest words := by
  constructor
  · intro encoded
    have length := encoded.length
    match bytes with
    | [] | [_] =>
        simp only [List.length_cons, List.length_nil] at length
        omega
    | high :: low :: rest =>
        refine ⟨rest, ?_, ?_, ?_⟩
        · obtain ⟨upper, lower, ⟨⟩, ⟨⟩, sum⟩ := encoded.word 0 (Nat.succ_pos _)
          have first : encodeWord word = [high, low] := encodeWord_eq_iff.mpr sum
          rw [first]
          rfl
        · simp only [List.length_cons] at length
          omega
        · intro index inside
          exact encoded.word (index + 1) (Nat.succ_lt_succ inside)
  · rintro ⟨rest, rfl, encoded⟩
    have length := encoded.length
    refine ⟨?_, ?_⟩
    · simp only [encodeWord, List.cons_append, List.nil_append, List.length_cons]
      omega
    · intro index inside
      cases index with
      | zero => exact ⟨_, _, rfl, rfl, encodeWord_eq_iff.mp rfl⟩
      | succ index => exact encoded.word index (Nat.lt_of_succ_lt_succ inside)

theorem bigEndian_iff_flatMap {bytes : List UInt8} {words : List Word} :
    BigEndian bytes words ↔ bytes = words.flatMap encodeWord := by
  induction words generalizing bytes with
  | nil =>
      constructor
      · intro encoded
        exact List.eq_nil_of_length_eq_zero encoded.length
      · rintro rfl
        exact ⟨rfl, fun _ impossible => absurd impossible (Nat.not_lt_zero _)⟩
  | cons word words ih =>
      rw [bigEndian_cons_iff, List.flatMap_cons]
      constructor
      · rintro ⟨rest, rfl, encoded⟩
        rw [ih.mp encoded]
      · intro same
        exact ⟨_, same, ih.mpr rfl⟩

theorem bigEndian_encode (image : Image) :
    BigEndian image.encode (image.origin :: image.words) := bigEndian_iff_flatMap.mpr rfl

theorem wordsOnto_flatMap (seen words : List Word) :
    wordsOnto seen (words.flatMap encodeWord) = seen.reverse ++ words := by
  induction words generalizing seen with
  | nil => simp [wordsOnto]
  | cons word words ih =>
      rw [List.flatMap_cons, encodeWord, List.cons_append, List.singleton_append, wordsOnto, ih,
        pair_encodeWord]
      simp

theorem decode_encode (image : Image) : decode image.encode = .ok image := by
  have length := image.bigEndian_encode.length
  have even : image.encode.length % 2 = 0 := by omega
  have bytes : image.encode = UInt8.ofNat (image.origin.toNat / 256) ::
      UInt8.ofNat (image.origin.toNat % 256) :: image.words.flatMap encodeWord := rfl
  rw [bytes, decode, ← bytes, if_pos even, pair_encodeWord, wordsOnto_flatMap]
  rfl

/-! Which strings are images. -/

theorem exists_words : ∀ bytes : List UInt8, bytes.length % 2 = 0 →
    ∃ words : List Word, words.flatMap encodeWord = bytes
  | [], _ => ⟨[], rfl⟩
  | [_], odd => by simp at odd
  | high :: low :: rest, even => by
      simp only [List.length_cons] at even
      obtain ⟨words, same⟩ := exists_words rest (by omega)
      refine ⟨pair high low :: words, ?_⟩
      rw [List.flatMap_cons, encodeWord_pair, same]
      rfl

theorem exists_encode_iff {bytes : List UInt8} :
    (∃ image : Image, image.encode = bytes) ↔ 2 ≤ bytes.length ∧ bytes.length % 2 = 0 := by
  constructor
  · rintro ⟨image, rfl⟩
    have length := image.bigEndian_encode.length
    rw [List.length_cons] at length
    omega
  · rintro ⟨long, even⟩
    obtain ⟨words, same⟩ := exists_words bytes even
    cases words with
    | nil =>
        rw [← same] at long
        simp at long
    | cons origin words => exact ⟨⟨origin, words⟩, same⟩

theorem decode_of_short {bytes : List UInt8} (short : bytes.length < 2) :
    decode bytes = .error .missingOrigin := by
  match bytes with
  | [] | [_] => rfl
  | _ :: _ :: rest =>
      simp only [List.length_cons] at short
      omega

theorem decode_of_odd {bytes : List UInt8} (long : 2 ≤ bytes.length)
    (odd : bytes.length % 2 ≠ 0) : decode bytes = .error (.truncated bytes.length) := by
  match bytes with
  | [] | [_] =>
      simp only [List.length_cons, List.length_nil] at long
      omega
  | _ :: _ :: rest => exact if_neg odd

theorem decode_of_unpaired {bytes : List UInt8}
    (unpaired : ¬(2 ≤ bytes.length ∧ bytes.length % 2 = 0)) :
    decode bytes =
      .error (if bytes.length < 2 then .missingOrigin else .truncated bytes.length) := by
  by_cases short : bytes.length < 2
  · rw [if_pos short, decode_of_short short]
  · rw [if_neg short]
    apply decode_of_odd
    · omega
    · intro even
      exact unpaired ⟨by omega, even⟩

theorem decode_eq_ok_iff {bytes : List UInt8} {image : Image} :
    decode bytes = .ok image ↔ image.encode = bytes := by
  constructor
  · intro decoded
    -- Strings of pairs are all encodings, so nothing but decoding an encoding has to be looked at.
    by_cases paired : 2 ≤ bytes.length ∧ bytes.length % 2 = 0
    · obtain ⟨other, rfl⟩ := exists_encode_iff.mpr paired
      rw [decode_encode, Except.ok.injEq] at decoded
      rw [decoded]
    · rw [decode_of_unpaired paired] at decoded
      cases decoded
  · rintro rfl
    exact decode_encode image

/-- Images and strings of one or more pairs of bytes correspond one to one, and nothing else is
accepted as an image. -/
theorem decoding_inverts_encoding (form : ByteForm) :
    (∀ image : Image, ofValue (.bytes form image.encode) = .ok image ∧
      ∀ bytes, BigEndian bytes (image.origin :: image.words) ↔ bytes = image.encode) ∧
    (∀ bytes : List UInt8,
      ((∃ image, ofValue (.bytes form bytes) = .ok image) ↔
        2 ≤ bytes.length ∧ bytes.length % 2 = 0) ∧
      (∀ image, ofValue (.bytes form bytes) = .ok image →
        image.encode = bytes ∧ image.origin.toNat ≤ 0xFFFF ∧
          ∀ word ∈ image.words, word.toNat ≤ 0xFFFF) ∧
      (¬(2 ≤ bytes.length ∧ bytes.length % 2 = 0) → ofValue (.bytes form bytes) =
        .error (if bytes.length < 2 then .missingOrigin else .truncated bytes.length))) ∧
    ∀ value : Value, (∀ form bytes, value ≠ .bytes form bytes) →
      ofValue value = .error (.notBytes value.kind) := by
  refine ⟨?_, ?_, ?_⟩
  · intro image
    exact ⟨decode_encode image, fun bytes => bigEndian_iff_flatMap⟩
  · intro bytes
    refine ⟨?_, ?_, decode_of_unpaired⟩
    · rw [← exists_encode_iff]
      exact exists_congr fun image => decode_eq_ok_iff
    · intro image decoded
      refine ⟨decode_eq_ok_iff.mp decoded, Nat.le_of_lt_succ image.origin.isLt, ?_⟩
      intro word _
      exact Nat.le_of_lt_succ word.isLt
  · intro value other
    cases value with
    | bytes form content => exact absurd rfl (other form content)
    | null | bool _ | int _ | float _ | text _ | list _ | mapping _ => rfl

theorem halt_decoding_inverts_encoding :
    ofValue (.bytes .view [0x30, 0x00, 0xF0, 0x25]) = .ok ⟨0x3000, [0xF025]⟩ ∧
    encode ⟨0x3000, [0xF025]⟩ = [0x30, 0x00, 0xF0, 0x25] ∧
    ofValue (.bytes .view [0x30, 0x00, 0xF0]) = .error (.truncated 3) ∧
    ofValue (.int 12288) = .error (.notBytes "int") := by
  obtain ⟨encoded, decoded, others⟩ := decoding_inverts_encoding .view
  have read : ofValue (.bytes .view [0x30, 0x00, 0xF0, 0x25]) = .ok ⟨0x3000, [0xF025]⟩ :=
    (encoded ⟨0x3000, [0xF025]⟩).1
  refine ⟨read, ((decoded _).2.1 _ read).1, (decoded _).2.2 (by decide), ?_⟩
  exact others (.int 12288) (by simp)

end Lc3.Image
