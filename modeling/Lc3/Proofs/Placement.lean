import Lc3.Machine.Basic
import Lc3.Proofs.ImageBytes

/-!
Where the words of an image come to stand. They are placed from the origin on, round and round if
there are more of them than cells. Main statement: a fresh machine has in every cell the last word
that was placed there, and zero where none was.
-/

namespace Lc3

/-- How many cells further on than the first one a cell is, where address 0 follows the last. -/
def distance (first cell : Word) : Nat := (cell - first).toNat

/-- The index of the last among so many words that is placed at a distance from the first. -/
def lastIndex (size distance : Nat) : Nat := distance + 65536 * ((size - 1 - distance) / 65536)

theorem distance_self (first : Word) : distance first first = 0 := by
  rw [distance, BitVec.sub_self]
  rfl

theorem distance_onward_self (first : Word) : distance (first + 1) first = 65535 := by
  have bound := first.isLt
  unfold distance
  bv_omega

theorem distance_onward {first cell : Word} (other : cell ≠ first) :
    distance first cell = distance (first + 1) cell + 1 := by
  unfold distance
  bv_omega

namespace Memory

theorem get_place_of_le (memory : Memory) {first cell : Word} {words : List Word}
    (beyond : words.length ≤ distance first cell) :
    (memory.place first words).get cell = memory.get cell := by
  induction words generalizing memory first with
  | nil => rfl
  | cons word words ih =>
      rw [List.length_cons] at beyond
      have other : cell ≠ first := by
        rintro rfl
        rw [distance_self] at beyond
        omega
      have onward := distance_onward other
      rw [place, ih _ (by omega), get_set_of_ne memory word other.symm]

/-- A cell within reach of the words has the last of them that was put there. -/
theorem getElem?_lastIndex (memory : Memory) {first cell : Word} {words : List Word}
    (within : distance first cell < words.length) :
    words[lastIndex words.length (distance first cell)]? =
      some ((memory.place first words).get cell) := by
  -- With the first word placed, the cell is one step nearer, or a whole round away.
  induction words generalizing memory first with
  | nil => exact absurd within (Nat.not_lt_zero _)
  | cons word words ih =>
      rw [List.length_cons] at within ⊢
      rw [place]
      by_cases here : cell = first
      · subst here
        have round := distance_onward_self cell
        rw [distance_self]
        by_cases again : 65535 < words.length
        · -- The words come round to this cell, so the first of them does not stay there.
          have later : lastIndex (words.length + 1) 0 = lastIndex words.length 65535 + 1 := by
            unfold lastIndex
            omega
          rw [later, List.getElem?_cons_succ, ← round]
          apply ih
          omega
        · have only : lastIndex (words.length + 1) 0 = 0 := by
            unfold lastIndex
            omega
          rw [only, get_place_of_le _ (by omega), get_set_self]
          rfl
      · have onward := distance_onward here
        have later : lastIndex (words.length + 1) (distance first cell) =
            lastIndex words.length (distance (first + 1) cell) + 1 := by
          unfold lastIndex
          omega
        rw [later, List.getElem?_cons_succ]
        apply ih
        omega

end Memory

/-- A machine before its first instruction: the image is in its place, and nothing was done yet. -/
structure Machine.Fresh (machine : Machine) (image : Image) (keyboard : Keyboard)
    (console : Console) : Prop where
  pc : machine.registers.pc = image.origin
  general : ∀ name, machine.registers.get name = 0
  condition : machine.registers.condition = .zero
  tick : machine.tick = 0
  imageSize : machine.imageSize = image.words.length
  keyboard : machine.keyboard = keyboard
  console : machine.terminal.console = console
  empty : ∀ cell, image.words.length ≤ distance image.origin cell → machine.memory.get cell = 0
  latest : ∀ cell, distance image.origin cell < image.words.length →
    image.words[lastIndex image.words.length (distance image.origin cell)]? =
      some (machine.memory.get cell)

theorem Machine.fresh_load (image : Image) (keyboard : Keyboard) (stepLimit : Option Int)
    (haltMessage : Text) (console : Console) :
    (load image keyboard stepLimit haltMessage console).Fresh image keyboard console where
  pc := rfl
  general name := Vector.getElem_replicate name.isLt
  condition := rfl
  tick := rfl
  imageSize := rfl
  keyboard := rfl
  console := rfl
  empty cell beyond := by
    have untouched := Memory.zero.get_place_of_le beyond
    rw [Memory.get_zero] at untouched
    exact untouched
  latest _ within := Memory.zero.getElem?_lastIndex within

/-- Images of every length are placed with the last word winning, wherever the keyboard is; what is
no image is refused, and no machine comes of it. -/
theorem last_placed_word_stays (keyboard : Keyboard) (stepLimit : Option Int) (haltMessage : Text)
    (console : Console) :
    let construct (value : Value) := Machine.ofValue value keyboard stepLimit haltMessage console
    (∀ form image, ∃ machine, construct (.bytes form (Image.encode image)) = .ok machine ∧
      machine.Fresh image keyboard console) ∧
    ∀ value error, construct value = .error error ↔ Image.ofValue value = .error error := by
  intro construct
  constructor
  · intro form image
    have decoded : Image.ofValue (.bytes form image.encode) = .ok image :=
      Image.decode_encode image
    refine ⟨_, ?_, Machine.fresh_load image keyboard stepLimit haltMessage console⟩
    change Except.map _ (Image.ofValue (.bytes form image.encode)) = _
    rw [decoded]
    rfl
  · intro value error
    change Except.map _ (Image.ofValue value) = _ ↔ _
    cases Image.ofValue value with
    | error refused => simp [Except.map]
    | ok image => simp [Except.map]

end Lc3
