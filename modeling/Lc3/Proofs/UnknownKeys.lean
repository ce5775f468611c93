import Lc3.Config.Load

/-!
Unknown keys of a mapping. They can be reported if they can be put in order, which keys of one kind
can, and if no integer in them is too long to be written.
-/

namespace Lc3

namespace Numeral

/-- An integer that is not too long to be written. -/
def Writable (number : Int) : Prop := number.natAbs < tenTo digitLimit

theorem isSome_write?_iff (number : Int) : (write? number).isSome = true ↔ Writable number := by
  unfold write? Writable
  split <;> simp_all

end Numeral

namespace Value

/-! Values that have a text. -/

mutual

/-- The integers in a value. -/
def integers : Value → List Int
  | .int number => [number]
  | .list items => integersOfItems items
  | .mapping entries => integersOfEntries entries
  | .null | .bool _ | .float _ | .text _ | .bytes _ _ => []

def integersOfItems : List Value → List Int
  | [] => []
  | item :: items => integers item ++ integersOfItems items

def integersOfEntries : List (Value × Value) → List Int
  | [] => []
  | (key, value) :: entries => integers key ++ integers value ++ integersOfEntries entries

end

mutual

theorem isSome_quoted?_iff : ∀ value : Value,
    (quoted? value).isSome = true ↔ ∀ number ∈ value.integers, Numeral.Writable number
  | .null | .bool true | .bool false | .float _ | .text _ | .bytes .constant _
  | .bytes .mutable _ | .bytes .view _ => by
      simp [quoted?, integers]
  | .int number => by
      simp [quoted?, integers, Numeral.isSome_write?_iff]
  | .list items => by
      have inside := isSome_quotedItems?_iff items
      rw [integers, ← inside, quoted?]
      cases quotedItems? items <;> simp
  | .mapping entries => by
      have inside := isSome_quotedEntries?_iff entries
      rw [integers, ← inside, quoted?]
      cases quotedEntries? entries <;> simp

theorem isSome_quotedItems?_iff : ∀ items : List Value,
    (quotedItems? items).isSome = true ↔ ∀ number ∈ integersOfItems items, Numeral.Writable number
  | [] => by
      simp [quotedItems?, integersOfItems]
  | item :: items => by
      have first := isSome_quoted?_iff item
      have rest := isSome_quotedItems?_iff items
      rw [integersOfItems, List.forall_mem_append, ← first, ← rest, quotedItems?]
      cases quoted? item <;> cases quotedItems? items <;> simp

theorem isSome_quotedEntries?_iff : ∀ entries : List (Value × Value),
    (quotedEntries? entries).isSome = true ↔
      ∀ number ∈ integersOfEntries entries, Numeral.Writable number
  | [] => by
      simp [quotedEntries?, integersOfEntries]
  | (key, value) :: entries => by
      have name := isSome_quoted?_iff key
      have content := isSome_quoted?_iff value
      have rest := isSome_quotedEntries?_iff entries
      rw [integersOfEntries, List.forall_mem_append, List.forall_mem_append, ← name, ← content,
        ← rest, quotedEntries?]
      cases quoted? key <;> cases quoted? value <;> cases quotedEntries? entries <;> simp

end

end Value

namespace Config

open Value

/-- The keys among the entries that no configuration has. -/
def unknownOf (entries : List (Value × Value)) : List Value :=
  (entries.map Prod.fst).filter (!isKnown ·)

end Config

end Lc3
