import Lc3.Files

/-!
Files as their places show them. A file that is written over or made leaves all other places as
they were, and a path that does not lead to it leads where it led before.
-/

namespace Lc3

namespace Path

/-- A place each part of which leads one place further. -/
def Settled (place : List String) : Prop :=
  ∀ start part, start ++ [part] <+: place → step start part = start ++ [part]

theorem Settled.concat {place : List String} {part : String} (settled : Settled place)
    (further : step place part = place ++ [part]) : Settled (place ++ [part]) := by
  intro start other before
  rcases List.prefix_concat_iff.mp before with same | within
  · obtain ⟨rfl, rfl⟩ := List.append_singleton_inj.mp same
    exact further
  · exact settled start other within

theorem Settled.step {place : List String} (settled : Settled place) (part : String) :
    Settled (step place part) := by
  by_cases back : part = ".."
  · rw [Path.step, if_pos back]
    cases ended : place.getLast? with
    | none =>
        obtain rfl := List.getLast?_eq_none_iff.mp ended
        exact settled.concat rfl
    | some last =>
        simp only []
        split
        · exact settled
        · split
          next above =>
            refine settled.concat ?_
            simp [Path.step, ended, above, root]
          next =>
            intro start other before
            exact settled start other (before.trans (List.dropLast_prefix _))
  · rw [Path.step, if_neg back]
    refine settled.concat ?_
    split
    · simp [Path.step, root, doubleRoot]
    next single => simp [Path.step, back, single]

end Path

namespace Files

/-- A place where a file can be written: directories lead there, and it is none. -/
structure Writable (files : Files) (place : List String) : Prop where
  parents : ∀ start, start <+: place → start ≠ place → files.at? start = some .directory
  free : files.at? place ≠ some .directory

theorem find?_putAt (files : Files) (place other : List String) (content : List UInt8) :
    (files.putAt place content).entries.find? (·.1 == other) =
      if other = place then some (place, .file content)
      else files.entries.find? (·.1 == other) := by
  rw [putAt, List.find?_append, List.find?_filter]
  by_cases same : other = place
  · rw [if_pos same, same, List.find?_eq_none.mpr (by simp)]
    simp
  · have kept (entry : List String × Entry) :
        (entry.1 != place ∧ entry.1 == other) ↔ entry.1 == other := by
      by_cases named : entry.1 = other <;> simp [named, same]
    have appended : [(place, Entry.file content)].find? (·.1 == other) = none := by
      simp [Ne.symm same]
    simp only [kept, appended, if_neg same, Bool.decide_eq_true, Option.or_none]

theorem any_putAt (files : Files) (place : List String) (content : List UInt8)
    (covers : List String → Bool) :
    (files.putAt place content).entries.any (fun (other, _) => covers other) =
      (files.entries.any (fun (other, _) => covers other) || covers place) := by
  rw [putAt, List.any_append, List.any_filter, Bool.eq_iff_iff]
  simp only [Bool.or_eq_true, List.any_eq_true, Bool.and_eq_true, bne_iff_ne, List.mem_singleton]
  constructor
  · rintro (⟨entry, member, _, covered⟩ | ⟨_, rfl, covered⟩)
    · exact .inl ⟨entry, member, covered⟩
    · exact .inr covered
  · rintro (⟨entry, member, covered⟩ | covered)
    · by_cases same : entry.1 = place
      · exact .inr ⟨_, rfl, same ▸ covered⟩
      · exact .inl ⟨entry, member, same, covered⟩
    · exact .inr ⟨_, rfl, covered⟩

theorem at?_putAt {files : Files} {place : List String} (writable : files.Writable place)
    (content : List UInt8) (other : List String) :
    (files.putAt place content).at? other =
      if other = place then some (.file content) else files.at? other := by
  have free := writable.free
  have parents := writable.parents other
  by_cases same : other = place
  · subst other
    unfold at? at free ⊢
    split at free
    · contradiction
    next below => simp [below, find?_putAt]
  · rw [if_neg same]
    unfold at? at parents ⊢
    split
    · rfl
    next below =>
      rw [if_neg below] at parents
      simp only [find?_putAt, if_neg same, any_putAt]
      cases found : files.entries.find? (·.1 == other) with
      | some entry => rfl
      | none =>
          simp only [found] at parents ⊢
          -- The new entry makes a directory of each place above it; those were ones before.
          cases inside : other.isPrefixOf place with
          | true =>
              rw [parents (List.isPrefixOf_iff_prefix.mp inside) same]
              simp
          | false => rw [Bool.or_false]

theorem Writable.putAt {files : Files} {place : List String} (writable : files.Writable place)
    (content : List UInt8) : (files.putAt place content).Writable place where
  parents start before short := by
    rw [at?_putAt writable, if_neg short]
    exact writable.parents start before short
  free := by
    rw [at?_putAt writable, if_pos rfl]
    simp

end Files

/-! Paths past a file that was written. -/

def FileError.IsMiss (error : FileError) : Prop := error = .notFound ∨ error = .notDirectory

namespace Files

/-- Results that are the same but for the reason why nothing was found. -/
inductive Alike : Except FileError α → Except FileError α → Prop
  | same (result) : Alike result result
  | missed {first second} : first.IsMiss → second.IsMiss → Alike (.error first) (.error second)

theorem Alike.bind {left right : Except FileError α} {next after : α → Except FileError β}
    (alike : Alike left right)
    (further : ∀ value, left = .ok value → Alike (next value) (after value)) :
    Alike (left >>= next) (right >>= after) := by
  cases alike with
  | same =>
      cases left with
      | error error => exact .same _
      | ok value => exact further value rfl
  | missed first second => exact .missed first second

variable {files : Files} {place : List String} (writable : files.Writable place)
  (content : List UInt8)

include writable

end Files

end Lc3
