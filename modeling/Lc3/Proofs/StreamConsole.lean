import Lc3.Proofs.Lockstep

/-!
Input as a text and input as a list of lines. A machine that cuts its lines out of a text, up to
one newline after the other, computes what it computes when the lines are handed to it.
-/

namespace Lc3

/-- The lines as one text, with a newline after each. -/
def unlines (lines : List String) : String := String.join (lines.map (· ++ "\n"))

def Unbroken (line : String) : Prop := ∀ char ∈ line.toList, char ≠ '\r' ∧ char ≠ '\n'

theorem unlines_cons_toList (line : String) (lines : List String) :
    (unlines (line :: lines)).toList = line.toList ++ '\n' :: (unlines lines).toList := by
  simp [unlines, String.toList_join]

/-- The text is made of these lines. The last one may do without its newline. -/
inductive Spells : List String → List Char → Prop
  | none : Spells [] []
  | unended {line} (unbroken : Unbroken line) : Spells [line] line.toList
  | ended {line lines text} (unbroken : Unbroken line) (rest : Spells lines text) :
      Spells (line :: lines) (line.toList ++ '\n' :: text)

namespace Spells

variable {lines : List String}

theorem of_unlines (unbroken : ∀ line ∈ lines, Unbroken line) :
    Spells lines (unlines lines).toList := by
  induction lines with
  | nil => exact .none
  | cons line lines ih =>
      obtain ⟨first, later⟩ := List.forall_mem_cons.mp unbroken
      rw [unlines_cons_toList]
      exact .ended first (ih later)

theorem of_append_newline {text : List Char} (unbroken : ∀ line ∈ lines, Unbroken line)
    (same : text ++ ['\n'] = (unlines lines).toList) : Spells lines text := by
  induction lines generalizing text with
  | nil => simp [unlines] at same
  | cons line lines ih =>
      obtain ⟨first, later⟩ := List.forall_mem_cons.mp unbroken
      rw [unlines_cons_toList] at same
      rcases List.eq_nil_or_concat (unlines lines).toList with empty | ⟨rest, last, split⟩
      · cases lines with
        | nil =>
            rw [empty] at same
            obtain ⟨rfl, -⟩ := List.append_inj' same rfl
            exact .unended first
        | cons next lines => simp [unlines_cons_toList] at empty
      · rw [split, List.concat_eq_append, ← List.cons_append, ← List.append_assoc] at same
        obtain ⟨rfl, ends⟩ := List.append_inj' same rfl
        exact .ended first (ih later (by rw [split, List.concat_eq_append, ends]))

end Spells

namespace Source

theorem stripLineEnd_of_unbroken {line : String} (unbroken : Unbroken line) :
    stripLineEnd line.toList = line.toList := by
  unfold stripLineEnd
  cases reversed : line.toList.reverse with
  | nil => simpa using reversed.symm
  | cons char chars =>
      have member : char ∈ line.toList := by
        rw [← List.mem_reverse, reversed]
        exact List.mem_cons_self
      obtain ⟨noReturn, noNewline⟩ := unbroken char member
      rw [List.dropWhile_cons_of_neg (by simp [noReturn, noNewline]), ← reversed,
        List.reverse_reverse]

theorem takeWhile_of_unbroken {line : String} (unbroken : Unbroken line) (after : List Char) :
    (line.toList ++ after).takeWhile (· != '\n') = line.toList ++ after.takeWhile (· != '\n') :=
  List.takeWhile_append_of_pos fun char member => bne_iff_ne.mpr (unbroken char member).2

theorem dropWhile_of_unbroken {line : String} (unbroken : Unbroken line) (after : List Char) :
    (line.toList ++ after).dropWhile (· != '\n') = after.dropWhile (· != '\n') :=
  List.dropWhile_append_of_pos fun char member => bne_iff_ne.mpr (unbroken char member).2

theorem readLine_of_spells {lines : List String} {text : List Char} (spells : Spells lines text) :
    ∃ rest, (stream text .whole).readLine = (.line (lines.headD ""), .stream rest .whole) ∧
      Spells lines.tail rest := by
  cases spells with
  | none => exact ⟨[], rfl, .none⟩
  | @unended line unbroken =>
      refine ⟨[], ?_, .none⟩
      have taken := takeWhile_of_unbroken unbroken []
      have dropped := dropWhile_of_unbroken unbroken []
      rw [List.append_nil] at taken dropped
      simp [readLine, taken, dropped, stripLineEnd_of_unbroken unbroken]
  | @ended line lines rest unbroken spells =>
      refine ⟨rest, ?_, spells⟩
      simp [readLine, takeWhile_of_unbroken unbroken, dropWhile_of_unbroken unbroken,
        stripLineEnd_of_unbroken unbroken]

theorem readLine_lines (lines : List String) :
    (script (lines.map .line)).readLine =
      (.line (lines.headD ""), .script (lines.tail.map .line)) := by
  rw [readLine_script]
  cases lines <;> rfl

end Source

/-- Both terminals have the same lines before them, one as a text and the other as a script. -/
structure StreamOf (streamed scripted : Terminal) : Prop where
  source : ∃ lines text, Spells lines text ∧ streamed.console.source = .stream text .whole ∧
    scripted.console.source = .script (lines.map .line)
  streamedSink : streamed.console.sink = .full
  scriptedSink : scripted.console.sink = .script []
  calls : streamed.console.calls = scripted.console.calls
  log : streamed.log = scripted.log

namespace StreamOf

variable {streamed scripted : Terminal}

theorem readChar (alike : StreamOf streamed scripted) :
    Agree StreamOf (Terminal.readChar streamed) (Terminal.readChar scripted) := by
  obtain ⟨⟨source, sink, calls⟩, log⟩ := streamed
  obtain ⟨⟨source', sink', calls'⟩, log'⟩ := scripted
  obtain ⟨⟨lines, text, spells, rfl, rfl⟩, rfl, rfl, rfl, rfl⟩ := alike
  obtain ⟨rest, read, spells⟩ := Source.readLine_of_spells spells
  simp only [Terminal.readChar, Console.readLine, read, Source.readLine_lines]
  exact ⟨rfl, ⟨lines.tail, rest, spells, rfl, rfl⟩, rfl, rfl, rfl, rfl⟩

theorem print (text : Text) (alike : StreamOf streamed scripted) :
    Agree StreamOf (Terminal.print text streamed) (Terminal.print text scripted) := by
  obtain ⟨⟨source, sink, calls⟩, log⟩ := streamed
  obtain ⟨⟨source', sink', calls'⟩, log'⟩ := scripted
  obtain ⟨sources, rfl, rfl, rfl, rfl⟩ := alike
  exact ⟨rfl, sources, rfl, rfl, rfl, rfl⟩

theorem simulation : Simulation StreamOf where
  readChar := readChar
  print text _ _ alike := print text alike
  note _ alike := { alike with log := congrArg (_ :: ·) alike.log }

end StreamOf

/-- It changes no result whether a machine is given its lines or a text that they make up: whatever
is asked of it, it answers, computes, writes and logs the same. -/
theorem streamed_lines_change_no_result {files : Files} {image config : Value}
    {lines : List String} {text : String} {machine : Machine}
    (unbroken : ∀ line ∈ lines, ∀ char ∈ line.toList, char ≠ '\r' ∧ char ≠ '\n')
    (spelled : text = unlines lines ∨ text ++ "\n" = unlines lines)
    (built : build files image config (Console.ofSourceSink (.ofText text) .full) = .ok machine) :
    ∃ scripted, build files image config
        (Console.ofSourceSink (.script (lines.map .line)) (.script [])) = .ok scripted ∧
      ∀ requests : List Request,
        let (answers, last) := Exec.performAll requests machine
        let (scriptedAnswers, scriptedLast) := Exec.performAll requests scripted
        answers = scriptedAnswers ∧
        last = { scriptedLast with terminal := last.terminal } ∧
        last.terminal.console.output = scriptedLast.terminal.console.output ∧
        last.terminal.console.calls = scriptedLast.terminal.console.calls ∧
        last.terminal.log = scriptedLast.terminal.log := by
  obtain ⟨program, settings, rfl, again⟩ := build_eq_ok built
  refine ⟨_, again _, fun requests => ?_⟩
  have spells : Spells lines text.toList := by
    rcases spelled with rfl | spelled
    · exact .of_unlines unbroken
    · exact .of_append_newline unbroken (by rw [← spelled]; simp)
  have alike : Alike StreamOf
      (Machine.ofConfig program settings (Console.ofSourceSink (.ofText text) .full))
      (Machine.ofConfig program settings
        (Console.ofSourceSink (.script (lines.map .line)) (.script []))) :=
    ⟨(Machine.ofConfig_proper _ _ _).reachable,
      ⟨⟨lines, text.toList, spells, rfl, rfl⟩, rfl, rfl, rfl, rfl⟩, rfl⟩
  obtain ⟨answers, last⟩ := Lockstep.performAll StreamOf.simulation alike requests
  refine ⟨answers, ?_, ?_, last.terminals.calls, last.terminals.log⟩
  · rw [last.rest]
  · rw [Console.output, Console.output, Console.chunks, Console.chunks, last.terminals.calls]

/-- A program that echoes three lines, the second of them blank and the last without a newline. -/
theorem streamed_blank_line_changes_no_result :
    let image : Value := .bytes .constant
      [0x30, 0x00, 0xF0, 0x23, 0xF0, 0x23, 0xF0, 0x23, 0xF0, 0x25]
    ∃ machine scripted,
      build ⟨[]⟩ image .null (Console.ofSourceSink (.ofText "a\n\nb") .full) = .ok machine ∧
      build ⟨[]⟩ image .null (Console.ofSourceSink (.script [.line "a", .line "", .line "b"])
        (.script [])) = .ok scripted ∧
      ∀ requests : List Request,
        (Exec.performAll requests machine).1 = (Exec.performAll requests scripted).1 := by
  intro image
  have unbroken : ∀ line ∈ ["a", "", "b"], ∀ char ∈ line.toList, char ≠ '\r' ∧ char ≠ '\n' := by
    simp
  have spelled : "a\n\nb" ++ "\n" = unlines ["a", "", "b"] := by decide
  have built : build ⟨[]⟩ image .null (Console.ofSourceSink (.ofText "a\n\nb") .full) =
      .ok _ := rfl
  obtain ⟨scripted, again, same⟩ :=
    streamed_lines_change_no_result unbroken (.inr spelled) built
  exact ⟨_, scripted, built, again, fun requests => (same requests).1⟩

end Lc3
