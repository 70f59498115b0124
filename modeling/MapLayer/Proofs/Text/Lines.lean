import MapLayer.Proofs.Text.Pieces

/-! Lines that are written with line breaks. Main statement: they are the lines of the text, whichever breaks are
used and whether or not there is one behind the last line. -/

namespace MapLayer.Text

/-- The texts that lines may be written as. A carriage return before a line feed belongs to the break. A last
line without a break holds something, or else it is none. -/
inductive Breaks : List (List Char) → List Char → Prop
  | nil : Breaks [] []
  | last {line : List Char} (whole : '\n' ∉ line) (filled : line ≠ []) : Breaks [line] line
  | feed {line : List Char} {lines : List (List Char)} {text : List Char} (whole : '\n' ∉ line)
      (bare : line.getLast? ≠ some '\r') (behind : Breaks lines text) :
      Breaks (line :: lines) (line ++ '\n' :: text)
  | returned {line : List Char} {lines : List (List Char)} {text : List Char} (whole : '\n' ∉ line)
      (behind : Breaks lines text) : Breaks (line :: lines) (line ++ '\r' :: '\n' :: text)

theorem lines_append {line : List Char} (whole : '\n' ∉ line) (text : List Char) :
    lines (line ++ '\n' :: text) = dropReturn line :: lines text := by
  have more := pieces_ne_nil '\n' text
  have cut : pieces '\n' (line ++ '\n' :: text) = line :: pieces '\n' text := by
    rw [pieces_append, pieces_of_not_mem whole, List.singleton_append]
  rw [lines, lines, cut, List.dropLast_cons_of_ne_nil more, List.map_cons,
    List.getLast?_cons_of_ne_nil more]
  split <;> rfl

theorem lines_last {line : List Char} (whole : '\n' ∉ line) (filled : line ≠ []) :
    lines line = [line] := by
  obtain ⟨c, cs, rfl⟩ := List.exists_cons_of_ne_nil filled
  rw [lines, pieces_of_not_mem whole]
  rfl

theorem dropReturn_of_ne {line : List Char} (bare : line.getLast? ≠ some '\r') :
    dropReturn line = line := if_neg bare

theorem dropReturn_concat (line : List Char) : dropReturn (line ++ ['\r']) = line := by
  rw [dropReturn, if_pos List.getLast?_concat, List.dropLast_concat]

theorem Breaks.lines_eq {written : List (List Char)} {text : List Char} (h : Breaks written text) :
    lines text = written := by
  induction h with
  | nil => rfl
  | last whole filled => exact lines_last whole filled
  | feed whole bare _ ih => rw [lines_append whole, dropReturn_of_ne bare, ih]
  | @returned line written text whole _ ih =>
    have returned : '\n' ∉ line ++ ['\r'] := by simp [whole]
    have split : line ++ '\r' :: '\n' :: text = (line ++ ['\r']) ++ '\n' :: text := by simp
    rw [split, lines_append returned, dropReturn_concat, ih]

end MapLayer.Text
