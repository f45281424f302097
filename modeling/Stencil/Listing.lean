import Stencil.Split
import Stencil.Template.Position

/-!
# Listings

A listing is code in the making.  It keeps the lines that are finished, the
latest first, the line that is being written, and the number of that line, so
that a statement can be mapped to its template line at the moment it is
written.  A text is written one line after another: each of its newlines
finishes the current line.  The finished code is the concatenation of all
lines.
-/

namespace Stencil

/-- A line of generated code and the template line it stems from. -/
structure Mapping where
  generatedLine : Nat
  sourceLine : Nat
  deriving DecidableEq, Repr

structure Code where
  text : Text
  mappings : List Mapping
  deriving DecidableEq, Repr

structure Listing where
  /-- The finished lines with their newlines, the latest first. -/
  finished : List Text
  /-- The line that is being written, as far as it has come. -/
  current : Text
  /-- The line that the next character will stand on. -/
  line : Nat
  /-- The mappings, the latest first. -/
  mappings : List Mapping

namespace Listing

def empty : Listing :=
  ⟨[], [], 1, []⟩

/-- The listing with the current line carried on. -/
def carryOn (listing : Listing) (text : Text) : Listing :=
  { listing with current := listing.current ++ text }

def newline (listing : Listing) : Listing :=
  { listing with
    finished := (listing.current ++ ['\n']) :: listing.finished
    current := []
    line := listing.line + 1 }

/-- The listing with lines begun one after another. -/
def beginLines (listing : Listing) (lines : List Text) : Listing :=
  lines.foldl (fun written line => written.newline.carryOn line) listing

def push (listing : Listing) (text : Text) : Listing :=
  match splitWhere (· == '\n') text with
  | [] => listing
  | line :: lines => (listing.carryOn line).beginLines lines

/-- The listing with a piece of code appended and mapped to a position, if the
position is known. -/
def pushMapped (listing : Listing) (text : Text)
    (position : Position) : Listing :=
  let mapped :=
    if position.IsKnown then
      { listing with
        mappings := ⟨listing.line, position.line⟩ :: listing.mappings }
    else listing
  mapped.push text

def pushLine (listing : Listing) (text : Text) : Listing :=
  (listing.push text).newline

def finish (listing : Listing) : Code where
  text :=
    if listing.current = [] then listing.finished.reverse.flatten
    else (listing.current :: listing.finished).reverse.flatten
  mappings := listing.mappings.reverse

/-! ## The finished code after each operation -/

@[simp] theorem finish_empty : empty.finish = ⟨[], []⟩ := rfl

theorem text_finish (listing : Listing) :
    listing.finish.text =
      listing.finished.reverse.flatten ++ listing.current := by
  by_cases hcurrent : listing.current = []
  · simp [finish, hcurrent]
  · simp [finish, hcurrent]

@[simp] theorem text_finish_newline (listing : Listing) :
    listing.newline.finish.text = listing.finish.text ++ ['\n'] := by
  simp [text_finish, newline]

@[simp] theorem mappings_finish_newline (listing : Listing) :
    listing.newline.finish.mappings = listing.finish.mappings := rfl

@[simp] theorem line_newline (listing : Listing) :
    listing.newline.line = listing.line + 1 := rfl

theorem text_finish_carryOn (listing : Listing) (text : Text) :
    (listing.carryOn text).finish.text = listing.finish.text ++ text := by
  simp [text_finish, carryOn]

theorem text_finish_beginLines (listing : Listing) (lines : List Text) :
    (listing.beginLines lines).finish.text =
      listing.finish.text ++ lines.flatMap ('\n' :: ·) := by
  induction lines generalizing listing with
  | nil => simp [beginLines]
  | cons line lines ih =>
      have hlater := ih (listing.newline.carryOn line)
      rw [text_finish_carryOn, text_finish_newline] at hlater
      simpa [beginLines] using hlater

theorem mappings_finish_beginLines (listing : Listing) (lines : List Text) :
    (listing.beginLines lines).finish.mappings = listing.finish.mappings := by
  induction lines generalizing listing with
  | nil => rfl
  | cons line lines ih => exact ih (listing.newline.carryOn line)

theorem line_beginLines (listing : Listing) (lines : List Text) :
    (listing.beginLines lines).line = listing.line + lines.length := by
  induction lines generalizing listing with
  | nil => rfl
  | cons line lines ih =>
      have hlater : (listing.beginLines (line :: lines)).line =
          listing.line + 1 + lines.length :=
        ih (listing.newline.carryOn line)
      rw [hlater, List.length_cons]
      omega

theorem exists_push_eq (listing : Listing) (text : Text) :
    ∃ line lines, text = line ++ lines.flatMap ('\n' :: ·) ∧
      text.newlines = lines.length ∧
      listing.push text = (listing.carryOn line).beginLines lines := by
  have hlength := length_splitWhere (· == '\n') text
  unfold push
  cases hlines : splitWhere (· == '\n') text with
  | nil => simp [hlines] at hlength
  | cons line lines =>
      rw [hlines, List.length_cons, Nat.add_right_cancel_iff] at hlength
      exact ⟨line, lines, eq_append_of_splitWhere hlines, hlength.symm, rfl⟩

@[simp] theorem text_finish_push (listing : Listing) (text : Text) :
    (listing.push text).finish.text = listing.finish.text ++ text := by
  obtain ⟨line, lines, htext, -, hpush⟩ := listing.exists_push_eq text
  rw [hpush, text_finish_beginLines, text_finish_carryOn,
    List.append_assoc, ← htext]

@[simp] theorem mappings_finish_push (listing : Listing) (text : Text) :
    (listing.push text).finish.mappings = listing.finish.mappings := by
  obtain ⟨line, lines, -, -, hpush⟩ := listing.exists_push_eq text
  rw [hpush, mappings_finish_beginLines]
  rfl

@[simp] theorem line_push (listing : Listing) (text : Text) :
    (listing.push text).line = listing.line + text.newlines := by
  obtain ⟨line, lines, -, hnewlines, hpush⟩ := listing.exists_push_eq text
  rw [hpush, line_beginLines, hnewlines]
  rfl

@[simp] theorem text_finish_pushMapped
    (listing : Listing) (text : Text) (position : Position) :
    (listing.pushMapped text position).finish.text =
      listing.finish.text ++ text := by
  unfold pushMapped
  split
  · rw [text_finish_push]
    rfl
  · rw [text_finish_push]

theorem mappings_finish_pushMapped
    (listing : Listing) (text : Text) (position : Position) :
    (listing.pushMapped text position).finish.mappings =
      listing.finish.mappings ++
        if position.IsKnown then [⟨listing.line, position.line⟩] else [] := by
  by_cases hknown : position.IsKnown
  · rw [pushMapped, if_pos hknown, if_pos hknown, mappings_finish_push]
    simp [finish]
  · rw [pushMapped, if_neg hknown, if_neg hknown, mappings_finish_push,
      List.append_nil]

@[simp] theorem line_pushMapped
    (listing : Listing) (text : Text) (position : Position) :
    (listing.pushMapped text position).line =
      listing.line + text.newlines := by
  unfold pushMapped
  split
  · rw [line_push]
  · rw [line_push]

end Listing
end Stencil
