import Mathlib.Data.List.Infix
import Mathlib.Data.List.ReduceOption
import Stencil.Listing

/-!
# What a run of operations leaves in a listing

A listing cuts what is written into lines, and it counts these lines apart
from keeping them.  Neither shows in the finished code.  The text is the
concatenation of the texts of all operations, whatever newlines they contain,
and an operation is mapped to the line that the texts before it lead to.

Each operation adds its text to the finished code, its newlines to the counter
and at most one mapping, on the line that the counter shows.  The induction
over a run starts from any listing, so the counter stands for everything
written before.
-/

namespace Stencil
namespace Listing

inductive Operation where
  | push (text : Text)
  | pushMapped (text : Text) (position : Position)
  | newline
  | pushLine (text : Text)
  deriving DecidableEq, Repr

namespace Operation

def apply (listing : Listing) : Operation → Listing
  | push text => listing.push text
  | pushMapped text position => listing.pushMapped text position
  | newline => listing.newline
  | pushLine text => listing.pushLine text

def text : Operation → Text
  | push text => text
  | pushMapped text _ => text
  | newline => ['\n']
  | pushLine text => text ++ ['\n']

/-- The mapping that the operation makes if it starts on the given line. -/
def mapping? (line : Nat) : Operation → Option Mapping
  | pushMapped _ position =>
      if position.IsKnown then some ⟨line, position.line⟩ else none
  | push _ | newline | pushLine _ => none

variable (listing : Listing) (operation : Operation)

theorem text_finish_apply :
    (operation.apply listing).finish.text =
      listing.finish.text ++ operation.text := by
  cases operation with
  | push text => exact listing.text_finish_push text
  | pushMapped text position =>
      exact listing.text_finish_pushMapped text position
  | newline => exact listing.text_finish_newline
  | pushLine text => simp [apply, Operation.text, Listing.pushLine]

theorem line_apply :
    (operation.apply listing).line =
      listing.line + operation.text.newlines := by
  cases operation with
  | push text => exact listing.line_push text
  | pushMapped text position => exact listing.line_pushMapped text position
  | newline => exact listing.line_newline
  | pushLine text =>
      simp [apply, Operation.text, Listing.pushLine, Text.newlines,
        Nat.add_assoc]

theorem mappings_finish_apply :
    (operation.apply listing).finish.mappings =
      listing.finish.mappings ++
        (operation.mapping? listing.line).toList := by
  cases operation with
  | push text => simp [apply, mapping?]
  | pushMapped text position =>
      rw [apply, mappings_finish_pushMapped, mapping?]
      split <;> rfl
  | newline => simp [apply, mapping?]
  | pushLine text => simp [apply, mapping?, Listing.pushLine]

end Operation

/-- The listing after operations on an empty one. -/
def run (operations : List Operation) : Listing :=
  operations.foldl Operation.apply empty

def written (operations : List Operation) : Text :=
  operations.flatMap Operation.text

/-- The mappings of operations that start on the given line.  Each operation
is mapped to the line that the operations before it lead to. -/
def mappingsFrom (line : Nat) (operations : List Operation) : List Mapping :=
  (List.zipWith (fun earlier operation =>
    Operation.mapping? (line + (written earlier).newlines) operation)
    operations.inits operations).reduceOption

theorem mappingsFrom_cons (line : Nat) (operation : Operation)
    (operations : List Operation) :
    mappingsFrom line (operation :: operations) =
      (operation.mapping? line).toList ++
        mappingsFrom (line + operation.text.newlines) operations := by
  -- Seen from the second operation on, the newlines of the first belong to
  -- the start.
  have hlater : (fun earlier : List Operation =>
      Operation.mapping? (line + (written (operation :: earlier)).newlines)) =
      fun earlier =>
        Operation.mapping?
          (line + operation.text.newlines + (written earlier).newlines) := by
    funext earlier
    rw [written, List.flatMap_cons, Text.newlines_append, ← Nat.add_assoc]
    rfl
  have hfirst : line + (written []).newlines = line := rfl
  rw [mappingsFrom, List.inits_cons, List.zipWith_cons_cons,
    List.zipWith_map_left, hlater, hfirst]
  cases operation.mapping? line with
  | none => exact List.reduceOption_cons_of_none _
  | some mapping => exact List.reduceOption_cons_of_some mapping _

theorem text_finish_foldl_apply (listing : Listing)
    (operations : List Operation) :
    (operations.foldl Operation.apply listing).finish.text =
      listing.finish.text ++ written operations := by
  induction operations generalizing listing with
  | nil => simp [written]
  | cons operation operations ih =>
      rw [List.foldl_cons, ih, Operation.text_finish_apply, List.append_assoc]
      rfl

theorem mappings_finish_foldl_apply (listing : Listing)
    (operations : List Operation) :
    (operations.foldl Operation.apply listing).finish.mappings =
      listing.finish.mappings ++ mappingsFrom listing.line operations := by
  induction operations generalizing listing with
  | nil => exact (List.append_nil _).symm
  | cons operation operations ih =>
      rw [List.foldl_cons, ih, Operation.mappings_finish_apply,
        Operation.line_apply, mappingsFrom_cons, List.append_assoc]

/-- Writing to a listing is concatenation.  The finished text consists of the
texts of the operations.  The mappings are those of the operations that have
one, in order, each with the line that the texts of the earlier operations
lead to. -/
theorem run_concatenates_texts (operations : List Operation) :
    (run operations).finish.text = operations.flatMap Operation.text ∧
    (run operations).finish.mappings =
      (List.zipWith (fun earlier operation =>
        Operation.mapping? (1 + (written earlier).newlines) operation)
        operations.inits operations).reduceOption :=
  ⟨text_finish_foldl_apply empty operations,
    mappings_finish_foldl_apply empty operations⟩

example :
    (run [.push ['a'], .pushMapped ['\n', '\n'] ⟨['t'], 7⟩, .newline,
      .pushMapped ['b'] ⟨['t'], 9⟩, .pushMapped ['c', '\n'] ⟨[], 3⟩]).finish =
      ⟨['a', '\n', '\n', '\n', 'b', 'c', '\n'], [⟨1, 7⟩, ⟨4, 9⟩]⟩ := by
  decide

end Listing
end Stencil
