import Stencil.Template.Block
import Stencil.Template.SyntaxError
import Stencil.Text.Slice

/-!
# Reading blocks

A cursor is an offset into the bytes of a source, and it knows the line it is
on.  Delimiters are searched for in the bytes, and the offset is moved over
them by their lengths; the contents between them are slices, and the newlines
of a slice are what moves the line.  A slice can be missing, so every
operation here is partial.

Reading takes a run of text or a tag off the source and turns it into a block.
A tag that is never closed takes the rest of the source with it; a malformed
parameter tag takes only itself, so reading can go on behind it.

There are two ways to move.  `read` always goes on from where the cursor
stands, while `next` stops for good at the first error.  Both advance the
cursor whenever they return something, and that is why the sequence of results
is finite.
-/

namespace Stencil

inductive Tag where
  | code
  | header
  | parameter
  | print
  | rawPrint
  | comment
  deriving DecidableEq, Repr

namespace Tag

/-- The kind of a tag and the number of bytes that tell it, read from the
first byte behind the mark and the byte after that. -/
def ofBytes (byte : UInt8) (next? : Option UInt8) : Tag × Nat :=
  if byte = '%'.toUInt8 then (.header, 1)
  else if byte = '!'.toUInt8 then (.parameter, 1)
  else if byte = '='.toUInt8 then
    if next? = some '='.toUInt8 then (.rawPrint, 2) else (.print, 1)
  else if byte = '#'.toUInt8 then (.comment, 1)
  else (.code, 0)

/-- The bytes that end a tag. -/
def closingBytes : Tag → Bytes
  | .header => ['%', '%', '>'].map Char.toUInt8
  | _ => ['%', '>'].map Char.toUInt8

end Tag

/-- The bytes with which every tag starts. -/
def openingBytes : Bytes :=
  ['<', '%'].map Char.toUInt8

def isMarkerLetter (byte : UInt8) : Bool :=
  ('a'.toUInt8 ≤ byte ∧ byte ≤ 'z'.toUInt8) ∨
    ('A'.toUInt8 ≤ byte ∧ byte ≤ 'Z'.toUInt8)

/-- The white space that may stand before a marker letter. -/
def isMarkerSpace (byte : UInt8) : Bool :=
  byte ∈ [' ', '\t', '\n', '\x0c', '\r'].map Char.toUInt8

/-- The expression of a print tag and the kind its marker names.  A marker is
an ASCII letter after white space, behind something other than white space. -/
def splitMarker (content : Text) : Option (Text × PrintKind) :=
  let bytes := Utf8.encode content
  match bytes.reverse with
  | letter :: space :: _ =>
      if isMarkerLetter letter ∧ isMarkerSpace space then
        (Utf8.slice? bytes 0 (bytes.length - 1)).map fun expression =>
          if Text.trim expression = [] then (content, .default)
          else (expression, PrintKind.ofMarker (Char.ofNat letter.toNat))
      else
        some (content, .default)
  | _ => some (content, .default)

/-- The block of a tag that stands at a position.  Markers of print tags count
only if `typesafe` is set. -/
def Tag.toBlock (typesafe : Bool) (position : Position) (content : Text) :
    Tag → Option (Except SyntaxError Block)
  | .code => some (.ok ⟨.code content, position⟩)
  | .header => some (.ok ⟨.header content, position⟩)
  | .parameter =>
      match Text.words content with
      | [name, type] => some (.ok ⟨.parameter name type, position⟩)
      | _ => some (.error (.malformedParameter content position))
  | .print =>
      if typesafe then
        (splitMarker content).map fun (expression, kind) =>
          .ok ⟨.print expression kind, position⟩
      else
        some (.ok ⟨.print content .default, position⟩)
  | .rawPrint => some (.ok ⟨.rawPrint content, position⟩)
  | .comment => some (.ok ⟨.comment content, position⟩)

/-- A place in the source of a template. -/
structure Cursor where
  path : Text
  /-- Whether print tags may carry a marker. -/
  typesafe : Bool
  /-- The bytes of the source. -/
  bytes : Bytes
  /-- The offset of the first byte that has not been read. -/
  offset : Nat
  /-- The line on which this byte stands. -/
  line : Nat
  /-- Whether an error has ended the sequence of results. -/
  stopped : Bool
  deriving DecidableEq, Repr

namespace Cursor

/-- The cursor before the first byte of a source. -/
def start (path : Text) (typesafe : Bool) (source : Text) : Cursor where
  path := path
  typesafe := typesafe
  bytes := Utf8.encode source
  offset := 0
  line := 1
  stopped := false

def position (cursor : Cursor) : Position :=
  ⟨cursor.path, cursor.line⟩

/-- The cursor some bytes further on.  The line stays, so this is for bytes
among which there is no newline. -/
def skip (cursor : Cursor) (count : Nat) : Cursor :=
  { cursor with offset := cursor.offset + count }

/-- The byte at a distance from the cursor. -/
def peek? (cursor : Cursor) (distance : Nat) : Option UInt8 :=
  cursor.bytes[cursor.offset + distance]?

/-- The bytes that have not been read. -/
def rest? (cursor : Cursor) : Option Bytes :=
  cursor.bytes.slice? cursor.offset cursor.bytes.length

/-- The text up to an offset, and the cursor there. -/
def takeTo (cursor : Cursor) (stop : Nat) : Option (Text × Cursor) := do
  let passed ← cursor.bytes.slice? cursor.offset stop
  let content ← Utf8.slice? cursor.bytes cursor.offset stop
  return (content, { cursor with
    offset := stop
    line := cursor.line + passed.count '\n'.toUInt8 })

/-- The text up to a delimiter, and the cursor behind the delimiter.  If there
is none, there is no text, and the cursor is at the end of the source. -/
def takeUntil (cursor : Cursor) (delimiter : Bytes) :
    Option (Option Text × Cursor) := do
  let rest ← cursor.rest?
  match Bytes.find? delimiter rest with
  | some distance =>
      let (content, after) ← cursor.takeTo (cursor.offset + distance)
      return (some content, after.skip delimiter.length)
  | none =>
      let (_, after) ← cursor.takeTo cursor.bytes.length
      return (none, after)

/-- The run of text at the cursor. -/
def readText (cursor : Cursor) :
    Option (Except SyntaxError Block × Cursor) := do
  let rest ← cursor.rest?
  let distance? := Bytes.find? openingBytes rest
  let (content, after) ← cursor.takeTo
    ((distance?.map (cursor.offset + ·)).getD cursor.bytes.length)
  return (.ok ⟨.text content, cursor.position⟩, after)

/-- The tag of a kind whose content starts at the cursor and whose mark stands
at a position. -/
def closeTag (cursor : Cursor) (position : Position) (kind : Tag) :
    Option (Except SyntaxError Block × Cursor) := do
  let (content?, after) ← cursor.takeUntil kind.closingBytes
  match content? with
  | none => return (.error (.truncatedTag position), after)
  | some content =>
      let result ← kind.toBlock cursor.typesafe position content
      return (result, after)

/-- The tag at the cursor. -/
def readTag (cursor : Cursor) : Option (Except SyntaxError Block × Cursor) :=
  let opened := cursor.skip openingBytes.length
  match opened.peek? 0 with
  | none => some (.error (.truncatedTag cursor.position), opened)
  | some byte =>
      let sigil := Tag.ofBytes byte (opened.peek? 1)
      (opened.skip sigil.2).closeTag cursor.position sigil.1

/-- The next block or error, if the source is not exhausted. -/
def read (cursor : Cursor) :
    Option (Option (Except SyntaxError Block) × Cursor) :=
  if cursor.bytes.length ≤ cursor.offset then
    some (none, cursor)
  else
    cursor.rest?.bind fun rest =>
      (if openingBytes.isPrefixOf rest then cursor.readTag
        else cursor.readText).map fun (result, after) => (some result, after)

/-- The next block or error, unless there has been an error before. -/
def next (cursor : Cursor) :
    Option (Option (Except SyntaxError Block) × Cursor) :=
  if cursor.stopped then
    some (none, cursor)
  else
    cursor.read.map fun
      | (some (.error error), after) =>
          (some (.error error), { after with stopped := true })
      | (result?, after) => (result?, after)

/-! ## Moving on -/

theorem takeTo_moves {cursor after : Cursor} {stop : Nat} {content : Text}
    (htake : cursor.takeTo stop = some (content, after)) :
    cursor.offset ≤ stop ∧ after.offset = stop ∧
      after.bytes = cursor.bytes := by
  obtain ⟨passed, hslice, htext⟩ := Option.bind_eq_some_iff.mp htake
  obtain ⟨text, -, hafter⟩ := Option.bind_eq_some_iff.mp htext
  cases hafter
  unfold Bytes.slice? at hslice
  split at hslice
  · rename_i hbounds
    exact ⟨hbounds.1, rfl, rfl⟩
  · cases hslice

theorem takeUntil_moves {cursor after : Cursor} {delimiter : Bytes}
    {content? : Option Text}
    (htake : cursor.takeUntil delimiter = some (content?, after)) :
    cursor.offset ≤ after.offset ∧ after.bytes = cursor.bytes := by
  obtain ⟨rest, -, hfind⟩ := Option.bind_eq_some_iff.mp htake
  split at hfind
  · obtain ⟨⟨content, there⟩, hto, hafter⟩ := Option.bind_eq_some_iff.mp hfind
    cases hafter
    have hmoves := takeTo_moves hto
    exact ⟨by simp only [skip]; omega, hmoves.2.2⟩
  · obtain ⟨⟨content, there⟩, hto, hafter⟩ := Option.bind_eq_some_iff.mp hfind
    cases hafter
    have hmoves := takeTo_moves hto
    exact ⟨by omega, hmoves.2.2⟩

theorem readText_moves {cursor after : Cursor}
    {result : Except SyntaxError Block} {rest : Bytes}
    (hrest : cursor.rest? = some rest)
    (hmark : ¬ openingBytes.isPrefixOf rest = true)
    (hoffset : cursor.offset < cursor.bytes.length)
    (hread : cursor.readText = some (result, after)) :
    cursor.offset < after.offset ∧ after.bytes = cursor.bytes := by
  obtain ⟨other, hother, hstop⟩ := Option.bind_eq_some_iff.mp hread
  rw [hrest] at hother
  cases hother
  obtain ⟨⟨content, there⟩, hto, hafter⟩ := Option.bind_eq_some_iff.mp hstop
  cases hafter
  obtain ⟨-, hstop, hbytes⟩ := takeTo_moves hto
  refine ⟨?_, hbytes⟩
  rw [hstop]
  cases hfind : Bytes.find? openingBytes rest with
  | none => exact hoffset
  | some distance =>
      -- The mark is not at the head of the rest, so its distance is positive.
      cases rest with
      | nil => cases hfind
      | cons byte rest =>
          rw [Bytes.find?, if_neg hmark] at hfind
          obtain ⟨before, -, rfl⟩ := Option.map_eq_some_iff.mp hfind
          exact Nat.lt_add_of_pos_right (Nat.succ_pos before)

theorem closeTag_moves {cursor after : Cursor} {position : Position}
    {kind : Tag} {result : Except SyntaxError Block}
    (hclose : cursor.closeTag position kind = some (result, after)) :
    cursor.offset ≤ after.offset ∧ after.bytes = cursor.bytes := by
  obtain ⟨⟨content?, there⟩, huntil, hafter⟩ :=
    Option.bind_eq_some_iff.mp hclose
  have hthere : there = after := by
    cases content? with
    | none =>
        cases hafter
        rfl
    | some content =>
        obtain ⟨block, -, hresult⟩ := Option.bind_eq_some_iff.mp hafter
        cases hresult
        rfl
  rw [← hthere]
  exact takeUntil_moves huntil

theorem readTag_moves {cursor after : Cursor}
    {result : Except SyntaxError Block}
    (hread : cursor.readTag = some (result, after)) :
    cursor.offset < after.offset ∧ after.bytes = cursor.bytes := by
  have hopened : cursor.offset < (cursor.skip openingBytes.length).offset :=
    Nat.lt_add_of_pos_right (by decide)
  simp only [readTag] at hread
  split at hread
  · cases hread
    exact ⟨hopened, rfl⟩
  · obtain ⟨hmoves, hbytes⟩ := closeTag_moves hread
    exact ⟨Nat.lt_of_lt_of_le (Nat.lt_add_right _ hopened) hmoves, hbytes⟩

/-- A cursor that returns something advances within the same bytes. -/
theorem read_moves {cursor after : Cursor} {result : Except SyntaxError Block}
    (hread : cursor.read = some (some result, after)) :
    cursor.offset < cursor.bytes.length ∧ cursor.offset < after.offset ∧
      after.bytes = cursor.bytes := by
  unfold read at hread
  split at hread
  · cases hread
  · rename_i hexhausted
    have hoffset := Nat.lt_of_not_le hexhausted
    obtain ⟨rest, hrest, hbranch⟩ := Option.bind_eq_some_iff.mp hread
    obtain ⟨⟨block, there⟩, hmove, hafter⟩ :=
      Option.map_eq_some_iff.mp hbranch
    cases hafter
    refine ⟨hoffset, ?_⟩
    split at hmove
    · exact readTag_moves hmove
    · rename_i hmark
      exact readText_moves hrest hmark hoffset hmove

/-- What `next` returns has been read, and the cursor stops at an error. -/
theorem read_of_next {cursor after : Cursor}
    {result : Except SyntaxError Block}
    (hnext : cursor.next = some (some result, after)) :
    ∃ there, cursor.read = some (some result, there) ∧
      after.offset = there.offset ∧ after.bytes = there.bytes ∧
      ∀ error, result = .error error → after.stopped = true := by
  unfold next at hnext
  split at hnext
  · cases hnext
  · obtain ⟨⟨result?, there⟩, hread, hafter⟩ :=
      Option.map_eq_some_iff.mp hnext
    refine ⟨there, ?_⟩
    cases result? with
    | none => cases hafter
    | some found =>
        cases found with
        | error error =>
            cases hafter
            exact ⟨hread, rfl, rfl, fun _ _ => rfl⟩
        | ok block =>
            cases hafter
            exact ⟨hread, rfl, rfl, nofun⟩

theorem next_moves {cursor after : Cursor} {result : Except SyntaxError Block}
    (hnext : cursor.next = some (some result, after)) :
    cursor.offset < cursor.bytes.length ∧ cursor.offset < after.offset ∧
      after.bytes = cursor.bytes := by
  obtain ⟨there, hread, hoffset, hbytes, -⟩ := read_of_next hnext
  rw [hoffset, hbytes]
  exact read_moves hread

/-- Everything that `next` returns until it returns nothing. -/
def results (cursor : Cursor) : Option (List (Except SyntaxError Block)) :=
  match _hnext : cursor.next with
  | none => none
  | some (none, _) => some []
  | some (some result, after) => after.results.map (result :: ·)
termination_by cursor.bytes.length - cursor.offset
decreasing_by
  obtain ⟨hoffset, hadvance, hbytes⟩ := next_moves _hnext
  rw [hbytes]
  omega

/-- The blocks up to the end of the source, or the first error.  There are
always results, so the empty list never stands in for missing ones. -/
def blocks (cursor : Cursor) : Except SyntaxError (List Block) :=
  (cursor.results.getD []).mapM id

end Cursor
end Stencil
