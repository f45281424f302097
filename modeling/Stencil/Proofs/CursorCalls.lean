import Stencil.Proofs.CursorSteps

/-!
# Where calls leave a cursor

The two ways to move a cursor can be mixed in any order, and calls can go on
after an error.  Whatever the order, every slice that a call takes is there,
and the cursor stands behind a first part of the source.  Each call either
finds nothing and leaves the cursor alone, or passes over a stretch that is
not empty and returns what stands there.

In the encoded source the cursor stands behind the bytes of the part that it
passed, so it never stands inside a character, and its line counts the newline
bytes before it.
-/

namespace Stencil

/-- A result of reading what stands at the head of a text, and what follows
it.  The text starts with a run of text, with a tag that means something, with
a parameter tag that does not hold two words, or with a tag that is never
closed. -/
inductive Reads (typesafe : Bool) (position : Position) :
    Text → Except SyntaxError Block → Text → Prop
  | text {content rest : Text} (hne : content ≠ [])
      (hmark : ¬ ['<', '%'] <:+: content)
      (hends : rest = [] ∨ ['<', '%'] <+: rest) :
      Reads typesafe position (content ++ rest)
        (.ok ⟨.text content, position⟩) rest
  | tag {kind : Tag} {content : Text} {item : Item} (rest : Text)
      (hcanonical : Segment.Canonical (.tag kind content))
      (hmeans : Segment.Means typesafe (.tag kind content) item) :
      Reads typesafe position (Segment.spelling (.tag kind content) ++ rest)
        (.ok ⟨item, position⟩) rest
  | undeclared {content : Text} {error : SyntaxError} (rest : Text)
      (hcloser : ¬ ['%', '>'] <:+: content)
      (hwords : content.words.length ≠ 2)
      (hfault : error.fault = .malformedParameter)
      (hposition : error.position = position) :
      Reads typesafe position
        (['<', '%', '!'] ++ content ++ ['%', '>'] ++ rest) (.error error) rest
  | unclosed {source : Text} {error : SyntaxError}
      (hunclosed : Segment.Unclosed source)
      (hfault : error.fault = .truncated)
      (hposition : error.position = position) :
      Reads typesafe position source (.error error) []

def resultPosition : Except SyntaxError Block → Position
  | .ok block => block.position
  | .error error => error.position

theorem Reads.resultPosition_eq {typesafe : Bool} {position : Position}
    {source rest : Text} {result : Except SyntaxError Block}
    (hreads : Reads typesafe position source result rest) :
    resultPosition result = position := by
  cases hreads with
  | text hne hmark hends => rfl
  | tag rest hcanonical hmeans => rfl
  | undeclared rest hcloser hwords hfault hposition => exact hposition
  | unclosed hunclosed hfault hposition => exact hposition

theorem Segment.reads_of_means {typesafe : Bool} {source rest : Text}
    {segment : Segment} {item : Item}
    (hfirst : Segment.first source = .segment segment rest)
    (hmeans : segment.Means typesafe item) (position : Position) :
    Reads typesafe position source (.ok ⟨item, position⟩) rest := by
  obtain ⟨rfl, hcanonical, hends⟩ := Segment.first_eq_segment_iff.mp hfirst
  cases segment with
  | text content =>
      cases hmeans
      exact .text hcanonical.1 hcanonical.2 hends
  | tag kind content => exact .tag rest hcanonical hmeans

namespace Cursor

/-! ## One call -/

inductive Call where
  | next
  | read
  deriving DecidableEq, Repr

def call (cursor : Cursor) :
    Call → Option (Option (Except SyntaxError Block) × Cursor)
  | .next => cursor.next
  | .read => cursor.read

/-- Reading finds nothing and stays, or it passes over a stretch of the source
and returns what stands there.  Earlier errors make no difference. -/
theorem read_cases (path : Text) (typesafe : Bool) (passed rest : Text) :
    (rest = [] ∧ ∀ stopped, (behind path typesafe stopped passed rest).read =
      some (none, behind path typesafe stopped passed rest)) ∨
    ∃ result taken left, rest = taken ++ left ∧ taken ≠ [] ∧
      Reads typesafe ⟨path, 1 + passed.newlines⟩ rest result left ∧
      ∀ stopped, (behind path typesafe stopped passed rest).read =
        some (some result,
          behind path typesafe stopped (passed ++ taken) left) := by
  rcases Segment.head_cases typesafe rest with
    rfl | ⟨segment, left, item, hfirst, hmeans⟩ | ⟨fault, hbad⟩
  · exact .inl ⟨rfl, fun _ => read_behind_nil⟩
  · exact .inr ⟨_, segment.spelling, left,
      (Segment.first_spelling hfirst).symm,
      Segment.first_spelling_ne_nil hfirst,
      Segment.reads_of_means hfirst hmeans _,
      fun _ => read_of_means hfirst hmeans⟩
  · right
    cases hbad with
    | unclosed hunclosed =>
        have hne := Segment.ne_nil_of_truncated
          (Segment.first_eq_truncated_iff.mpr hunclosed)
        exact ⟨.error (.truncatedTag ⟨path, 1 + passed.newlines⟩), rest, [],
          (List.append_nil _).symm, hne, .unclosed hunclosed rfl rfl,
          fun _ => read_of_unclosed hunclosed⟩
    | @undeclared content left hcloser hwords =>
        exact ⟨.error
          (.malformedParameter content ⟨path, 1 + passed.newlines⟩),
          _, left, rfl, by simp, .undeclared left hcloser hwords rfl rfl,
          fun _ => read_of_undeclared left hcloser hwords⟩

theorem call_cases (path : Text) (typesafe stopped : Bool)
    (passed rest : Text) (call : Call) :
    (behind path typesafe stopped passed rest).call call =
      some (none, behind path typesafe stopped passed rest) ∨
    ∃ result taken left later, rest = taken ++ left ∧ taken ≠ [] ∧
      (stopped = true → later = true) ∧
      Reads typesafe ⟨path, 1 + passed.newlines⟩ rest result left ∧
      (behind path typesafe stopped passed rest).call call =
        some (some result,
          behind path typesafe later (passed ++ taken) left) := by
  rcases read_cases path typesafe passed rest with
    ⟨-, hread⟩ | ⟨result, taken, left, hrest, hne, hreads, hread⟩
  · left
    cases call with
    | read => exact hread stopped
    | next =>
        rw [Cursor.call, next, hread]
        cases stopped <;> rfl
  · cases call with
    | read =>
        exact .inr ⟨result, taken, left, stopped, hrest, hne, id, hreads,
          hread stopped⟩
    | next =>
        cases stopped with
        | true => exact .inl rfl
        | false =>
            right
            rw [Cursor.call, next, hread]
            cases result with
            | ok block =>
                exact ⟨_, taken, left, false, hrest, hne, nofun, hreads, rfl⟩
            | error error =>
                exact ⟨_, taken, left, true, hrest, hne, nofun, hreads, rfl⟩

theorem stopped_of_next_error {cursor after : Cursor} {error : SyntaxError}
    (hnext : cursor.next = some (some (.error error), after)) :
    after.stopped = true := by
  obtain ⟨there, -, -, -, hstopped⟩ := read_of_next hnext
  exact hstopped error rfl

theorem next_of_stopped {cursor : Cursor} (hstopped : cursor.stopped = true) :
    cursor.next = some (none, cursor) := by
  rw [next, if_pos hstopped]

/-! ## Sequences of calls -/

/-- What calls made one behind the other return, and where they lead. -/
def run (cursor : Cursor) :
    List Call → Option (List (Option (Except SyntaxError Block)) × Cursor)
  | [] => some ([], cursor)
  | call :: calls =>
      (cursor.call call).bind fun (result?, after) =>
        (after.run calls).map fun (results, last) =>
          (result? :: results, last)

/-- Calls lead from a cursor behind a part of the source to another one, and
there are no more results than characters between the two. -/
theorem run_behind (path : Text) (typesafe stopped : Bool)
    (passed rest : Text) (calls : List Call) :
    ∃ results taken left later, rest = taken ++ left ∧
      (stopped = true → later = true) ∧
      results.countP Option.isSome ≤ taken.length ∧
      (behind path typesafe stopped passed rest).run calls =
        some (results,
          behind path typesafe later (passed ++ taken) left) := by
  induction calls generalizing stopped passed rest with
  | nil => exact ⟨[], [], rest, stopped, rfl, id, by simp, by simp [run]⟩
  | cons call calls ih =>
      rcases call_cases path typesafe stopped passed rest call with
        hcall | ⟨result, first, middle, between, rfl, hne, hkept, -, hcall⟩
      · obtain ⟨results, taken, left, later, hrest, hlater, hcount, hrun⟩ :=
          ih stopped passed rest
        refine ⟨none :: results, taken, left, later, hrest, hlater,
          by simpa using hcount, ?_⟩
        simp only [run, hcall, Option.bind_some, hrun, Option.map_some]
      · obtain ⟨results, taken, left, later, rfl, hlater, hcount, hrun⟩ :=
          ih between (passed ++ first) middle
        refine ⟨some result :: results, first ++ taken, left, later,
          (List.append_assoc ..).symm, hlater ∘ hkept, ?_, ?_⟩
        · have hpos := List.length_pos_iff.mpr hne
          simp only [List.countP_cons, Option.isSome_some, if_true,
            List.length_append]
          omega
        · simp only [run, hcall, Option.bind_some, hrun, Option.map_some,
            List.append_assoc]

theorem next_after_error {path passed rest : Text} {typesafe stopped : Bool}
    {error : SyntaxError} {after : Cursor}
    (hnext : (behind path typesafe stopped passed rest).next =
      some (some (.error error), after)) (later : List Call) :
    ∃ others last, after.run later = some (others, last) ∧
      last.next = some (none, last) := by
  have hstopped := stopped_of_next_error hnext
  rcases call_cases path typesafe stopped passed rest .next with
    hcall | ⟨result, taken, left, between, -, -, -, -, hcall⟩
  · cases hnext.symm.trans hcall
  · cases hnext.symm.trans hcall
    obtain ⟨others, _, _, last, -, hlast, -, hrun⟩ :=
      run_behind path typesafe between (passed ++ taken) left later
    exact ⟨others, _, hrun, next_of_stopped (hlast hstopped)⟩

/-! ## Places in the encoded source -/

/-- The cursor stands at a boundary within the bytes of the source, and its
line counts the newline bytes before it. -/
structure At (source : Text) (cursor : Cursor) : Prop where
  bytes : cursor.bytes = Utf8.encode source
  within : cursor.offset ≤ (Utf8.encode source).length
  boundary : Utf8.IsBoundary source cursor.offset
  line : cursor.line =
    1 + ((Utf8.encode source).take cursor.offset).count Utf8.newline

theorem behind_at (path : Text) (typesafe stopped : Bool)
    (passed rest : Text) :
    (behind path typesafe stopped passed rest).At (passed ++ rest) where
  bytes := rfl
  within := by simp [behind]
  boundary := ⟨passed, rest, rfl, rfl⟩
  line := by simp [behind, Utf8.count_newline_encode]

/-- What a call does to a cursor behind a part of its source. -/
theorem exists_call (path : Text) (typesafe stopped : Bool)
    (passed rest : Text) (call : Call) :
    ∃ result? after,
      (behind path typesafe stopped passed rest).call call =
        some (result?, after) ∧
      after.At (passed ++ rest) ∧
      (result? = none → after = behind path typesafe stopped passed rest) ∧
      ∀ result, result? = some result →
        (Utf8.encode passed).length < after.offset ∧
        resultPosition result = ⟨path, 1 + passed.newlines⟩ ∧
        ∃ left,
          Utf8.encode left =
            (Utf8.encode (passed ++ rest)).drop after.offset ∧
          Reads typesafe (resultPosition result) rest result left := by
  rcases call_cases path typesafe stopped passed rest call with
    hcall | ⟨result, taken, left, later, rfl, hne, -, hreads, hcall⟩
  · exact ⟨_, _, hcall, behind_at .., fun _ => rfl, nofun⟩
  · have hplace := behind_at path typesafe later (passed ++ taken) left
    rw [List.append_assoc] at hplace
    refine ⟨_, _, hcall, hplace, nofun, ?_⟩
    rintro other hother
    cases hother
    have hposition := hreads.resultPosition_eq
    refine ⟨?_, hposition, left, ?_, hposition ▸ hreads⟩
    · have hbytes := Utf8.length_le_length_encode taken
      have hpos := List.length_pos_iff.mpr hne
      simp only [behind, Utf8.encode_append, List.length_append]
      omega
    · simp [behind]

theorem exists_next_of_read {cursor after : Cursor}
    {result? : Option (Except SyntaxError Block)}
    (hstopped : cursor.stopped = false)
    (hread : cursor.read = some (result?, after)) :
    ∃ other, cursor.next = some (result?, other) := by
  rw [next, if_neg (by simp [hstopped]), hread]
  cases result? with
  | none => exact ⟨_, rfl⟩
  | some result =>
      cases result with
      | ok block => exact ⟨_, rfl⟩
      | error error => exact ⟨_, rfl⟩

/-- Reading goes on from the cursor as `next` would if there had been no
error. -/
theorem read_eq_next (path : Text) (typesafe stopped : Bool)
    (passed rest : Text) :
    ∃ result? after other,
      (behind path typesafe stopped passed rest).read =
        some (result?, after) ∧
      (behind path typesafe false passed rest).next = some (result?, other) ∧
      (result? = none ↔ rest = []) := by
  rcases read_cases path typesafe passed rest with
    ⟨hrest, hread⟩ | ⟨result, taken, left, hrest, hne, -, hread⟩
  · obtain ⟨other, hnext⟩ := exists_next_of_read rfl (hread false)
    exact ⟨none, _, other, hread stopped, hnext, by simp [hrest]⟩
  · obtain ⟨other, hnext⟩ := exists_next_of_read rfl (hread false)
    exact ⟨some result, _, other, hread stopped, hnext, by simp [hrest, hne]⟩

/-- The state of a cursor over every run.  Calls of both kinds are made in any
order on a cursor at the start of a source, also after errors, and then one
more call is made.  None of these calls takes a slice that is missing.

The cursor stands at a character boundary within the encoded source, before
the last call and after it, and its line counts the newline bytes before it.
If the last call returns nothing, the cursor stays as it is.  If it returns a
result, the cursor advances, and the result is that of the run of text or the
tag that starts where the cursor stood, and names the line of this place.  So
there are at most as many results as bytes.

Once `next` has returned an error, it returns nothing any more, whatever is
called in between.  `read` returns what `next` would if there had been no
error, and nothing only at the end of the source. -/
theorem calls_keep_place (path source : Text) (typesafe : Bool)
    (calls : List Call) :
    ∃ results cursor,
      (start path typesafe source).run calls = some (results, cursor) ∧
      cursor.At source ∧
      results.countP Option.isSome ≤ (Utf8.encode source).length ∧
      (∀ call, ∃ result? after, cursor.call call = some (result?, after) ∧
        after.At source ∧
        (result? = none → after = cursor) ∧
        ∀ result, result? = some result →
          cursor.offset < after.offset ∧
          resultPosition result = ⟨path,
            1 + ((Utf8.encode source).take cursor.offset).count
              Utf8.newline⟩ ∧
          ∃ rest left,
            Utf8.encode rest = (Utf8.encode source).drop cursor.offset ∧
            Utf8.encode left = (Utf8.encode source).drop after.offset ∧
            Reads typesafe (resultPosition result) rest result left) ∧
      (∀ error after, cursor.next = some (some (.error error), after) →
        ∀ later, ∃ others last, after.run later = some (others, last) ∧
          last.next = some (none, last)) ∧
      ∃ result? after other,
        cursor.read = some (result?, after) ∧
        ({ cursor with stopped := false } : Cursor).next =
          some (result?, other) ∧
        (result? = none ↔ cursor.offset = (Utf8.encode source).length) := by
  obtain ⟨results, passed, rest, stopped, rfl, -, hcount, hrun⟩ :=
    run_behind path typesafe false [] source calls
  rw [List.nil_append] at hrun
  have hline :
      ((Utf8.encode (passed ++ rest)).take (Utf8.encode passed).length).count
        Utf8.newline = passed.newlines := by
    simp [Utf8.count_newline_encode]
  have hlength := Utf8.length_le_length_encode passed
  refine ⟨results, _, hrun, behind_at .., ?_, ?_, ?_, ?_⟩
  · rw [Utf8.encode_append, List.length_append]
    omega
  · intro call
    obtain ⟨result?, after, hcall, hplace, hnone, hsome⟩ :=
      exists_call path typesafe stopped passed rest call
    refine ⟨result?, after, hcall, hplace, hnone, ?_⟩
    intro result hresult
    obtain ⟨hadvance, hposition, left, hleft, hreads⟩ := hsome result hresult
    refine ⟨hadvance, ?_, rest, left, ?_, hleft, hreads⟩
    · rw [hposition, ← hline]
      rfl
    · simp [behind]
  · intro error after hnext later
    exact next_after_error hnext later
  · obtain ⟨result?, after, other, hread, hnext, hnone⟩ :=
      read_eq_next path typesafe stopped passed rest
    refine ⟨result?, after, other, hread, hnext, hnone.trans ?_⟩
    have hrest := Utf8.length_le_length_encode rest
    constructor
    · rintro rfl
      simp [behind]
    · intro hend
      simp only [behind, Utf8.encode_append, List.length_append] at hend
      exact List.eq_nil_of_length_eq_zero (by omega)

/-- The first character takes two bytes, and the tag behind the newline is
malformed.  Reading then goes on, but `next` does not. -/
theorem calls_keep_place_behind_bad_parameter :
    ∃ cursor after error,
      (start ['t'] false
          ['é', '\n', '<', '%', '!', '%', '>', 'b']).run [.read] =
        some ([some (.ok ⟨.text ['é', '\n'], ⟨['t'], 1⟩⟩)], cursor) ∧
      cursor.offset = 3 ∧
      cursor.next = some (some (.error error), after) ∧
      error.position = ⟨['t'], 2⟩ ∧
      ∃ others last, after.run [.read, .next] = some (others, last) ∧
        last.next = some (none, last) := by
  have hread :
      (start ['t'] false
        ['é', '\n', '<', '%', '!', '%', '>', 'b']).run [.read] =
      some ([some (.ok ⟨.text ['é', '\n'], ⟨['t'], 1⟩⟩)],
        behind ['t'] false false ['é', '\n']
          ['<', '%', '!', '%', '>', 'b']) := rfl
  obtain ⟨results, cursor, hrun, -, -, -, hstops, -⟩ := calls_keep_place ['t']
    ['é', '\n', '<', '%', '!', '%', '>', 'b'] false [.read]
  cases hread.symm.trans hrun
  have herror :
      (behind ['t'] false false ['é', '\n']
        ['<', '%', '!', '%', '>', 'b']).next =
      some (some (.error (.malformedParameter [] ⟨['t'], 2⟩)),
        behind ['t'] false true ['é', '\n', '<', '%', '!', '%', '>'] ['b']) :=
    rfl
  exact ⟨_, _, _, hread, rfl, herror, rfl, hstops _ _ herror [.read, .next]⟩

end Cursor
end Stencil
