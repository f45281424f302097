import Mathlib.Data.List.Forall2
import Stencil.Compile.Basic
import Stencil.Proofs.CursorSteps

/-!
# The blocks of a source

The results of a cursor follow the segments of its source.  One lemma for each
thing that a source can start with says what the cursor returns there and
where it stands afterwards, and the lemma about runs puts these together: a
run whose segments mean items contributes one block per segment, and the
results go on from what the run leaves.

`Placed` lists the blocks that segments stand for, with their lines.  Every
source can be taken apart up to its end or up to a bad tag, so a scan without
an error is the same as a run to the end with its placed blocks.  Both
directions of the grammar of templates are read off from that.
-/

namespace Stencil

/-! ## One step -/

namespace Cursor

theorem results_of_next_none {cursor after : Cursor}
    (hnext : cursor.next = some (none, after)) :
    cursor.results = some [] := by
  rw [results]
  split <;> rename_i hother <;> rw [hnext] at hother <;> cases hother

theorem results_of_next_some {cursor after : Cursor}
    {result : Except SyntaxError Block}
    (hnext : cursor.next = some (some result, after)) :
    cursor.results = after.results.map (result :: ·) := by
  rw [results]
  split <;> rename_i hother <;> rw [hnext] at hother <;> cases hother
  rfl

section Behind

variable {path : Text} {typesafe : Bool} {passed rest : Text}

theorem results_behind_stopped :
    (behind path typesafe true passed rest).results = some [] :=
  results_of_next_none rfl

theorem results_behind_nil :
    (behind path typesafe false passed []).results = some [] := by
  have hnext : (behind path typesafe false passed []).next =
      some (none, behind path typesafe false passed []) := by
    rw [next, read_behind_nil]
    rfl
  exact results_of_next_none hnext

theorem results_of_means {left : Text} {segment : Segment} {item : Item}
    (hfirst : Segment.first rest = .segment segment left)
    (hmeans : segment.Means typesafe item) :
    (behind path typesafe false passed rest).results =
      (behind path typesafe false (passed ++ segment.spelling)
        left).results.map (.ok ⟨item, ⟨path, 1 + passed.newlines⟩⟩ :: ·) := by
  apply results_of_next_some
  rw [next, read_of_means hfirst hmeans]
  rfl

theorem results_of_read_error {taken left : Text} {error : SyntaxError}
    (hread : (behind path typesafe false passed rest).read =
      some (some (.error error), behind path typesafe false taken left)) :
    (behind path typesafe false passed rest).results =
      some [.error error] := by
  have hnext : (behind path typesafe false passed rest).next =
      some (some (.error error), behind path typesafe true taken left) := by
    rw [next, hread]
    rfl
  rw [results_of_next_some hnext, results_behind_stopped]
  rfl

theorem results_of_bad {fault : Position → SyntaxError}
    (hbad : Segment.Bad rest fault) :
    (behind path typesafe false passed rest).results =
      some [.error (fault ⟨path, 1 + passed.newlines⟩)] := by
  cases hbad with
  | unclosed hunclosed =>
      exact results_of_read_error (read_of_unclosed hunclosed)
  | undeclared left hcloser hwords =>
      exact results_of_read_error (read_of_undeclared left hcloser hwords)

end Behind
end Cursor

/-! ## Runs -/

/-- The blocks of segments that start on a line of a file. -/
inductive Placed (path : Text) (typesafe : Bool) : Nat → List Segment →
    List Block → Prop
  | nil (line : Nat) : Placed path typesafe line [] []
  | cons {line : Nat} {segment : Segment} {item : Item}
      {segments : List Segment} {blocks : List Block}
      (hmeans : segment.Means typesafe item)
      (hplaced : Placed path typesafe (line + segment.spelling.newlines)
        segments blocks) :
      Placed path typesafe line (segment :: segments)
        (⟨item, ⟨path, line⟩⟩ :: blocks)

theorem exists_placed {segments : List Segment}
    (hwell : ∀ segment ∈ segments, segment.WellFormed)
    (path : Text) (typesafe : Bool) (line : Nat) :
    ∃ blocks, Placed path typesafe line segments blocks := by
  induction segments generalizing line with
  | nil => exact ⟨[], .nil line⟩
  | cons segment segments ih =>
      have hhead :=
        Segment.wellFormed_iff.mp (hwell segment List.mem_cons_self)
      obtain ⟨item, hmeans⟩ := Segment.exists_means typesafe hhead.2
      obtain ⟨blocks, hplaced⟩ :=
        ih (fun other hother => hwell other (List.mem_cons_of_mem _ hother))
          (line + segment.spelling.newlines)
      exact ⟨_, .cons hmeans hplaced⟩

/-- Every source can be taken apart up to its end or up to a bad tag. -/
theorem exists_run (path : Text) (typesafe : Bool) (line : Nat)
    (source : Text) :
    ∃ segments blocks left, Segment.Run source segments left ∧
      Placed path typesafe line segments blocks ∧
      (left = [] ∨ ∃ fault, Segment.Bad left fault) := by
  induction hlength :
    source.length using Nat.strongRecOn generalizing source line with
  | _ length ih =>
      subst hlength
      rcases Segment.head_cases typesafe source with
        rfl | ⟨segment, rest, item, hfirst, hmeans⟩ | ⟨fault, hbad⟩
      · exact ⟨[], [], [], .done [], .nil line, .inl rfl⟩
      · have hshorter := Segment.length_rest_lt hfirst
        obtain ⟨segments, blocks, left, hrun, hplaced, hleft⟩ :=
          ih _ hshorter (line + segment.spelling.newlines) rest rfl
        exact ⟨segment :: segments, _, left, .step hfirst hrun,
          .cons hmeans hplaced, hleft⟩
      · exact ⟨[], [], source, .done source, .nil line, .inr ⟨fault, hbad⟩⟩

namespace Placed

variable {path : Text} {typesafe : Bool} {line : Nat}
variable {segments : List Segment} {blocks : List Block}

theorem wellFormed (hplaced : Placed path typesafe line segments blocks)
    (hcanonical : ∀ segment ∈ segments, segment.Canonical) :
    ∀ segment ∈ segments, segment.WellFormed := by
  induction hplaced with
  | nil line => simp
  | cons hmeans hplaced ih =>
      rw [List.forall_mem_cons] at hcanonical ⊢
      exact ⟨hmeans.wellFormed hcanonical.1, ih hcanonical.2⟩

theorem take (hplaced : Placed path typesafe line segments blocks)
    (count : Nat) :
    Placed path typesafe line (segments.take count) (blocks.take count) := by
  induction hplaced generalizing count with
  | nil line => simpa using .nil line
  | cons hmeans hplaced ih =>
      cases count with
      | zero => exact .nil _
      | succ count => exact .cons hmeans (ih count)

theorem append (hplaced : Placed path typesafe line segments blocks)
    {others : List Segment} {more : List Block}
    (hmore : Placed path typesafe (line + (Segment.spell segments).newlines)
      others more) :
    Placed path typesafe line (segments ++ others) (blocks ++ more) := by
  induction hplaced with
  | nil line => exact hmore
  | cons hmeans hplaced ih =>
      refine .cons hmeans (ih ?_)
      rw [Segment.spell_cons, Text.newlines_append, ← Nat.add_assoc] at hmore
      exact hmore

end Placed

namespace Cursor

/-- A run contributes its blocks, and the results go on from what it
leaves. -/
theorem results_of_run {path passed rest left : Text} {typesafe : Bool}
    {segments : List Segment} {blocks : List Block}
    (hrun : Segment.Run rest segments left)
    (hplaced : Placed path typesafe (1 + passed.newlines) segments blocks) :
    (behind path typesafe false passed rest).results =
      (behind path typesafe false (passed ++ Segment.spell segments)
        left).results.map (blocks.map .ok ++ ·) := by
  induction hrun generalizing passed blocks with
  | done rest =>
      cases hplaced
      simp
  | @step rest middle left segment segments hfirst hrun ih =>
      cases hplaced with
      | cons hmeans hplaced =>
          rw [Nat.add_assoc, ← Text.newlines_append] at hplaced
          rw [results_of_means hfirst hmeans, ih hplaced, Option.map_map]
          simp only [Segment.spell_cons, List.append_assoc]
          rfl

theorem results_of_run_end {path source : Text} {typesafe : Bool}
    {segments : List Segment} {blocks : List Block}
    (hrun : Segment.Run source segments [])
    (hplaced : Placed path typesafe 1 segments blocks) :
    (start path typesafe source).results = some (blocks.map .ok) := by
  rw [start_eq_behind, results_of_run hrun hplaced, results_behind_nil,
    Option.map_some, List.append_nil]

theorem results_of_run_bad {path source left : Text} {typesafe : Bool}
    {segments : List Segment} {blocks : List Block}
    {fault : Position → SyntaxError} (hrun : Segment.Run source segments left)
    (hplaced : Placed path typesafe 1 segments blocks)
    (hbad : Segment.Bad left fault) :
    (start path typesafe source).results =
      some (blocks.map .ok ++
        [.error (fault ⟨path, 1 + (Segment.spell segments).newlines⟩)]) := by
  rw [start_eq_behind, results_of_run hrun hplaced, results_of_bad hbad]
  rfl

/-- No slice is missing on the way through a source. -/
theorem exists_results (path : Text) (typesafe : Bool) (source : Text) :
    ∃ results, (start path typesafe source).results = some results := by
  obtain ⟨segments, blocks, left, hrun, hplaced, rfl | ⟨fault, hbad⟩⟩ :=
    exists_run path typesafe 1 source
  · exact ⟨_, results_of_run_end hrun hplaced⟩
  · exact ⟨_, results_of_run_bad hrun hplaced hbad⟩

theorem error_notMem_map_ok {error : SyntaxError} (blocks : List Block) :
    .error error ∉ blocks.map Except.ok := by
  intro hmem
  obtain ⟨block, -, hblock⟩ := List.mem_map.mp hmem
  cases hblock

theorem results_start_eq_iff {path source : Text} {typesafe : Bool}
    {blocks : List Block} :
    (start path typesafe source).results = some (blocks.map .ok) ↔
      ∃ segments, Segment.Run source segments [] ∧
        Placed path typesafe 1 segments blocks := by
  constructor
  · intro hresults
    obtain ⟨segments, others, left, hrun, hplaced, rfl | ⟨fault, hbad⟩⟩ :=
      exists_run path typesafe 1 source
    · rw [results_of_run_end hrun hplaced, Option.some.injEq] at hresults
      have hblocks : others = blocks :=
        List.map_injective_iff.mpr (fun _ _ => Except.ok.inj) hresults
      exact ⟨segments, hrun, hblocks ▸ hplaced⟩
    · rw [results_of_run_bad hrun hplaced hbad, Option.some.injEq] at hresults
      exact absurd (hresults ▸ List.mem_append_right _ List.mem_cons_self)
        (error_notMem_map_ok blocks)
  · rintro ⟨segments, hrun, hplaced⟩
    exact results_of_run_end hrun hplaced

end Cursor

/-! ## Normalisation -/

namespace Block

def isText (block : Block) : Bool :=
  match block.item with
  | .text _ => true
  | _ => false

def Separated (block next : Block) : Prop :=
  ¬ (block.isText = true ∧ next.isText = true)

theorem mergeTexts_eq_self {blocks : List Block}
    (hseparated : blocks.IsChain Separated) :
    mergeTexts blocks = blocks := by
  induction blocks with
  | nil => rfl
  | cons block blocks ih =>
      rw [mergeTexts, ih hseparated.tail]
      split
      · rename_i content next position rest hitem
        have hnext := (List.isChain_cons_cons.mp hseparated).1
        exact absurd ⟨by simp [isText, hitem], rfl⟩ hnext
      · rfl

end Block

theorem Placed.map_isText {path : Text} {typesafe : Bool} {line : Nat}
    {segments : List Segment} {blocks : List Block}
    (hplaced : Placed path typesafe line segments blocks) :
    blocks.map Block.isText = segments.map Segment.isText := by
  induction hplaced with
  | nil line => rfl
  | @cons line segment item segments blocks hmeans hplaced ih =>
      have hhead : Block.isText ⟨item, ⟨path, line⟩⟩ = segment.isText := by
        cases hmeans <;> rfl
      rw [List.map_cons, List.map_cons, hhead, ih]

theorem Placed.separated {path : Text} {typesafe : Bool} {line : Nat}
    {segments : List Segment} {blocks : List Block}
    (hplaced : Placed path typesafe line segments blocks)
    (hseparated : segments.IsChain Segment.Separated) :
    blocks.IsChain Block.Separated := by
  have hflags : (segments.map Segment.isText).IsChain
      fun flag next => ¬ (flag = true ∧ next = true) :=
    (List.isChain_map _).mpr hseparated
  rw [← hplaced.map_isText] at hflags
  exact (List.isChain_map Block.isText).mp hflags

theorem mapM_id_eq_ok_iff {ε α : Type} {results : List (Except ε α)}
    {values : List α} :
    results.mapM id = .ok values ↔ results = values.map .ok := by
  induction results generalizing values with
  | nil => simp [pure, Except.pure, eq_comm]
  | cons result results ih =>
      cases result with
      | error error => cases values <;> simp [bind, Except.bind]
      | ok value =>
          cases values with
          | nil =>
              cases htail : results.mapM id <;>
                simp [htail, bind, Except.bind, pure, Except.pure]
          | cons other values =>
              rw [List.map_cons, List.cons.injEq, ← ih]
              cases htail : results.mapM id <;>
                simp [htail, bind, Except.bind, pure, Except.pure]

theorem mergeTexts_of_results {path source : Text} {typesafe : Bool}
    {blocks : List Block}
    (hscan : (Cursor.start path typesafe source).results =
      some (blocks.map .ok)) :
    Block.mergeTexts blocks = blocks := by
  obtain ⟨segments, hrun, hplaced⟩ := Cursor.results_start_eq_iff.mp hscan
  exact Block.mergeTexts_eq_self (hplaced.separated hrun.separated)

/-- A template holds the blocks of its source as they were scanned. -/
theorem Template.ofSource_eq_ok_iff {typesafe : Bool} {path : Bytes}
    {source : Text} {template : Template} :
    Template.ofSource typesafe path source = .ok template ↔
      template.path = path ∧
        (Cursor.start (Utf8.decodeLossy path) typesafe source).results =
          some (template.blocks.map .ok) := by
  obtain ⟨file, blocks⟩ := template
  obtain ⟨results, hresults⟩ :=
    Cursor.exists_results (Utf8.decodeLossy path) typesafe source
  have hmerged : ∀ scanned : List Block, results = scanned.map .ok →
      Block.mergeTexts scanned = scanned := by
    rintro scanned rfl
    exact mergeTexts_of_results hresults
  rw [Template.ofSource, Cursor.blocks, hresults, Option.getD_some,
    Option.some.injEq]
  constructor
  · intro hsource
    cases hblocks : results.mapM id with
    | error error =>
        rw [hblocks] at hsource
        cases hsource
    | ok scanned =>
        rw [hblocks] at hsource
        cases hsource
        have hscan := mapM_id_eq_ok_iff.mp hblocks
        exact ⟨rfl, by rw [hmerged scanned hscan]; exact hscan⟩
  · rintro ⟨rfl, hscan⟩
    rw [mapM_id_eq_ok_iff.mpr hscan]
    exact congrArg (fun merged => Except.ok (Template.mk file merged))
      (hmerged blocks hscan)

/-! ## Parsing -/

theorem mapM_id_append_error {ε α : Type} (values : List α) (error : ε) :
    (values.map Except.ok ++ [Except.error error]).mapM id =
      .error error := by
  induction values with
  | nil => rfl
  | cons value values ih =>
      rw [List.map_cons, List.cons_append, List.mapM_cons, ih]
      rfl

theorem Template.ofSource_of_run {typesafe : Bool} {path : Bytes}
    {source : Text} {segments : List Segment} {blocks : List Block}
    (hrun : Segment.Run source segments [])
    (hplaced : Placed (Utf8.decodeLossy path) typesafe 1 segments blocks) :
    Template.ofSource typesafe path source = .ok ⟨path, blocks⟩ := by
  apply Template.ofSource_eq_ok_iff.mpr
  exact ⟨rfl, Cursor.results_start_eq_iff.mpr ⟨segments, hrun, hplaced⟩⟩

theorem Template.ofSource_of_run_bad {typesafe : Bool} {path : Bytes}
    {source left : Text} {segments : List Segment} {blocks : List Block}
    {fault : Position → SyntaxError} (hrun : Segment.Run source segments left)
    (hplaced : Placed (Utf8.decodeLossy path) typesafe 1 segments blocks)
    (hbad : Segment.Bad left fault) :
    Template.ofSource typesafe path source =
      .error (fault ⟨Utf8.decodeLossy path,
        1 + (Segment.spell segments).newlines⟩) := by
  have hscan := Cursor.results_of_run_bad hrun hplaced hbad
  rw [Template.ofSource, Cursor.blocks, hscan, Option.getD_some,
    mapM_id_append_error]
  rfl

theorem parse_eq_ok_iff {options : Options} {path : Bytes} {source : Text}
    {template : Template} :
    parse options path source = .ok template ↔
      Template.ofSource options.typesafe path source = .ok template := by
  unfold parse
  cases Template.ofSource options.typesafe path source <;> simp

theorem parse_eq_ok_placed {options : Options} {path : Bytes} {source : Text}
    {template : Template}
    (hparse : parse options path source = .ok template) :
    ∃ segments, Segment.Run source segments [] ∧
      Placed (Utf8.decodeLossy path) options.typesafe 1 segments
        template.blocks := by
  have hsource := Template.ofSource_eq_ok_iff.mp (parse_eq_ok_iff.mp hparse)
  exact Cursor.results_start_eq_iff.mp hsource.2

theorem parse_of_run {options : Options} {path : Bytes} {source : Text}
    {segments : List Segment} {blocks : List Block}
    (hrun : Segment.Run source segments [])
    (hplaced : Placed (Utf8.decodeLossy path) options.typesafe 1
      segments blocks) :
    parse options path source = .ok ⟨path, blocks⟩ :=
  parse_eq_ok_iff.mpr (Template.ofSource_of_run hrun hplaced)

theorem parse_of_run_bad {options : Options} {path : Bytes}
    {source left : Text} {segments : List Segment} {blocks : List Block}
    {fault : Position → SyntaxError} (hrun : Segment.Run source segments left)
    (hplaced : Placed (Utf8.decodeLossy path) options.typesafe 1
      segments blocks)
    (hbad : Segment.Bad left fault) :
    parse options path source =
      .error (.malformed
        (fault ⟨Utf8.decodeLossy path,
          1 + (Segment.spell segments).newlines⟩)) := by
  rw [parse, Template.ofSource_of_run_bad hrun hplaced hbad]

/-! ## The two directions of the grammar -/

end Stencil
