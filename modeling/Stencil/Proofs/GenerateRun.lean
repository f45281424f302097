import Stencil.Command.Arguments
import Stencil.Proofs.GeneratedText
import Stencil.Proofs.RunSteps
import Stencil.Proofs.Scanning

/-!
# What a run writes

The command works on any file system.  Here it works on one that shows a tree
of files and answers as the tree does, whatever else its states record.  A run
then takes the steps of its agenda one after the other, up to the end or to
the first failure, and writes to the file system once for every template it
generates.
-/

namespace Stencil
namespace Command

/-- A file system whose states show a disk.  Only a write changes a state, and
a write that fails does not. -/
structure DiskView (σ : Type) [FileSystem (StateM σ)] where
  disk : σ → Disk
  /-- The state after a write that succeeds. -/
  afterWrite : σ → Bytes → Bytes → σ
  run_workingDirectory : ∀ state,
    (FileSystem.workingDirectory : StateM σ _).run state =
      ((disk state).workingDirectory, state)
  run_kind? : ∀ state path,
    (FileSystem.kind? path : StateM σ _).run state =
      ((disk state).kind? path, state)
  run_read : ∀ state path,
    (FileSystem.read path : StateM σ _).run state =
      ((disk state).read path, state)
  run_filesBelow : ∀ state path files,
    (disk state).IsTree → (disk state).Walks path files →
    (FileSystem.filesBelow path : StateM σ _).run state = (files, state)
  run_write_ok : ∀ state path contents next,
    (disk state).write path contents = .ok next →
    disk (afterWrite state path contents) = next ∧
      (FileSystem.write path contents : StateM σ _).run state =
        (.ok (), afterWrite state path contents)
  run_write_error : ∀ state path contents fault,
    (disk state).write path contents = .error fault →
      (FileSystem.write path contents : StateM σ _).run state =
        (.error fault, state)

theorem run_bind_of_run {σ α β : Type} {action : StateM σ α}
    {next : α → StateM σ β} {state middle : σ} {value : α}
    (hrun : action.run state = (value, middle)) :
    (action >>= next).run state = (next value).run middle := by
  rw [StateT.run_bind, hrun]
  rfl

section

variable {σ : Type} [FileSystem (StateM σ)] (view : DiskView σ)
  {options : Options}

/-! ## One template -/

theorem run_compileFile_of_unread {state : σ} {path : Bytes}
    {fault : FileFault} (hread : (view.disk state).read path = .error fault) :
    (compileFile options path : StateM σ _).run state =
      (.error (.unreadable path fault), state) := by
  rw [compileFile, run_bind_of_run (view.run_read state path), hread]
  rfl

theorem run_compileFile_of_error {state : σ} {path contents : Bytes}
    {error : CompileError}
    (hread : (view.disk state).read path = .ok contents)
    (hparse : parseBytes options path contents = .error error) :
    (compileFile options path : StateM σ _).run state =
      (.error error, state) := by
  rw [compileFile, run_bind_of_run (view.run_read state path), hread]
  simp only [hparse]
  rfl

theorem run_compileFile_of_template {state : σ} {path contents : Bytes}
    {template : Template} (hread : (view.disk state).read path = .ok contents)
    (hparse : parseBytes options path contents = .ok template) :
    (compileFile options path : StateM σ _).run state =
      ((template.generate (view.disk state).workingDirectory options).map
        (template, ·), state) := by
  rw [compileFile, run_bind_of_run (view.run_read state path), hread]
  simp only [hparse]
  rw [run_bind_of_run (view.run_workingDirectory state)]
  rfl

theorem run_sourceText_of_unread {state : σ} {path : Bytes}
    {fault : FileFault} (hread : (view.disk state).read path = .error fault) :
    (sourceText path : StateM σ _).run state = ([], state) := by
  rw [sourceText, run_bind_of_run (view.run_read state path), hread]
  rfl

theorem run_sourceText_of_read {state : σ} {path contents : Bytes}
    (hread : (view.disk state).read path = .ok contents) :
    (sourceText path : StateM σ _).run state =
      ((Utf8.decode? contents).getD [], state) := by
  rw [sourceText, run_bind_of_run (view.run_read state path), hread]
  rfl

omit view in
theorem run_generateFile_of_error {state : σ} {path : Bytes}
    {error : CompileError} {text : Text}
    (hcompile : (compileFile options path : StateM σ _).run state =
      (.error error, state))
    (htext : (sourceText path : StateM σ _).run state = (text, state)) :
    (generateFile options path : StateM σ _).run state =
      (.error (.uncompiled error text), state) := by
  rw [generateFile, run_bind_of_run hcompile]
  simp only
  rw [run_bind_of_run htext]
  rfl

theorem run_compileFile_of_text {state : σ} {path : Bytes} {source : Text}
    (hread : (view.disk state).read path = .ok (Utf8.encode source)) :
    (∃ error, compile (view.disk state).workingDirectory options path source =
        .error error ∧
        (compileFile options path : StateM σ _).run state =
          (.error error, state)) ∨
      ∃ template code,
        compile (view.disk state).workingDirectory options path source =
          .ok code ∧
        template.path = path ∧
        (compileFile options path : StateM σ _).run state =
          (.ok (template, code), state) := by
  have hsource : parseBytes options path (Utf8.encode source) =
      parse options path source := by
    rw [parseBytes, Utf8.decode?_encode]
  cases hparse : parse options path source with
  | error error =>
      refine .inl ⟨error, by rw [compile, hparse], ?_⟩
      exact run_compileFile_of_error view hread (hsource.trans hparse)
  | ok template =>
      have hrun :=
        run_compileFile_of_template view hread (hsource.trans hparse)
      have hcompile :
          compile (view.disk state).workingDirectory options path source =
          template.generate (view.disk state).workingDirectory options := by
        rw [compile, hparse]
      rw [← hcompile] at hrun
      cases hcode :
        compile (view.disk state).workingDirectory options path source with
      | error error =>
          rw [hcode] at hrun
          exact .inl ⟨error, rfl, hrun⟩
      | ok code =>
          rw [hcode] at hrun
          have hpath :=
            Template.ofSource_eq_ok_iff.mp (parse_eq_ok_iff.mp hparse)
          exact .inr ⟨template, code, rfl, hpath.1, hrun⟩

/-- Compiling a template yields the code of its source, or generating it fails
as the agenda does. -/
theorem run_compileFile (state : σ) (path : Bytes)
    (due arguments : List Bytes) :
    (∃ source template code,
        (view.disk state).read path = .ok (Utf8.encode source) ∧
        compile (view.disk state).workingDirectory options path source =
          .ok code ∧
        template.path = path ∧
        (compileFile options path : StateM σ _).run state =
          (.ok (template, code), state)) ∨
      ∃ failure,
        Agenda.Fails options
          ⟨view.disk state, path :: due, arguments⟩ failure ∧
        (generateFile options path : StateM σ _).run state =
          (.error failure, state) := by
  cases hread : (view.disk state).read path with
  | error fault =>
      exact .inr ⟨_, .unreadable hread, run_generateFile_of_error
        (run_compileFile_of_unread view hread)
        (run_sourceText_of_unread view hread)⟩
  | ok contents =>
      have htext := run_sourceText_of_read view hread
      cases hdecode : Utf8.decode? contents with
      | none =>
          have hparse : parseBytes options path contents =
              .error (.unreadable path .invalidText) := by
            rw [parseBytes, hdecode]
          rw [hdecode] at htext
          refine .inr ⟨_, .notText hread fun source hsource => ?_,
            run_generateFile_of_error
              (run_compileFile_of_error view hread hparse) htext⟩
          rw [Utf8.decode?_eq_some_iff.mpr hsource] at hdecode
          cases hdecode
      | some source =>
          rw [hdecode] at htext
          obtain rfl := Utf8.decode?_eq_some_iff.mp hdecode
          obtain ⟨error, hcode, hrun⟩ |
            ⟨template, code, hcode, hpath, hrun⟩ :=
            run_compileFile_of_text view hread
          · exact .inr ⟨_, .uncompiled hread hcode,
              run_generateFile_of_error hrun htext⟩
          · exact .inl ⟨source, template, code, rfl, hcode, hpath, hrun⟩

/-- Generating a template takes a step of the agenda, or it fails as the
agenda does. -/
theorem run_generateFile (state : σ) (path : Bytes)
    (due arguments : List Bytes) :
    (∃ made next,
        Agenda.Step options ⟨view.disk state, path :: due, arguments⟩ [made]
          ⟨next, due, arguments⟩ ∧
        view.disk (view.afterWrite state made.output made.contents) = next ∧
        (generateFile options path : StateM σ _).run state =
          (.ok made.output,
            view.afterWrite state made.output made.contents)) ∨
      ∃ failure,
        Agenda.Fails options
          ⟨view.disk state, path :: due, arguments⟩ failure ∧
        (generateFile options path : StateM σ _).run state =
          (.error failure, state) := by
  obtain ⟨source, template, code, hread, hcode, hpath, hrun⟩ | hfails :=
    run_compileFile view state path due arguments
  · have houtput :
        template.outputPath = Generation.output ⟨path, source, code⟩ := by
      rw [Template.outputPath, hpath]
      rfl
    cases hwrite :
      (view.disk state).write (Generation.output ⟨path, source, code⟩)
        (Generation.contents ⟨path, source, code⟩) with
    | error fault =>
        refine .inr ⟨_, .unwritable hread hcode hwrite, ?_⟩
        rw [generateFile, run_bind_of_run hrun]
        simp only [houtput]
        exact run_bind_of_run (view.run_write_error _ _ _ _ hwrite)
    | ok next =>
        obtain ⟨hdisk, hwritten⟩ := view.run_write_ok _ _ _ _ hwrite
        refine .inl ⟨⟨path, source, code⟩, next,
          .template hread hcode hwrite, hdisk, ?_⟩
        rw [generateFile, run_bind_of_run hrun]
        simp only [houtput]
        exact run_bind_of_run hwritten
  · exact .inr hfails

/-! ## Templates and arguments -/

def DiskView.afterAll (state : σ) (done : List Generation) : σ :=
  done.foldl
    (fun state made => view.afterWrite state made.output made.contents) state

theorem DiskView.afterAll_append (state : σ) (done more : List Generation) :
    view.afterAll state (done ++ more) =
      view.afterAll (view.afterAll state done) more :=
  List.foldl_append

/-- A result of the command that comes of steps of an agenda: all of them up
to the arguments in `rest`, or those up to the first failure. -/
def Follows (options : Options) (state : σ) (agenda : Agenda)
    (rest : List Bytes) (result : Outcome × σ) : Prop :=
  ∃ done last failure?, Agenda.Steps options agenda done last ∧
    view.disk (view.afterAll state done) = last.disk ∧
    result =
      (⟨done.map Generation.output, failure?⟩, view.afterAll state done) ∧
    (failure? = none → last.due = [] ∧ last.arguments = rest) ∧
    ∀ failure, failure? = some failure → last.Fails options failure

variable {view}

theorem Follows.of_step {state : σ} {agenda next : Agenda} {rest : List Bytes}
    {result : Outcome × σ} (hstep : Agenda.Step options agenda [] next)
    (hfollows : Follows view options state next rest result) :
    Follows view options state agenda rest result := by
  obtain ⟨done, last, failure?, hsteps, hresult⟩ := hfollows
  exact ⟨done, last, failure?, .step hstep hsteps, hresult⟩

theorem Follows.of_fails {state : σ} {agenda : Agenda} {rest : List Bytes}
    {failure : Failure} (hdisk : view.disk state = agenda.disk)
    (hfails : agenda.Fails options failure) :
    Follows view options state agenda rest (⟨[], some failure⟩, state) := by
  refine ⟨[], agenda, some failure, .refl agenda, hdisk, rfl, nofun, ?_⟩
  rintro other ⟨⟩
  exact hfails

variable (view)

theorem follows_generateFiles (state : σ) (due arguments : List Bytes) :
    Follows view options state ⟨view.disk state, due, arguments⟩ arguments
      ((generateFiles options due : StateM σ _).run state) := by
  induction due generalizing state with
  | nil => exact ⟨[], _, none, .refl _, rfl, rfl, fun _ => ⟨rfl, rfl⟩, nofun⟩
  | cons path due ih =>
      obtain ⟨made, next, hstep, rfl, hrun⟩ | ⟨failure, hfails, hrun⟩ :=
        run_generateFile view state path due arguments
      · obtain ⟨done, last, failure?, hsteps, hdisk, hresult, hends⟩ :=
          ih (view.afterWrite state made.output made.contents)
        refine ⟨made :: done, last, failure?, .step hstep hsteps,
          hdisk, ?_, hends⟩
        rw [generateFiles, run_bind_of_run hrun]
        simp only
        rw [run_bind_of_run hresult]
        rfl
      · rw [generateFiles, run_bind_of_run hrun]
        exact .of_fails rfl hfails

theorem follows_generateAt (options : Options) {state : σ}
    (htree : (view.disk state).IsTree) (path : Bytes)
    (arguments : List Bytes) :
    Follows view options state
      ⟨view.disk state, [], path :: arguments⟩ arguments
      ((generateAt options path : StateM σ _).run state) := by
  rw [generateAt, run_bind_of_run (view.run_kind? state path)]
  cases hlocate : (view.disk state).locate path with
  | error fault =>
      simp only [Disk.kind?, hlocate]
      exact .of_fails rfl (.missing hlocate)
  | ok found =>
      obtain ⟨location, node⟩ := found
      cases node with
      | file contents =>
          simp only [Disk.kind?, hlocate, Node.kind]
          by_cases hextension : hasExtension options.extension path = true
          · rw [if_pos hextension]
            exact .of_step (.file hlocate hextension)
              (follows_generateFiles view state _ _)
          · rw [if_neg hextension]
            exact .of_fails rfl
              (.wrongExtension hlocate (Bool.not_eq_true _ ▸ hextension))
      | directory =>
          have hkind : (view.disk state).kind? path = some .directory := by
            rw [Disk.kind?, hlocate]
            rfl
          have hwalk := htree.walks_iff.mpr ⟨hkind, rfl⟩
          rw [hkind]
          simp only
          rw [run_bind_of_run (view.run_filesBelow state path _ htree hwalk)]
          exact .of_step (.directory hwalk)
            (follows_generateFiles view state _ _)

theorem follows_generateAll (options : Options) {state : σ}
    (htree : (view.disk state).IsTree) (paths : List Bytes) :
    Follows view options state ⟨view.disk state, [], paths⟩ []
      ((generateAll options paths : StateM σ _).run state) := by
  induction paths generalizing state with
  | nil => exact ⟨[], _, none, .refl _, rfl, rfl, fun _ => ⟨rfl, rfl⟩, nofun⟩
  | cons path paths ih =>
      obtain ⟨done, last, failure?, hsteps, hdisk, hresult,
        hfinished, hfails⟩ :=
        follows_generateAt view options htree path paths
      rw [generateAll, run_bind_of_run hresult]
      cases failure? with
      | some failure =>
          refine ⟨done, last, some failure, hsteps, hdisk, rfl, nofun, hfails⟩
      | none =>
          obtain ⟨hdue, harguments⟩ := hfinished rfl
          have hlast :
              last = ⟨view.disk (view.afterAll state done), [], paths⟩ := by
            rw [hdisk, ← hdue, ← harguments]
          have hgrown : (view.disk (view.afterAll state done)).IsTree :=
            hdisk ▸ hsteps.isTree htree
          obtain ⟨more, final, failure?, hmore, hdisk', hresult', hends⟩ :=
            ih hgrown
          rw [← hlast] at hmore
          refine ⟨done ++ more, final, failure?, hsteps.trans hmore,
            ?_, ?_, hends⟩
          · rw [view.afterAll_append]
            exact hdisk'
          · simp only
            rw [run_bind_of_run hresult', view.afterAll_append,
              List.map_append]
            rfl

/-- Generating the templates at some paths takes the steps of the agenda up to
its end.  It fails where the agenda does, and if there was nothing to
generate. -/
theorem run_generatePaths (options : Options) {start : σ}
    (htree : (view.disk start).IsTree) (paths : List Bytes) :
    ∃ done last failure?,
      Agenda.Steps options ⟨view.disk start, [], paths⟩ done last ∧
      last.Ends options failure? ∧
      view.disk (view.afterAll start done) = last.disk ∧
      (generatePaths options paths : StateM σ _).run start =
        (⟨done.map Generation.output,
          if failure? = none ∧ done = [] then
            some (.noTemplates options.extension)
          else failure?⟩, view.afterAll start done) := by
  obtain ⟨done, last, failure?, hsteps, hdisk, hresult, hfinished, hfails⟩ :=
    follows_generateAll view options htree paths
  refine ⟨done, last, failure?, hsteps, ?_, hdisk, ?_⟩
  · cases failure? with
    | none => exact hfinished rfl
    | some failure => exact hfails failure rfl
  · rw [generatePaths, run_bind_of_run hresult]
    simp only [List.map_eq_nil_iff]
    split <;> rfl

end

theorem Outcome.status_report_eq_zero_iff (style : Style) (elapsed : Text)
    (outcome : Outcome) :
    (outcome.report style elapsed).status = 0 ↔ outcome.failure? = none := by
  unfold Outcome.report
  cases outcome.failure? <;> simp

theorem Arguments.paths_of_input {arguments : Arguments} {texts : List Text}
    (hinput : arguments.input = .ok (.paths texts)) :
    texts = if arguments.paths = [] then [['.']] else arguments.paths := by
  simp only [Arguments.input] at hinput
  split at hinput
  · split at hinput
    · cases hinput
    · cases hinput
  · split at hinput
    · rename_i hpaths
      rw [if_pos hpaths]
      split at hinput
      · cases hinput
      · cases hinput
        rfl
    · rename_i hpaths
      rw [if_neg hpaths]
      cases hinput
      rfl

/-- A run generates the templates it visits before the first failure, in their
order, and writes their code and nothing else. -/
theorem run_writes_until_failure {σ : Type} [FileSystem (StateM σ)]
    (view : DiskView σ) (options : Options) (paths : List Bytes) (start : σ)
    (htree : (view.disk start).IsTree) (style : Style) (elapsed : Text) :
    ∃ outcome done last failure?,
      (generatePaths options paths : StateM σ _).run start =
        (outcome, view.afterAll start done) ∧
      outcome.written = done.map Generation.output ∧
      Agenda.Steps options ⟨view.disk start, [], paths⟩ done last ∧
      last.Ends options failure? ∧
      (∀ done' last' failure?',
        Agenda.Steps options ⟨view.disk start, [], paths⟩ done' last' →
        last'.Ends options failure?' →
          done' = done ∧ last' = last ∧ failure?' = failure?) ∧
      view.disk (view.afterAll start done) = last.disk ∧
      (∀ location,
        (∀ made ∈ done,
          Path.resolve (view.disk start).workingDirectory made.output ≠
            location) →
        last.disk.node? location = (view.disk start).node? location) ∧
      (∀ failure, failure? = some failure → outcome.failure? = some failure) ∧
      ((outcome.report style elapsed).status = 0 ↔
        failure? = none ∧ done ≠ []) ∧
      ∀ (arguments : Arguments) (texts : List Text),
        arguments.input = .ok (.paths texts) →
          texts =
            if arguments.paths = [] then [['.']] else arguments.paths := by
  obtain ⟨done, last, failure?, hsteps, hends, hdisk, hrun⟩ :=
    run_generatePaths view options htree paths
  refine ⟨_, done, last, failure?, hrun, rfl, hsteps, hends, ?_, hdisk,
    ?_, ?_, ?_, ?_⟩
  · intro done' last' failure?' hsteps' hends'
    exact hsteps.unique htree hends hsteps' hends'
  · intro location hother
    exact hsteps.node?_eq hother
  · rintro failure rfl
    rfl
  · rw [Outcome.status_report_eq_zero_iff]
    cases failure? <;> simp
  · intro arguments texts hinput
    exact Arguments.paths_of_input hinput

end Command

theorem Disk.run_write {disk : Disk} {path contents : Bytes}
    {result : Except FileFault Disk}
    (hwrite : disk.write path contents = result) :
    (FileSystem.write path contents : StateM Disk _).run disk =
      (result.map fun _ => (), result.toOption.getD disk) := by
  have hget : (get : StateM Disk Disk).run disk = (disk, disk) := rfl
  show (get >>= _ : StateM Disk _).run disk = _
  rw [Command.run_bind_of_run hget, hwrite]
  cases result <;> rfl

/-- A disk shows itself. -/
def Disk.view : Command.DiskView Disk where
  disk disk := disk
  afterWrite disk path contents :=
    (disk.write path contents).toOption.getD disk
  run_workingDirectory _ := rfl
  run_kind? _ _ := rfl
  run_read _ _ := rfl
  run_filesBelow disk path files htree hwalk := by
    rw [(htree.walks_iff.mp hwalk).2]
    rfl
  run_write_ok disk path contents next hwrite := by
    rw [run_write hwrite, hwrite]
    exact ⟨rfl, rfl⟩
  run_write_error disk path contents fault hwrite := by
    rw [run_write hwrite]
    rfl

namespace Command

/-- A working directory with a directory, in which a template comes before a
file that is not text. -/
def damagedDisk : Disk :=
  ⟨[[119]], [([[119]], .directory), ([[119], [116]], .directory),
    ([[119], [116], [97, 46, 101]], .file [97]),
    ([[119], [116], [98, 46, 101]], .file [255])]⟩

theorem damagedDisk_walks :
    damagedDisk.Walks [116]
      [[116, 47, 97, 46, 101], [116, 47, 98, 46, 101]] := by
  have hlists :
      damagedDisk.Lists [[119], [116]] [[97, 46, 101], [98, 46, 101]] := by
    refine ⟨fun name => ⟨?_, ?_⟩, by decide⟩
    · intro hname
      rcases List.mem_pair.mp hname with rfl | rfl
      · exact ⟨_, rfl⟩
      · exact ⟨_, rfl⟩
    · rintro ⟨node, hnode⟩
      have hmem := Disk.mem_locations_of_node? hnode (by simp)
      simpa [damagedDisk, Disk.locations] using hmem
  exact ⟨_, _, rfl, hlists, .file rfl (.file rfl .done)⟩

theorem exists_compile_damagedDisk :
    ∃ code,
      compile damagedDisk.workingDirectory { extension := ['e'] }
        [116, 47, 97, 46, 101] ['a'] = .ok code := by
  have hrun : Segment.Run ['a'] [.text ['a']] [] :=
    @Segment.run_spell_of_wellFormed [.text ['a']] (by decide) (by decide)
  have hplaced :
      Placed (Utf8.decodeLossy [116, 47, 97, 46, 101]) false 1 [.text ['a']]
        [⟨.text ['a'], ⟨Utf8.decodeLossy [116, 47, 97, 46, 101], 1⟩⟩] :=
    .cons (.text _) (.nil _)
  have hparse := @parse_of_run { extension := ['e'] } _ _ _ _ hrun hplaced
  obtain ⟨file, hfile⟩ :=
    @Template.exists_file_of_headers_nil damagedDisk.workingDirectory
      ⟨[116, 47, 97, 46, 101],
        [⟨.text ['a'], ⟨Utf8.decodeLossy [116, 47, 97, 46, 101], 1⟩⟩]⟩
      ['t'] rfl rfl { extension := ['e'] }
  exact ⟨_, compile_eq_ok_iff.mpr ⟨_, file, hparse, hfile, rfl⟩⟩

/-- The template is generated, the damaged file ends the run, and the second
argument is never reached, so that it need not exist. -/
theorem run_writes_until_damaged_file :
    damagedDisk.IsTree ∧ ∃ outcome code,
      compile damagedDisk.workingDirectory { extension := ['e'] }
        [116, 47, 97, 46, 101] ['a'] = .ok code ∧
      (generatePaths { extension := ['e'] } [[116], [117]] :
          StateM Disk _).run damagedDisk =
        (outcome,
          damagedDisk.withFile [[119], [116], [97, 46, 101, 46, 103, 111]]
            (Utf8.encode code.text)) ∧
      outcome.written = [[116, 47, 97, 46, 101, 46, 103, 111]] ∧
      (outcome.report .plain []).status ≠ 0 := by
  have htree : damagedDisk.IsTree := by decide
  obtain ⟨code, hcode⟩ := exists_compile_damagedDisk
  have hwrite :
      damagedDisk.write [116, 47, 97, 46, 101, 46, 103, 111]
        (Utf8.encode code.text) =
      .ok (damagedDisk.withFile [[119], [116], [97, 46, 101, 46, 103, 111]]
        (Utf8.encode code.text)) := rfl
  have hother : ∀ source, [255] ≠ Utf8.encode source := by
    intro source hsource
    cases Utf8.decode?_eq_some_iff.mpr hsource
  have hsteps :
      Agenda.Steps { extension := ['e'] } ⟨damagedDisk, [], [[116], [117]]⟩
        [⟨[116, 47, 97, 46, 101], ['a'], code⟩]
        ⟨damagedDisk.withFile [[119], [116], [97, 46, 101, 46, 103, 111]]
            (Utf8.encode code.text),
          [[116, 47, 98, 46, 101]], [[117]]⟩ :=
    .step (.directory damagedDisk_walks)
      (.single (.template rfl hcode hwrite))
  obtain ⟨outcome, done, last, failure?, hrun, hwritten, -, -, hunique, -, -,
    -, hstatus, -⟩ :=
    run_writes_until_failure Disk.view { extension := ['e'] } [[116], [117]]
      damagedDisk htree .plain []
  obtain ⟨rfl, -, rfl⟩ := hunique _ _ (some _) hsteps (.notText rfl hother)
  refine ⟨htree, outcome, code, hcode, hrun, hwritten, ?_⟩
  simp [hstatus]

end Command
end Stencil
