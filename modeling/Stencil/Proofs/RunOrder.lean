import Stencil.Proofs.GenerateRun
import Stencil.Proofs.GrownDisk
import Stencil.Proofs.PathSpelling

/-!
# Runs in another order

A run sees the disk change under it, but never in a way that matters to it: it
adds outputs, and an output is not a template.  So what the arguments make
due, what each template yields and whether its output can be written are all
known from the disk that the run starts with.  Runs over the same arguments
then generate the same templates, in whatever order and however often.

Two templates that share an output are two spellings of one file and yield the
same code.  The last one to write an output therefore does not matter either,
and a run on the disk that it left behind writes what is there already.
-/

namespace Stencil
namespace Command

/-! ## What is known at the start -/

/-- The template at a path yields the code on the disk, and there is a place
for it. -/
structure Makes (options : Options) (disk : Disk)
    (made : Generation) : Prop where
  extension : hasExtension options.extension made.path = true
  read : disk.read made.path = .ok (Utf8.encode made.source)
  compiled : compile disk.workingDirectory options made.path made.source =
      .ok made.code
  writable : ∃ next, disk.write made.output made.contents = .ok next

inductive Due (options : Options) (disk : Disk) (argument : Bytes) :
    Bytes → Prop
  | file {location : Location} {contents : Bytes}
      (found : disk.locate argument = .ok (location, .file contents))
      (extension : hasExtension options.extension argument = true) :
      Due options disk argument argument
  | directory {path : Bytes} (below : path ∈ disk.filesBelow argument)
      (extension : hasExtension options.extension path = true) :
      Due options disk argument path

def Visitable (options : Options) (disk : Disk) (argument : Bytes) : Prop :=
  (∃ location, disk.locate argument = .ok (location, .directory)) ∨
    hasExtension options.extension argument = true ∧
      ∃ location contents,
        disk.locate argument = .ok (location, .file contents)

/-- The agenda leads to the template, as the disk at the start has it. -/
def Requested (options : Options) (start : Disk) (agenda : Agenda)
    (path : Bytes) : Prop :=
  path ∈ agenda.due ∨ ∃ argument ∈ agenda.arguments,
    Due options start argument path

/-- A run from the start can come to the agenda. -/
structure Along (options : Options) (start : Disk)
    (agenda : Agenda) : Prop where
  isTree : agenda.disk.IsTree
  grown : Disk.Grown start agenda.disk
  due : ∀ path ∈ agenda.due, hasExtension options.extension path = true

section

variable {options : Options} {start : Disk} {agenda next last : Agenda}
variable {made done : List Generation}

theorem extension?_ne_of_hasExtension
    (hextension : options.extension ≠ "go".toList) {path : Bytes}
    (hpath : hasExtension options.extension path = true) :
    Path.extension? path ≠ some Disk.outputExtension := by
  intro houtput
  rw [hasExtension, houtput, decide_eq_true_eq, Option.some.injEq] at hpath
  exact hextension (Utf8.encode_injective hpath).symm

theorem Along.step (halong : Along options start agenda)
    (hstep : agenda.Step options made next) : Along options start next := by
  refine ⟨hstep.isTree halong.isTree, ?_, ?_⟩
  · cases hstep with
    | file | directory => exact halong.grown
    | template read compiled written =>
        obtain ⟨output, -, htarget, hother, rfl⟩ :=
          Disk.write_eq_ok_iff.mp written
        obtain ⟨directory, name, -, -, -, hne, houtput⟩ :=
          halong.isTree.exists_output read htarget
        exact halong.grown.withFile ⟨directory, name, hne, houtput⟩ hother _
  · have hdue := halong.due
    cases hstep with
    | file found extension => simpa using extension
    | directory walk => simp
    | template read compiled written =>
        intro path hpath
        exact hdue path (List.mem_cons_of_mem _ hpath)

section

variable (hextension : options.extension ≠ "go".toList)
  (hstart : start.IsTree)
include hextension hstart

theorem Along.due_iff_of_file (halong : Along options start agenda)
    {argument contents : Bytes} {location : Location}
    (hfound : agenda.disk.locate argument = .ok (location, .file contents))
    (hargument : hasExtension options.extension argument = true)
    {path : Bytes} :
    Due options start argument path ↔ path = argument := by
  have hfile := (halong.grown.locate_file_iff hstart halong.isTree
    (extension?_ne_of_hasExtension hextension hargument)).mp hfound
  constructor
  · intro hdue
    cases hdue with
    | file => rfl
    | directory below extension =>
        obtain ⟨directory, relative, other, hlocate, -⟩ :=
          hstart.mem_filesBelow.mp below
        cases hfile.symm.trans hlocate
  · rintro rfl
    exact .file hfile hargument

theorem Along.due_iff_of_directory (halong : Along options start agenda)
    {argument : Bytes} {files : List Bytes}
    (hwalk : agenda.disk.Walks argument files) {path : Bytes} :
    Due options start argument path ↔
      path ∈ files.filter (hasExtension options.extension) := by
  obtain ⟨hkind, rfl⟩ := halong.isTree.walks_iff.mp hwalk
  obtain ⟨location, names, hlocate, -⟩ := hwalk
  have hdirectory := halong.grown.locate_directory_iff.mp hlocate
  rw [List.mem_filter]
  constructor
  · intro hdue
    cases hdue with
    | file found => cases hdirectory.symm.trans found
    | directory below extension =>
        refine ⟨?_, extension⟩
        exact (halong.grown.mem_filesBelow_iff hstart halong.isTree
          (extension?_ne_of_hasExtension hextension extension)).mpr below
  · rintro ⟨hbelow, hpath⟩
    refine .directory ?_ hpath
    exact (halong.grown.mem_filesBelow_iff hstart halong.isTree
      (extension?_ne_of_hasExtension hextension hpath)).mp hbelow

/-! ## One step -/

/-- A step generates some of the templates that the agenda leads to, and the
rest of the agenda leads to the others. -/
theorem Along.requested_iff (halong : Along options start agenda)
    (hstep : agenda.Step options made next) {path : Bytes} :
    Requested options start agenda path ↔
      (∃ generation ∈ made, generation.path = path) ∨
        Requested options start next path := by
  cases hstep with
  | file found extension =>
      simp [Requested,
        halong.due_iff_of_file hextension hstart found extension]
  | directory walk =>
      simp only [Requested, List.not_mem_nil, false_and, exists_false,
        false_or, List.mem_cons, exists_eq_or_imp,
        halong.due_iff_of_directory hextension hstart walk]
  | template read compiled written =>
      simp [Requested, or_assoc, eq_comm]

theorem Along.makes (halong : Along options start agenda)
    (hstep : agenda.Step options made next) :
    ∀ generation ∈ made, Makes options start generation := by
  have hdue := halong.due
  cases hstep with
  | file | directory => simp
  | @template disk next path source code due arguments read
        compiled written =>
      have hpath := hdue path List.mem_cons_self
      intro generation hgeneration
      rw [List.mem_singleton] at hgeneration
      subst hgeneration
      refine ⟨hpath, ?_, ?_, ?_⟩
      · exact (halong.grown.read_iff hstart halong.isTree
          (extension?_ne_of_hasExtension hextension hpath)).mp read
      · rw [← halong.grown.workingDirectory]
        exact compiled
      · exact halong.grown.exists_write_iff.mp ⟨_, written⟩

theorem Along.visitable (halong : Along options start agenda)
    (hstep : agenda.Step options made next) :
    ∀ argument ∈ agenda.arguments,
      argument ∈ next.arguments ∨ Visitable options start argument := by
  intro argument hargument
  cases hstep with
  | file found extension =>
      rcases List.mem_cons.mp hargument with rfl | hlater
      · have hfile := (halong.grown.locate_file_iff hstart halong.isTree
          (extension?_ne_of_hasExtension hextension extension)).mp found
        exact .inr (.inr ⟨extension, _, _, hfile⟩)
      · exact .inl hlater
  | directory walk =>
      rcases List.mem_cons.mp hargument with rfl | hlater
      · obtain ⟨location, names, hlocate, -⟩ := walk
        exact .inr
          (.inl ⟨location, halong.grown.locate_directory_iff.mp hlocate⟩)
      · exact .inl hlater
  | template => exact .inl hargument

/-! ## Many steps -/

omit hextension hstart in
theorem Along.steps (halong : Along options start agenda)
    (hsteps : agenda.Steps options done last) : Along options start last := by
  induction hsteps with
  | refl => exact halong
  | step first others ih => exact ih (halong.step first)

theorem Along.requested_iff_of_steps (halong : Along options start agenda)
    (hsteps : agenda.Steps options done last) {path : Bytes} :
    Requested options start agenda path ↔
      (∃ generation ∈ done, generation.path = path) ∨
        Requested options start last path := by
  induction hsteps with
  | refl => simp
  | step first others ih =>
      rw [halong.requested_iff hextension hstart first,
        ih (halong.step first), ← or_assoc]
      simp only [List.mem_append, or_and_right, exists_or]

theorem Along.makes_of_steps (halong : Along options start agenda)
    (hsteps : agenda.Steps options done last) :
    ∀ generation ∈ done, Makes options start generation := by
  induction hsteps with
  | refl => simp
  | step first others ih =>
      intro generation hgeneration
      rcases List.mem_append.mp hgeneration with hmade | hdone
      · exact halong.makes hextension hstart first generation hmade
      · exact ih (halong.step first) generation hdone

theorem Along.visitable_of_steps (halong : Along options start agenda)
    (hsteps : agenda.Steps options done last) :
    ∀ argument ∈ agenda.arguments,
      argument ∈ last.arguments ∨ Visitable options start argument := by
  induction hsteps with
  | refl => exact fun argument hargument => .inl hargument
  | step first others ih =>
      intro argument hargument
      rcases halong.visitable hextension hstart first argument hargument with
        hnext | hvisitable
      · exact ih (halong.step first) argument hnext
      · exact .inr hvisitable

end

theorem Makes.unique {generation other : Generation}
    (hmakes : Makes options start generation)
    (hother : Makes options start other)
    (hpath : other.path = generation.path) :
    other = generation := by
  obtain ⟨path, source, code⟩ := generation
  obtain ⟨_, otherSource, otherCode⟩ := other
  obtain rfl : _ = path := hpath
  cases Utf8.encode_injective
    (Except.ok.inj (hmakes.read.symm.trans hother.read))
  cases hmakes.compiled.symm.trans hother.compiled
  rfl

/-! ## Runs that succeed -/

/-- Nothing on the agenda will fail. -/
structure Sound (options : Options) (start : Disk)
    (agenda : Agenda) : Prop where
  makes : ∀ path, Requested options start agenda path →
    ∃ generation, generation.path = path ∧ Makes options start generation
  visitable : ∀ argument ∈ agenda.arguments, Visitable options start argument

section

variable (hextension : options.extension ≠ "go".toList)
  (hstart : start.IsTree)
include hextension hstart

theorem Sound.step_of_not_finished (hsound : Sound options start agenda)
    (halong : Along options start agenda) (hunfinished : ¬ agenda.Finished) :
    ∃ made next, agenda.Step options made next := by
  obtain ⟨disk, due, arguments⟩ := agenda
  cases due with
  | cons path due =>
      obtain ⟨⟨_, source, code⟩, rfl, hmakes⟩ :=
        hsound.makes path (.inl List.mem_cons_self)
      have hread := (halong.grown.read_iff hstart halong.isTree
        (extension?_ne_of_hasExtension hextension hmakes.extension)).mpr
          hmakes.read
      have hcompiled := hmakes.compiled
      rw [← halong.grown.workingDirectory] at hcompiled
      obtain ⟨next, hwrite⟩ :=
        halong.grown.exists_write_iff.mpr hmakes.writable
      exact ⟨_, _, .template hread hcompiled hwrite⟩
  | nil =>
      cases arguments with
      | nil => exact absurd ⟨rfl, rfl⟩ hunfinished
      | cons argument arguments =>
          rcases hsound.visitable argument List.mem_cons_self with
            ⟨location, hlocate⟩ | ⟨hargument, location, contents, hlocate⟩
          · have hkind : disk.kind? argument = some .directory := by
              rw [Disk.kind?, halong.grown.locate_directory_iff.mpr hlocate]
              rfl
            exact ⟨_, _,
              .directory (halong.isTree.walks_iff.mpr ⟨hkind, rfl⟩)⟩
          · have hfile := (halong.grown.locate_file_iff hstart halong.isTree
              (extension?_ne_of_hasExtension hextension hargument)).mpr
                hlocate
            exact ⟨_, _, .file hfile hargument⟩

theorem Sound.steps (hsound : Sound options start agenda)
    (halong : Along options start agenda)
    (hsteps : agenda.Steps options done last) : Sound options start last := by
  constructor
  · intro path hpath
    exact hsound.makes path
      ((halong.requested_iff_of_steps hextension hstart hsteps).mpr
        (.inr hpath))
  · intro argument hargument
    exact hsound.visitable argument (hsteps.arguments_subset hargument)

theorem Sound.failure?_eq_none (hsound : Sound options start agenda)
    (halong : Along options start agenda)
    (hsteps : agenda.Steps options done last) {failure? : Option Failure}
    (hends : last.Ends options failure?) : failure? = none := by
  cases failure? with
  | none => rfl
  | some failure =>
      obtain ⟨made, next, hstep⟩ :=
        (hsound.steps hextension hstart halong hsteps).step_of_not_finished
          hextension hstart
          (halong.steps hsteps) (Agenda.Fails.not_finished hends)
      exact absurd hends (hstep.not_fails failure)

/-- A run without a failure generates all templates that its arguments lead
to, as the disk at the start has them. -/
theorem Along.mem_done_iff (halong : Along options start agenda)
    (hsteps : agenda.Steps options done last) (hfinished : last.Finished)
    {generation : Generation} :
    generation ∈ done ↔
      Makes options start generation ∧
        Requested options start agenda generation.path := by
  have hnone : ¬ Requested options start last generation.path := by
    simp [Requested, hfinished.1, hfinished.2]
  rw [halong.requested_iff_of_steps hextension hstart hsteps,
    or_iff_left hnone]
  constructor
  · intro hgeneration
    exact ⟨halong.makes_of_steps hextension hstart hsteps generation
        hgeneration, generation, hgeneration, rfl⟩
  · rintro ⟨hmakes, other, hother, hpath⟩
    have hmakes' :=
      halong.makes_of_steps hextension hstart hsteps other hother
    rwa [hmakes'.unique hmakes hpath.symm]

theorem Along.sound_of_finished (halong : Along options start agenda)
    (hsteps : agenda.Steps options done last) (hfinished : last.Finished) :
    Sound options start agenda := by
  constructor
  · intro path hpath
    rcases (halong.requested_iff_of_steps hextension hstart hsteps).mp hpath
      with ⟨generation, hgeneration, rfl⟩ | hlast
    · exact ⟨generation, rfl,
        halong.makes_of_steps hextension hstart hsteps generation hgeneration⟩
    · simp [Requested, hfinished.1, hfinished.2] at hlast
  · intro argument hargument
    rcases halong.visitable_of_steps hextension hstart hsteps argument
      hargument with hlast | hvisitable
    · simp [hfinished.2] at hlast
    · exact hvisitable

end

theorem Along.refl (hstart : start.IsTree) (paths : List Bytes) :
    Along options start ⟨start, [], paths⟩ :=
  ⟨hstart, .refl start, nofun⟩

/-! ## One output, one content -/

theorem Makes.contents_eq (hview : options.generateView = false)
    (hstart : start.IsTree) {generation other : Generation}
    (hmakes : Makes options start generation)
    (hother : Makes options start other)
    (houtput : Path.resolve start.workingDirectory other.output =
      Path.resolve start.workingDirectory generation.output) :
    other.contents = generation.contents := by
  obtain ⟨-, place, htarget, -⟩ :=
    Disk.exists_write_eq_ok_iff.mp hmakes.writable
  obtain ⟨-, place', htarget', -⟩ :=
    Disk.exists_write_eq_ok_iff.mp hother.writable
  rw [Disk.resolve_of_target htarget,
    Disk.resolve_of_target htarget'] at houtput
  obtain ⟨directory, name, hnode, hfile, hname, -, rfl⟩ :=
    hstart.exists_output hmakes.read htarget
  obtain ⟨directory', name', hnode', hfile', hname', -, rfl⟩ :=
    hstart.exists_output hother.read htarget'
  -- The names of both outputs end alike, so the templates have one location.
  obtain ⟨rfl, hlast⟩ := List.append_inj' houtput rfl
  obtain rfl := List.append_cancel_right (List.singleton_inj.mp hlast)
  have hsource : other.source = generation.source := by
    have hcontents := hnode'.symm.trans hnode
    rw [Option.some.injEq, Node.file.injEq] at hcontents
    exact Utf8.encode_injective hcontents
  have hresolve : Path.resolve start.workingDirectory other.path =
      Path.resolve start.workingDirectory generation.path := by
    rw [Disk.resolve_of_target hfile, Disk.resolve_of_target hfile']
  have hcode :=
    compile_of_spelling hview hname hname' hresolve hmakes.compiled
  rw [← hsource, hother.compiled, Except.ok.injEq] at hcode
  rw [Generation.contents, hcode, Generation.contents]

theorem Along.node?_output (hextension : options.extension ≠ "go".toList)
    (hview : options.generateView = false) (hstart : start.IsTree)
    (halong : Along options start agenda)
    (hsteps : agenda.Steps options done last) {generation : Generation}
    (hgeneration : generation ∈ done) :
    last.disk.node? (Path.resolve start.workingDirectory generation.output) =
      some (.file generation.contents) := by
  have hmakes := halong.makes_of_steps hextension hstart hsteps
  rw [← halong.grown.workingDirectory]
  refine hsteps.node?_output ?_ (.inr ⟨generation, hgeneration, rfl⟩)
  intro other hother houtput
  rw [halong.grown.workingDirectory] at houtput
  exact (hmakes generation hgeneration).contents_eq hview hstart
    (hmakes other hother) houtput

theorem node?_eq_of_same_generations
    (hextension : options.extension ≠ "go".toList)
    (hview : options.generateView = false) (hstart : start.IsTree)
    {paths others : List Bytes} {done' : List Generation} {last' : Agenda}
    (hsteps : Agenda.Steps options ⟨start, [], paths⟩ done last)
    (hsteps' : Agenda.Steps options ⟨start, [], others⟩ done' last')
    (hmem : ∀ generation, generation ∈ done' ↔ generation ∈ done)
    (location : Location) :
    last'.disk.node? location = last.disk.node? location := by
  by_cases hwritten : ∃ generation ∈ done,
      Path.resolve start.workingDirectory generation.output = location
  · obtain ⟨generation, hgeneration, rfl⟩ := hwritten
    rw [(Along.refl hstart paths).node?_output hextension hview hstart hsteps
        hgeneration,
      (Along.refl hstart others).node?_output hextension hview hstart hsteps'
        ((hmem generation).mpr hgeneration)]
  · have hother (generation : Generation) (hgeneration : generation ∈ done) :
        Path.resolve start.workingDirectory generation.output ≠ location :=
      fun hlocation => hwritten ⟨generation, hgeneration, hlocation⟩
    rw [hsteps.node?_eq hother,
      hsteps'.node?_eq fun generation hgeneration =>
        hother generation ((hmem generation).mp hgeneration)]

end

/-! ## The command -/

def Outcome.Succeeds (outcome : Outcome) : Prop :=
  ∀ style elapsed, (outcome.report style elapsed).status = 0

theorem Outcome.succeeds_iff {outcome : Outcome} :
    outcome.Succeeds ↔ outcome.failure? = none := by
  simp only [Succeeds, status_report_eq_zero_iff]
  exact ⟨fun h => h .plain [], fun h _ _ => h⟩

section

variable {σ : Type} [FileSystem (StateM σ)]

/-- The outcome of the command and the state that it leaves. -/
def runOn (options : Options) (paths : List Bytes) (state : σ) :
    Outcome × σ :=
  (generatePaths options paths : StateM σ _).run state

theorem steps_of_succeeds (view : DiskView σ) {options : Options}
    {paths : List Bytes} {state : σ} (htree : (view.disk state).IsTree)
    (hsucceeds : (runOn options paths state).1.Succeeds) :
    ∃ done last, Agenda.Steps options ⟨view.disk state, [], paths⟩ done last ∧
      last.Finished ∧ done ≠ [] ∧ view.disk (runOn options paths state).2 =
        last.disk := by
  obtain ⟨done, last, failure?, hsteps, hends, hdisk, hrun⟩ :=
    run_generatePaths view options htree paths
  rw [runOn, hrun, Outcome.succeeds_iff] at hsucceeds
  rw [runOn, hrun]
  cases failure? with
  | none =>
      refine ⟨done, last, hsteps, hends, ?_, hdisk⟩
      rintro rfl
      simp at hsucceeds
  | some failure => simp at hsucceeds

/-- After a run that succeeded, a run over the same arguments generates the
same templates, whatever outputs are there already. -/
theorem rerun_steps (view : DiskView σ) {options : Options} {start : Disk}
    {paths others : List Bytes} {done : List Generation}
    {last : Agenda} {state : σ} (hextension : options.extension ≠ "go".toList)
    (hstart : start.IsTree) (hsame : ∀ path, path ∈ others ↔ path ∈ paths)
    (hsteps : Agenda.Steps options ⟨start, [], paths⟩ done last)
    (hfinished : last.Finished) (hdone : done ≠ [])
    (halong : Along options start ⟨view.disk state, [], others⟩) :
    ∃ done' last',
      Agenda.Steps options ⟨view.disk state, [], others⟩ done' last' ∧
      (∀ generation, generation ∈ done' ↔ generation ∈ done) ∧
      (runOn options others state).1.Succeeds ∧
      view.disk (runOn options others state).2 = last'.disk := by
  have hfirst : Along options start ⟨start, [], paths⟩ := .refl hstart paths
  have hrequested (path : Bytes) :
      Requested options start ⟨view.disk state, [], others⟩ path ↔
        Requested options start ⟨start, [], paths⟩ path := by
    simp only [Requested, hsame]
  have hsound : Sound options start ⟨view.disk state, [], others⟩ := by
    have hsound := hfirst.sound_of_finished hextension hstart hsteps hfinished
    constructor
    · intro path hpath
      exact hsound.makes path ((hrequested path).mp hpath)
    · intro argument hargument
      exact hsound.visitable argument ((hsame argument).mp hargument)
  obtain ⟨done', last', failure?, hsteps', hends, hdisk, hrun⟩ :=
    run_generatePaths view options halong.isTree others
  obtain rfl := hsound.failure?_eq_none hextension hstart halong hsteps' hends
  have hmem (generation : Generation) : generation ∈ done' ↔
      generation ∈ done := by
    rw [halong.mem_done_iff hextension hstart hsteps' hends,
      hfirst.mem_done_iff hextension hstart hsteps hfinished, hrequested]
  have hdone' : done' ≠ [] := by
    rintro rfl
    exact hdone (List.eq_nil_iff_forall_not_mem.mpr fun generation =>
      by simp [← hmem])
  refine ⟨done', last', hsteps', hmem, ?_, ?_⟩
  · rw [runOn, hrun, Outcome.succeeds_iff]
    simp [hdone']
  · rw [runOn, hrun]
    exact hdisk

/-- Runs over the same arguments leave the same tree, in whatever order the
arguments come and however often, and a run on that tree changes nothing. -/
theorem runs_over_same_arguments_agree (view : DiskView σ) {options : Options}
    (hview : options.generateView = false)
    (hextension : options.extension ≠ "go".toList) {paths others : List Bytes}
    (hsame : ∀ path, path ∈ others ↔ path ∈ paths) (start : σ)
    (htree : (view.disk start).IsTree)
    (hsucceeds : (runOn options paths start).1.Succeeds) :
    let final := (runOn options paths start).2
    ((runOn options others start).1.Succeeds ∧
      (view.disk (runOn options others start).2).workingDirectory =
        (view.disk final).workingDirectory ∧
      ∀ location, (view.disk (runOn options others start).2).node? location =
        (view.disk final).node? location) ∧
    (runOn options others final).1.Succeeds ∧
      view.disk (runOn options others final).2 = view.disk final := by
  intro final
  obtain ⟨done, last, hsteps, hfinished, hdone, hfinal⟩ :=
    steps_of_succeeds view htree hsucceeds
  have halong :
      Along options (view.disk start) ⟨view.disk start, [], paths⟩ :=
    .refl htree paths
  have hlast := halong.steps hsteps
  constructor
  · obtain ⟨done', last', hsteps', hmem, hsucceeds', hdisk⟩ :=
      rerun_steps view hextension htree hsame hsteps hfinished hdone
        (.refl htree others)
    rw [hdisk, hfinal]
    refine ⟨hsucceeds', ?_, ?_⟩
    · rw [hsteps'.workingDirectory_eq, hsteps.workingDirectory_eq]
    · exact node?_eq_of_same_generations hextension hview htree hsteps
        hsteps' hmem
  · have hagain :
        Along options (view.disk start) ⟨view.disk final, [], others⟩ := by
      rw [hfinal]
      exact ⟨hlast.isTree, hlast.grown, nofun⟩
    obtain ⟨done', last', hsteps', hmem, hsucceeds', hdisk⟩ :=
      rerun_steps view hextension htree hsame hsteps hfinished hdone hagain
    refine ⟨hsucceeds', ?_⟩
    rw [hdisk]
    apply hsteps'.disk_eq
    intro generation hgeneration
    show (view.disk final).node?
        (Path.resolve (view.disk final).workingDirectory _) = _
    rw [hfinal, hlast.grown.workingDirectory]
    exact halong.node?_output hextension hview htree hsteps
      ((hmem generation).mp hgeneration)

theorem succeeds_of_steps (view : DiskView σ) {options : Options}
    {paths : List Bytes} {state : σ} {done : List Generation} {last : Agenda}
    (htree : (view.disk state).IsTree)
    (hsteps : Agenda.Steps options ⟨view.disk state, [], paths⟩ done last)
    (hfinished : last.Finished) (hdone : done ≠ []) :
    (runOn options paths state).1.Succeeds := by
  obtain ⟨done', last', failure?, hsteps', hends, -, hrun⟩ :=
    run_generatePaths view options htree paths
  have hnone : last.Ends options none := hfinished
  obtain ⟨rfl, -, rfl⟩ := hsteps'.unique htree hends hsteps hnone
  rw [runOn, hrun, Outcome.succeeds_iff]
  simp [hdone]

end

/-- A template under two spellings, one of which is given twice the second
time. -/
theorem runs_over_same_arguments_agree_on_spellings :
    let paths : List Bytes :=
      [[116, 47, 97, 46, 101], [46, 47, 116, 47, 97, 46, 101]]
    let others : List Bytes :=
      [[46, 47, 116, 47, 97, 46, 101], [116, 47, 97, 46, 101],
        [46, 47, 116, 47, 97, 46, 101]]
    let options : Options := { extension := ['e'] }
    damagedDisk.IsTree ∧ (runOn options paths damagedDisk).1.Succeeds ∧
      (runOn options others damagedDisk).1.Succeeds ∧
      (runOn options others (runOn options paths damagedDisk).2).2 =
        (runOn options paths damagedDisk).2 := by
  intro paths others options
  have htree : damagedDisk.IsTree := by decide
  obtain ⟨code, hcode⟩ := exists_compile_damagedDisk
  have hcode' :
      compile damagedDisk.workingDirectory options
        [46, 47, 116, 47, 97, 46, 101] ['a'] = .ok code :=
    @compile_of_spelling _ _ [116, 47, 97, 46, 101] _ [97, 46, 101] _ _ rfl
      rfl rfl rfl hcode
  have hsteps : Agenda.Steps options ⟨damagedDisk, [], paths⟩
      [⟨[116, 47, 97, 46, 101], ['a'], code⟩,
        ⟨[46, 47, 116, 47, 97, 46, 101], ['a'], code⟩]
      ⟨(damagedDisk.withFile [[119], [116], [97, 46, 101, 46, 103, 111]]
          (Utf8.encode code.text)).withFile
            [[119], [116], [97, 46, 101, 46, 103, 111]]
            (Utf8.encode code.text), [], []⟩ :=
    .step (.file rfl rfl) (.step (.template rfl hcode rfl)
      (.step (.file rfl rfl) (.single (.template rfl hcode' rfl))))
  have hsucceeds : (runOn options paths damagedDisk).1.Succeeds :=
    succeeds_of_steps Disk.view htree hsteps ⟨rfl, rfl⟩ (by simp)
  have hsame : ∀ path, path ∈ others ↔ path ∈ paths := by
    simp [others, paths, or_comm, or_left_comm]
  obtain ⟨⟨hothers, -⟩, -, hagain⟩ :=
    runs_over_same_arguments_agree Disk.view rfl (by decide) hsame damagedDisk
      htree hsucceeds
  exact ⟨htree, hsucceeds, hothers, hagain⟩

end Command
end Stencil
