import Stencil.Command.Generate
import Stencil.Proofs.DirectoryWalk
import Stencil.Proofs.Utf8Decoding

/-!
# Runs step by step

A run has arguments that it has not visited yet and templates that are due at
the argument it visited last.  A step visits the next argument if nothing is
due, and otherwise it generates the code of the next template.  Whatever a
step needs of the disk, it asks of the disk as it is at that moment.

An agenda on which no step is possible is finished or fails, and never both.
Since there is at most one step at any moment, a run that ends is the only
one.
-/

namespace Stencil
namespace Command

/-- A template whose code was generated. -/
structure Generation where
  path : Bytes
  source : Text
  code : Code

def Generation.output (generation : Generation) : Bytes :=
  generation.path ++ Utf8.encode ".go".toList

def Generation.contents (generation : Generation) : Bytes :=
  Utf8.encode generation.code.text

/-- What a run still has to do. -/
structure Agenda where
  disk : Disk
  due : List Bytes
  arguments : List Bytes

namespace Agenda

inductive Step (options : Options) : Agenda → List Generation → Agenda → Prop
  | file {disk : Disk} {path contents : Bytes} {location : Location}
      {arguments : List Bytes}
      (found : disk.locate path = .ok (location, .file contents))
      (extension : hasExtension options.extension path = true) :
      Step options ⟨disk, [], path :: arguments⟩ [] ⟨disk, [path], arguments⟩
  | directory {disk : Disk} {path : Bytes} {files arguments : List Bytes}
      (walk : disk.Walks path files) :
      Step options ⟨disk, [], path :: arguments⟩ []
        ⟨disk, files.filter (hasExtension options.extension), arguments⟩
  | template {disk next : Disk} {path : Bytes} {source : Text} {code : Code}
      {due arguments : List Bytes}
      (read : disk.read path = .ok (Utf8.encode source))
      (compiled : compile disk.workingDirectory options path source =
        .ok code)
      (written : disk.write (Generation.output ⟨path, source, code⟩)
        (Generation.contents ⟨path, source, code⟩) = .ok next) :
      Step options ⟨disk, path :: due, arguments⟩ [⟨path, source, code⟩]
        ⟨next, due, arguments⟩

/-- The next visit fails. -/
inductive Fails (options : Options) : Agenda → Failure → Prop
  | missing {disk : Disk} {path : Bytes} {fault : FileFault}
      {arguments : List Bytes} (lost : disk.locate path = .error fault) :
      Fails options ⟨disk, [], path :: arguments⟩ (.missing path)
  | wrongExtension {disk : Disk} {path contents : Bytes} {location : Location}
      {arguments : List Bytes}
      (found : disk.locate path = .ok (location, .file contents))
      (extension : hasExtension options.extension path = false) :
      Fails options ⟨disk, [], path :: arguments⟩
        (.wrongExtension path options.extension)
  | unreadable {disk : Disk} {path : Bytes} {fault : FileFault}
      {due arguments : List Bytes} (unread : disk.read path = .error fault) :
      Fails options ⟨disk, path :: due, arguments⟩
        (.uncompiled (.unreadable path fault) [])
  | notText {disk : Disk} {path contents : Bytes} {due arguments : List Bytes}
      (read : disk.read path = .ok contents)
      (other : ∀ source, contents ≠ Utf8.encode source) :
      Fails options ⟨disk, path :: due, arguments⟩
        (.uncompiled (.unreadable path .invalidText) [])
  | uncompiled {disk : Disk} {path : Bytes} {source : Text}
      {error : CompileError} {due arguments : List Bytes}
      (read : disk.read path = .ok (Utf8.encode source))
      (refused : compile disk.workingDirectory options path source =
        .error error) :
      Fails options ⟨disk, path :: due, arguments⟩ (.uncompiled error source)
  | unwritable {disk : Disk} {path : Bytes} {source : Text} {code : Code}
      {fault : FileFault} {due arguments : List Bytes}
      (read : disk.read path = .ok (Utf8.encode source))
      (compiled : compile disk.workingDirectory options path source =
        .ok code)
      (unwritten : disk.write (Generation.output ⟨path, source, code⟩)
        (Generation.contents ⟨path, source, code⟩) = .error fault) :
      Fails options ⟨disk, path :: due, arguments⟩
        (.unwritable (Generation.output ⟨path, source, code⟩) fault)

/-- Steps one after the other, and the templates generated on the way. -/
inductive Steps (options : Options) : Agenda → List Generation → Agenda → Prop
  | refl (agenda : Agenda) : Steps options agenda [] agenda
  | step {agenda next last : Agenda} {made done : List Generation}
      (first : Step options agenda made next)
      (others : Steps options next done last) :
      Steps options agenda (made ++ done) last

def Finished (agenda : Agenda) : Prop :=
  agenda.due = [] ∧ agenda.arguments = []

/-- The run ends here, with a failure or without. -/
def Ends (options : Options) (agenda : Agenda)
    (failure? : Option Failure) : Prop :=
  failure?.elim agenda.Finished (agenda.Fails options)

variable {options : Options} {agenda next last : Agenda}
  {made done more : List Generation}

theorem Steps.single (hstep : Step options agenda made next) :
    Steps options agenda made next := by
  simpa using Steps.step hstep (.refl next)

theorem Steps.trans (hsteps : Steps options agenda done next)
    (hmore : Steps options next more last) :
    Steps options agenda (done ++ more) last := by
  induction hsteps with
  | refl => exact hmore
  | step first others ih =>
      rw [List.append_assoc]
      exact .step first (ih hmore)

theorem Step.arguments_subset (hstep : Step options agenda made next) :
    next.arguments ⊆ agenda.arguments := by
  cases hstep with
  | file | directory => exact List.subset_cons_self _ _
  | template => exact List.Subset.refl _

theorem Steps.arguments_subset (hsteps : Steps options agenda done last) :
    last.arguments ⊆ agenda.arguments := by
  induction hsteps with
  | refl => exact List.Subset.refl _
  | step first others ih => exact List.Subset.trans ih first.arguments_subset

/-! ## What a step does to the disk -/

theorem Step.isTree (hstep : Step options agenda made next)
    (htree : agenda.disk.IsTree) :
    next.disk.IsTree := by
  cases hstep with
  | file | directory => exact htree
  | template read compiled written => exact htree.afterWrite written

theorem Step.workingDirectory_eq (hstep : Step options agenda made next) :
    next.disk.workingDirectory = agenda.disk.workingDirectory := by
  cases hstep with
  | file | directory => rfl
  | template read compiled written =>
      obtain ⟨location, -, -, -, rfl⟩ := Disk.write_eq_ok_iff.mp written
      rfl

theorem Step.node?_eq (hstep : Step options agenda made next)
    {location : Location} (hother : ∀ generation ∈ made,
      Path.resolve agenda.disk.workingDirectory generation.output ≠
        location) :
    next.disk.node? location = agenda.disk.node? location := by
  cases hstep with
  | file | directory => rfl
  | template read compiled written =>
      obtain ⟨place, -, htarget, hnode, rfl⟩ :=
        Disk.write_eq_ok_iff.mp written
      have hplace := hother _ (List.mem_singleton.mpr rfl)
      rw [Disk.resolve_of_target htarget] at hplace
      rw [Disk.node?_withFile hnode, if_neg (Ne.symm hplace)]

theorem Steps.isTree (hsteps : Steps options agenda done last)
    (htree : agenda.disk.IsTree) :
    last.disk.IsTree := by
  induction hsteps with
  | refl => exact htree
  | step first others ih => exact ih (first.isTree htree)

theorem Steps.workingDirectory_eq (hsteps : Steps options agenda done last) :
    last.disk.workingDirectory = agenda.disk.workingDirectory := by
  induction hsteps with
  | refl => rfl
  | step first others ih => rw [ih, first.workingDirectory_eq]

theorem Steps.node?_eq (hsteps : Steps options agenda done last)
    {location : Location} (hother : ∀ generation ∈ done,
      Path.resolve agenda.disk.workingDirectory generation.output ≠
        location) :
    last.disk.node? location = agenda.disk.node? location := by
  induction hsteps with
  | refl => rfl
  | step first others ih =>
      rw [ih ?_, first.node?_eq fun generation hmem =>
        hother generation (by simp [hmem])]
      intro generation hmem
      rw [first.workingDirectory_eq]
      exact hother generation (by simp [hmem])

/-- What the writes to a location agree on is there at the end. -/
theorem Steps.node?_output (hsteps : Steps options agenda done last)
    {location : Location} {contents : Bytes}
    (hsame : ∀ generation ∈ done,
      Path.resolve agenda.disk.workingDirectory generation.output = location →
        generation.contents = contents)
    (hwritten : agenda.disk.node? location = some (.file contents) ∨
      ∃ generation ∈ done,
        Path.resolve agenda.disk.workingDirectory generation.output =
          location) :
    last.disk.node? location = some (.file contents) := by
  induction hsteps with
  | refl => simpa using hwritten
  | step first others ih =>
      cases first with
      | file | directory => exact ih hsame hwritten
      | template read compiled written =>
          obtain ⟨place, -, htarget, hnode, rfl⟩ :=
            Disk.write_eq_ok_iff.mp written
          have hplace := Disk.resolve_of_target htarget
          apply ih
          · intro generation hgeneration
            exact hsame generation (List.mem_cons_of_mem _ hgeneration)
          · -- A later write to the place agrees with this one, so it may be
            -- the last or not.
            rw [Disk.node?_withFile hnode]
            by_cases hhere : location = place
            · rw [if_pos hhere,
                hsame _ List.mem_cons_self (hplace.trans hhere.symm)]
              exact .inl rfl
            · rw [if_neg hhere]
              refine hwritten.imp_right ?_
              rintro ⟨generation, hgeneration, hlocation⟩
              rcases List.mem_cons.mp hgeneration with rfl | hlater
              · exact absurd (hlocation.symm.trans hplace) hhere
              · exact ⟨generation, hlater, hlocation⟩

/-- Writing what is there already leaves the disk as it is. -/
theorem Steps.disk_eq (hsteps : Steps options agenda done last)
    (hthere : ∀ generation ∈ done,
      agenda.disk.node?
        (Path.resolve agenda.disk.workingDirectory generation.output) =
        some (.file generation.contents)) : last.disk = agenda.disk := by
  induction hsteps with
  | refl => rfl
  | step first others ih =>
      cases first with
      | file | directory => exact ih hthere
      | template read compiled written =>
          obtain ⟨place, -, htarget, hnode, rfl⟩ :=
            Disk.write_eq_ok_iff.mp written
          have hplace := hthere _ List.mem_cons_self
          rw [Disk.resolve_of_target htarget] at hplace
          rw [Disk.withFile_of_node? hplace] at ih
          exact ih fun generation hgeneration =>
            hthere generation (List.mem_cons_of_mem _ hgeneration)

/-! ## There is one run only -/

theorem Step.unique {made' : List Generation} {next' : Agenda}
    (htree : agenda.disk.IsTree) (hstep : Step options agenda made next)
    (hother : Step options agenda made' next') :
    made' = made ∧ next' = next := by
  cases hstep with
  | file found extension =>
      cases hother with
      | file => exact ⟨rfl, rfl⟩
      | directory walk =>
          obtain ⟨directory, names, hlocate, -⟩ := walk
          cases found.symm.trans hlocate
  | directory walk =>
      cases hother with
      | file found extension =>
          obtain ⟨directory, names, hlocate, -⟩ := walk
          cases found.symm.trans hlocate
      | directory walk' =>
          rw [(htree.walks_iff.mp walk).2, (htree.walks_iff.mp walk').2]
          exact ⟨rfl, rfl⟩
  | template read compiled written =>
      cases hother with
      | template read' compiled' written' =>
          cases Utf8.encode_injective (Except.ok.inj (read.symm.trans read'))
          cases compiled.symm.trans compiled'
          cases written.symm.trans written'
          exact ⟨rfl, rfl⟩

theorem Step.not_finished (hstep : Step options agenda made next) :
    ¬ agenda.Finished := by
  cases hstep <;> simp [Finished]

theorem Step.not_fails (hstep : Step options agenda made next)
    (failure : Failure) :
    ¬ agenda.Fails options failure := by
  intro hfails
  cases hstep with
  | file found extension =>
      cases hfails with
      | missing lost => cases found.symm.trans lost
      | wrongExtension found' extension' =>
          cases extension.symm.trans extension'
  | directory walk =>
      obtain ⟨directory, names, hlocate, -⟩ := walk
      cases hfails with
      | missing lost => cases hlocate.symm.trans lost
      | wrongExtension found extension => cases hlocate.symm.trans found
  | template read compiled written =>
      cases hfails with
      | unreadable unread => cases read.symm.trans unread
      | notText read' other =>
          exact other _ (Except.ok.inj (read'.symm.trans read))
      | uncompiled read' refused =>
          cases Utf8.encode_injective (Except.ok.inj (read.symm.trans read'))
          cases compiled.symm.trans refused
      | unwritable read' compiled' unwritten =>
          cases Utf8.encode_injective (Except.ok.inj (read.symm.trans read'))
          cases compiled.symm.trans compiled'
          cases written.symm.trans unwritten

theorem Fails.unique {failure failure' : Failure}
    (hfails : agenda.Fails options failure)
    (hfails' : agenda.Fails options failure') : failure' = failure := by
  -- Each failure is about another answer of the disk or of the compiler.
  cases hfails <;> cases hfails' <;> grind [Utf8.decode?_encode]

theorem Fails.not_finished {failure : Failure}
    (hfails : agenda.Fails options failure) :
    ¬ agenda.Finished := by
  cases hfails <;> simp [Finished]

theorem Ends.unique {failure? failure?' : Option Failure}
    (hends : agenda.Ends options failure?)
    (hends' : agenda.Ends options failure?') :
    failure?' = failure? := by
  cases failure? with
  | none =>
      cases failure?' with
      | none => rfl
      | some failure' => exact absurd hends (Fails.not_finished hends')
  | some failure =>
      cases failure?' with
      | none => exact absurd hends' (Fails.not_finished hends)
      | some failure' => exact congrArg some (Fails.unique hends hends')

theorem Ends.not_step {failure? : Option Failure}
    (hends : agenda.Ends options failure?) :
    ¬ Step options agenda made next := by
  intro hstep
  cases failure? with
  | none => exact hstep.not_finished hends
  | some failure => exact hstep.not_fails failure hends

theorem Steps.unique {done' : List Generation} {last' : Agenda}
    {failure? failure?' : Option Failure} (htree : agenda.disk.IsTree)
    (hsteps : Steps options agenda done last)
    (hends : last.Ends options failure?)
    (hsteps' : Steps options agenda done' last')
    (hends' : last'.Ends options failure?') :
    done' = done ∧ last' = last ∧ failure?' = failure? := by
  induction hsteps generalizing done' with
  | refl =>
      cases hsteps' with
      | refl => exact ⟨rfl, rfl, hends.unique hends'⟩
      | step first' => exact absurd first' hends.not_step
  | step first others ih =>
      cases hsteps' with
      | refl => exact absurd first hends'.not_step
      | step first' others' =>
          obtain ⟨rfl, rfl⟩ := first.unique htree first'
          obtain ⟨rfl, hlast⟩ := ih (first.isTree htree) hends others'
          exact ⟨rfl, hlast⟩

end Agenda
end Command
end Stencil
