/-
Runs that fail, and runs that deliver.

A `Job` is a run over a file tree. `Job.Fails` says at which stages it is bad, each stage judged by itself as far as it
can be: a job without its input may also have an output that cannot be opened. A job may have no directory to start in,
which is bad for one that has to search for its settings.
- `Request.exists_input`: a command line that asks for a run gives its input.
- `Job.run_settings`, `Job.run_rendering`: up to its output a run only looks at the tree.
- `Job.rendering_cases`: it stops at the first bad stage, or it makes a graph and a text.
- `Job.first_failure_wins`: a run with a bad stage prints nothing and leaves all files but its output as they were, and
  its failure is that of the earliest bad stage; any other run delivers its text, also that of an empty graph.
-/
import CallAtlas.Command.Session
import CallAtlas.Proofs.ExistingIds
import CallAtlas.Proofs.NearestSettings

namespace CallAtlas

/-! ## Command lines -/

namespace Request

variable {i j : Invocation} {arguments : List String}

/-- a switch that ends the reading asks for no run -/
theorem setSwitch?_ne_run (s : Switch) : i.setSwitch? s ≠ some (.inr (.run j)) := by
  cases s <;> simp [Invocation.setSwitch?]

theorem readShort?_ne_run (chars : List Char) : readShort? i chars ≠ some (.done (.run j)) := by
  fun_induction readShort? i chars with
  | case4 i c r s hflag request hswitch =>
    intro h
    cases h
    exact setSwitch?_ne_run s hswitch
  | case5 i c r s hflag i' hswitch ih => exact ih
  | _ => simp_all

theorem readLong?_ne_run (name : String) (value : Option String) : readLong? i name value ≠ some (.done (.run j)) := by
  unfold readLong?
  split
  · simp
  · simp
  · split
    · simp
    next request hswitch =>
      intro h
      cases h
      exact setSwitch?_ne_run _ hswitch
    · simp
  · simp
  · simp

theorem exists_input_of_ofInvocation? (h : ofInvocation? j = some (.run i)) : ∃ input, i.input = some input := by
  unfold ofInvocation? at h
  split at h
  next hinput =>
    cases h
    exact Option.isSome_iff_exists.1 hinput
  next => cases h

/-- the reading ends with a run only where the input is there -/
theorem exists_input_of_read? {state : Reading} (hstate : state ≠ .done (.run i))
    (h : read? state arguments = some (.run i)) : ∃ input, i.input = some input := by
  fun_induction read? state arguments with
  | case1 r request =>
    cases h
    exact absurd rfl hstate
  | case2 i' => exact exists_input_of_ofInvocation? h
  | case4 i' k a r s hplain i'' hkey ih => exact ih (by simp) h
  | case7 i' a r s hplain i'' hset ih => exact ih (by simp) h
  | case9 i' a r hdashes =>
    obtain ⟨i'', -, hrun⟩ := Option.bind_eq_some_iff.1 h
    exact exists_input_of_ofInvocation? hrun
  | case10 i' a r name value hlong state hread ih =>
    exact ih (fun hdone => readLong?_ne_run name value (hdone ▸ hread)) h
  | case12 i' a r chars hshort state hread ih =>
    exact ih (fun hdone => readShort?_ne_run chars (hdone ▸ hread)) h
  -- nothing is read from a line that is not used as it should be
  | _ => cases h

theorem exists_input (h : ofArguments? arguments = some (.run i)) : ∃ input, i.input = some input :=
  exists_input_of_read? (by simp) h

end Request

/-! ## Writing to a tree -/

namespace FileTree

variable {t : FileTree} {working names : List String} {path : String} {bytes : List UInt8}

theorem find?_ne_of_target? (h : t.target? working path = some names) : t.find? names ≠ some .directory := by
  obtain ⟨place, -, hplace⟩ := Option.bind_eq_some_iff.1 h
  split at hplace
  next f hfile =>
    split at hplace
    · cases hplace
      simp [hfile]
    · cases hplace
  next => cases hplace
  next hmissing =>
    split at hplace
    · cases hplace
    · cases hplace
      simp [hmissing]

/-- the root is a directory, so that only another place can be written -/
theorem ne_nil_of_target? (h : t.target? working path = some names) : names ≠ [] := by
  rintro rfl
  exact find?_ne_of_target? h rfl

theorem write_eq_of_closed (h : t.target? working path = none) : t.write working path bytes = (false, t) := by
  rw [write, h]

/-- writing changes what is at its place and nothing else, and works if there is room for all -/
theorem exists_write_eq (h : t.target? working path = some names) (bytes : List UInt8) :
    ∃ after, t.write working path bytes = (decide (t.fitting bytes = bytes), after) ∧
      ∀ names', after.find? names' =
        if names' = names then some (.file { t.fileAt names with contents := t.fitting bytes }) else t.find? names' :=
  ⟨_, by rw [write, h], fun names' => t.find?_put _ names' (ne_nil_of_target? h)⟩

end FileTree

/-! ## Reductions and renderings -/

namespace Analysis

variable {p : Program} {s : Settings}

theorem reduce_eq_focus_error {e : FocusError} (h : (Focus.resolve s.focus p.packages).result s.focus = .error e) :
    reduce p s = .error (.focus e) := by
  rw [reduce, h]
  rfl

theorem reduce_eq_entry_error {focus : Option PackageId} {e : EntryError}
    (hfocus : (Focus.resolve s.focus p.packages).result s.focus = .ok focus) (h : p.entries s.tests = .error e) :
    reduce p s = .error (.entry e) := by
  rw [reduce, hfocus, h]
  rfl

theorem exists_reduce {focus : Option PackageId} {entries : List FunctionId} (hp : p.InRange)
    (hfocus : (Focus.resolve s.focus p.packages).result s.focus = .ok focus) (h : p.entries s.tests = .ok entries) :
    ∃ g, reduce p s = .ok g := by
  rcases reduce_stages hp s with ⟨e, herror, -⟩ | ⟨e, herror, -⟩ | hgraph
  · cases hfocus.symm.trans herror
  · cases h.symm.trans herror
  · exact hgraph

end Analysis

namespace Rendering

theorem output_ite (c : Bool) (text : String) : (if c then empty text else rendered text).output = text := by
  cases c <;> rfl

theorem isEmpty_ite (c : Bool) (text : String) : (if c then empty text else rendered text).isEmpty = c := by
  cases c <;> rfl

end Rendering

/-! ## Stages -/

/-- the stages of a run at which it can fail -/
inductive Stage where
  | settings
  | loading
  | focus
  | entries
  | writing
  deriving DecidableEq, Repr

/-- the place of a stage in their order -/
def Stage.place : Stage → Nat
  | settings => 0
  | loading => 1
  | focus => 2
  | entries => 3
  | writing => 4

theorem Stage.place_injective : Function.Injective Stage.place := by
  intro a b
  cases a <;> cases b <;> simp [place]

/-- a run over a file tree -/
structure Job where
  tree : FileTree
  /-- where relative paths start -/
  working : List String
  /-- where the search for settings starts, if that can be determined -/
  directory : Option String
  invocation : Invocation
  deriving Repr

namespace Job

/-! ### What the stages work with -/

/-- the path of the input -/
def input (j : Job) : String := j.invocation.input.getD ""

/-- the layer of the settings file, or that of no file; a search has to start somewhere -/
def layer (j : Job) : Except SessionError Layer :=
  match j.invocation.config, j.directory with
  | some path, _ => Session.ofSettings (Layer.ofFile path (j.tree.read? j.working path))
  | none, none => .error .noDirectory
  | none, some directory =>
    Session.ofSettings
      (((Discovery.discover (FileTree.access j.working) directory).run j.tree).1.map fun found =>
        (found.map Prod.snd).getD {})

/-- the settings, those of the command line over those of the file -/
def settings (j : Job) : Except SessionError Settings :=
  j.layer.bind fun layer => Session.ofSettings (Settings.ofLayer (layer.merge j.invocation.layer))

/-- the program in the input -/
def program (j : Job) : Except LoadError Program :=
  ((j.invocation.inputFormat.getD .auto).source j.input).load j.input (j.tree.read? j.working j.input)

/-- where the output goes, if it goes to a file that can be opened -/
def target? (j : Job) : Option (List String) :=
  j.invocation.output.bind (j.tree.target? j.working)

/-- nothing fails before the output, which is a text for a graph -/
inductive Makes (j : Job) (g : Graph) (text : String) : Prop where
  | intro {s : Settings} {p : Program} (settings : j.settings = .ok s) (program : j.program = .ok p)
    (reduce : Analysis.reduce p s = .ok g) (text : Analysis.text? p g s = some text)

/-- a stage is bad, with the failure that tells so -/
inductive Fails (j : Job) : Stage → SessionError → Prop where
  | settings {e : SessionError} (settings : j.settings = .error e) : Fails j .settings e
  | loading {e : LoadError} (program : j.program = .error e) : Fails j .loading (.run (.load e))
  | focus {s : Settings} {p : Program} {e : FocusError} (settings : j.settings = .ok s) (program : j.program = .ok p)
    (result : (Focus.resolve s.focus p.packages).result s.focus = .error e) : Fails j .focus (.run (.focus e))
  | entries {s : Settings} {p : Program} {e : EntryError} (settings : j.settings = .ok s) (program : j.program = .ok p)
    (result : p.entries s.tests = .error e) : Fails j .entries (.run (.entry e))
  /-- the output cannot be opened, whatever would be written -/
  | opening {path : String} (output : j.invocation.output = some path)
    (target : j.tree.target? j.working path = none) : Fails j .writing (.run (.unwritable path))
  /-- the output has no room for the text -/
  | room {g : Graph} {text path : String} (makes : j.Makes g text) (output : j.invocation.output = some path)
    (room : j.tree.fitting text.toUTF8.toList ≠ text.toUTF8.toList) : Fails j .writing (.run (.unwritable path))

/-- no stage before this one is bad -/
def First (j : Job) (stage : Stage) : Prop :=
  ∀ other e, j.Fails other e → stage.place ≤ other.place

/-- a run ends with the failure of its earliest bad stage, and all files but its output are as they were -/
structure EndsFailing (j : Job) (stage : Stage) (e : SessionError) (o : Outcome) (after : FileTree) : Prop where
  fails : j.Fails stage e
  first : j.First stage
  exit : o.exit = 1
  output : o.output = ""
  diagnostic : o.diagnostic = some e.message
  kept : ∀ names, after.find? names = j.tree.find? names ∨ stage = .writing ∧ j.target? = some names

/-- a run without a bad stage ends with its text, printed or written -/
structure EndsDelivering (j : Job) (g : Graph) (text : String) (o : Outcome) (after : FileTree) : Prop where
  makes : j.Makes g text
  clean : ∀ stage e, ¬ j.Fails stage e
  exit : o.exit = 0
  diagnostic : o.diagnostic = none
  warned : o.warned = g.isEmpty
  printed : j.invocation.output = none → o.output = text ∧ after = j.tree
  written : ∀ path, j.invocation.output = some path → o.output = "" ∧
    ∃ names, j.tree.target? j.working path = some names ∧
      ∀ names', after.find? names' =
        if names' = names then some (.file { j.tree.fileAt names with contents := text.toUTF8.toList })
        else j.tree.find? names'

/-! ### Stage by stage -/

variable {j : Job} {s : Settings} {p : Program} {g : Graph} {text : String}

theorem run_fileLayer (j : Job) :
    (Session.fileLayer (FileTree.access j.working) j.directory j.invocation).run j.tree = (j.layer, j.tree) := by
  unfold Session.fileLayer layer
  cases j.invocation.config with
  | some path => rfl
  | none =>
    cases j.directory with
    | none => rfl
    | some directory =>
      obtain ⟨result, hrun⟩ := Discovery.exists_run_discover j.tree j.working directory
      simp only [FileTree.run_bind hrun, hrun]
      rfl

theorem run_settings (j : Job) :
    (Session.settings (FileTree.access j.working) j.directory j.invocation).run j.tree = (j.settings, j.tree) := by
  rw [Session.settings, FileTree.run_bind j.run_fileLayer]
  rfl

theorem run_rendering {result : Except Failure Rendering} (h : Analysis.run j.program s = result) :
    (Session.rendering (FileTree.access j.working) j.invocation j.input s).run j.tree = (result, j.tree) := by
  rw [Session.rendering, FileTree.run_bind (FileTree.run_read j.tree j.working j.input), ← h]
  rfl

/-! ### The earliest bad stage -/

theorem first_settings (j : Job) : j.First .settings :=
  fun _ _ _ => Nat.zero_le _

/-- a stage that is not bad leaves it to the next one to be the first -/
theorem First.next {stage later : Stage} (h : j.First stage) (hclean : ∀ e, ¬ j.Fails stage e)
    (hnext : later.place = stage.place + 1) : j.First later := by
  intro other e hfails
  have hle : stage.place ≤ other.place := h other e hfails
  have hne : stage.place ≠ other.place := by
    intro heq
    exact hclean e (Stage.place_injective heq ▸ hfails)
  omega

theorem not_fails_settings (hs : j.settings = .ok s) (e : SessionError) : ¬ j.Fails .settings e := by
  intro h
  cases h with
  | settings herror => cases hs.symm.trans herror

theorem not_fails_loading (hp : j.program = .ok p) (e : SessionError) : ¬ j.Fails .loading e := by
  intro h
  cases h with
  | loading herror => cases hp.symm.trans herror

theorem not_fails_focus {focus : Option PackageId} (hs : j.settings = .ok s) (hp : j.program = .ok p)
    (hfocus : (Focus.resolve s.focus p.packages).result s.focus = .ok focus) (e : SessionError) :
    ¬ j.Fails .focus e := by
  intro h
  cases h with
  | focus hs' hp' herror =>
    cases hs.symm.trans hs'
    cases hp.symm.trans hp'
    cases hfocus.symm.trans herror

theorem not_fails_entries {entries : List FunctionId} (hs : j.settings = .ok s) (hp : j.program = .ok p)
    (hentries : p.entries s.tests = .ok entries) (e : SessionError) : ¬ j.Fails .entries e := by
  intro h
  cases h with
  | entries hs' hp' herror =>
    cases hs.symm.trans hs'
    cases hp.symm.trans hp'
    cases hentries.symm.trans herror

theorem Makes.unique {g' : Graph} {text' : String} (h : j.Makes g text) (h' : j.Makes g' text') :
    g' = g ∧ text' = text := by
  obtain ⟨hs, hp, hg, htext⟩ := h
  obtain ⟨hs', hp', hg', htext'⟩ := h'
  cases hs.symm.trans hs'
  cases hp.symm.trans hp'
  cases hg.symm.trans hg'
  cases htext.symm.trans htext'
  exact ⟨rfl, rfl⟩

/-- without a failure of the settings, the rendering is the failure of the earliest bad stage before the output, or the
text of the run -/
theorem rendering_cases (hs : j.settings = .ok s) :
    (∃ stage e, j.Fails stage (.run e) ∧ j.First stage ∧ Analysis.run j.program s = .error e) ∨
      ∃ g text, j.Makes g text ∧ j.First .writing ∧
        Analysis.run j.program s = .ok (if g.isEmpty then .empty text else .rendered text) := by
  have hloading : j.First .loading := j.first_settings.next (not_fails_settings hs) rfl
  cases hp : j.program with
  | error e => exact Or.inl ⟨.loading, _, .loading hp, hloading, rfl⟩
  | ok p =>
    have hfirst : j.First .focus := hloading.next (not_fails_loading hp) rfl
    cases hfocus : (Focus.resolve s.focus p.packages).result s.focus with
    | error e =>
      exact Or.inl ⟨.focus, _, .focus hs hp hfocus, hfirst,
        Analysis.run_eq_error (Analysis.reduce_eq_focus_error hfocus)⟩
    | ok focus =>
      have hfirst : j.First .entries := hfirst.next (not_fails_focus hs hp hfocus) rfl
      cases hentries : p.entries s.tests with
      | error e =>
        exact Or.inl ⟨.entries, _, .entries hs hp hentries, hfirst,
          Analysis.run_eq_error (Analysis.reduce_eq_entry_error hfocus hentries)⟩
      | ok entries =>
        have hin : p.InRange := (Source.loaded_of_load hp).inRange
        obtain ⟨g, hg⟩ := Analysis.exists_reduce hin hfocus hentries
        obtain ⟨text, htext⟩ := Analysis.exists_text? hin hg
        exact Or.inr ⟨g, text, .intro hs hp hg htext, hfirst.next (not_fails_entries hs hp hentries) rfl,
          Analysis.run_eq hg htext⟩

/-! ### The end of a run -/

/-- a failure before anything is written leaves the tree as it was -/
theorem First.endsFailing {stage : Stage} {e : SessionError} (h : j.First stage) (hfails : j.Fails stage e)
    (warned : Bool) : j.EndsFailing stage e (Session.failed warned e) j.tree :=
  ⟨hfails, h, rfl, rfl, rfl, fun _ => Or.inl rfl⟩

theorem run_deliver_printed (houtput : j.invocation.output = none) (r : Rendering) :
    (Session.deliver (FileTree.access j.working) j.invocation r).run j.tree =
      ({ exit := 0, output := r.output, warned := r.isEmpty }, j.tree) := by
  rw [Session.deliver, houtput]
  rfl

theorem run_deliver_written {path : String} {worked : Bool} {after : FileTree} {r : Rendering}
    (houtput : j.invocation.output = some path)
    (hwrite : j.tree.write j.working path r.output.toUTF8.toList = (worked, after)) :
    (Session.deliver (FileTree.access j.working) j.invocation r).run j.tree =
      (if worked then { exit := 0, warned := r.isEmpty } else Session.failed r.isEmpty (.run (.unwritable path)),
        after) := by
  have hrun := (j.tree.run_write j.working path r.output).trans hwrite
  simp only [Session.deliver, houtput, FileTree.run_bind hrun]
  cases worked <;> rfl

/-- if writing could only be the first bad stage and is not bad, none is -/
theorem First.not_fails (h : j.First .writing) (hclean : ∀ e, ¬ j.Fails .writing e) (stage : Stage) (e : SessionError) :
    ¬ j.Fails stage e := by
  intro hfails
  have hlast : Stage.place .writing ≤ stage.place := h stage e hfails
  cases stage with
  | writing => exact hclean e hfails
  | _ => exact absurd hlast (by decide)

section Delivery

variable {r : Rendering} {path : String} {names : List String}

/-- printing cannot fail -/
theorem printed_ends (hmakes : j.Makes g r.output) (hfirst : j.First .writing) (hempty : r.isEmpty = g.isEmpty)
    (houtput : j.invocation.output = none) :
    j.EndsDelivering g r.output { exit := 0, output := r.output, warned := r.isEmpty } j.tree := by
  have hclean : ∀ e, ¬ j.Fails .writing e := by
    intro e h
    cases h with
    | opening hpath => cases houtput.symm.trans hpath
    | room _ hpath => cases houtput.symm.trans hpath
  refine ⟨hmakes, hfirst.not_fails hclean, rfl, rfl, hempty, fun _ => ⟨rfl, rfl⟩, fun path hpath => ?_⟩
  cases houtput.symm.trans hpath

/-- an output that has room for the text takes it -/
theorem written_ends (hmakes : j.Makes g r.output) (hfirst : j.First .writing) (hempty : r.isEmpty = g.isEmpty)
    (houtput : j.invocation.output = some path) (htarget : j.tree.target? j.working path = some names)
    (hroom : j.tree.fitting r.output.toUTF8.toList = r.output.toUTF8.toList) {after : FileTree}
    (hafter : ∀ names', after.find? names' =
      if names' = names then some (.file { j.tree.fileAt names with contents := r.output.toUTF8.toList })
      else j.tree.find? names') :
    j.EndsDelivering g r.output { exit := 0, warned := r.isEmpty } after := by
  have hclean : ∀ e, ¬ j.Fails .writing e := by
    intro e h
    cases h with
    | opening hpath hclosed =>
      cases houtput.symm.trans hpath
      cases htarget.symm.trans hclosed
    | room hmakes' _ hshort =>
      obtain ⟨-, rfl⟩ := hmakes.unique hmakes'
      exact hshort hroom
  refine ⟨hmakes, hfirst.not_fails hclean, rfl, rfl, hempty, fun hnone => ?_, fun path' hpath => ?_⟩
  · cases houtput.symm.trans hnone
  · cases houtput.symm.trans hpath
    exact ⟨rfl, names, htarget, hafter⟩

/-- an output without room for the text is the only file that changes -/
theorem cut_short_ends (hmakes : j.Makes g r.output) (hfirst : j.First .writing)
    (houtput : j.invocation.output = some path) (htarget : j.tree.target? j.working path = some names)
    (hroom : j.tree.fitting r.output.toUTF8.toList ≠ r.output.toUTF8.toList) {after : FileTree}
    (hafter : ∀ names', names' ≠ names → after.find? names' = j.tree.find? names') :
    j.EndsFailing .writing (.run (.unwritable path)) (Session.failed r.isEmpty (.run (.unwritable path))) after := by
  have hplace : j.target? = some names := by rw [target?, houtput, Option.bind_some, htarget]
  refine ⟨.room hmakes houtput hroom, hfirst, rfl, rfl, rfl, fun names' => ?_⟩
  by_cases hthere : names' = names
  · exact Or.inr ⟨rfl, hthere ▸ hplace⟩
  · exact Or.inl (hafter names' hthere)

/-- a text is delivered, or the output is the earliest bad stage -/
theorem deliver_ends (hmakes : j.Makes g r.output) (hfirst : j.First .writing) (hempty : r.isEmpty = g.isEmpty) :
    ∃ o after, (Session.deliver (FileTree.access j.working) j.invocation r).run j.tree = (o, after) ∧
      ((∃ stage e, j.EndsFailing stage e o after) ∨ j.EndsDelivering g r.output o after) := by
  cases houtput : j.invocation.output with
  | none =>
    exact ⟨_, _, run_deliver_printed houtput r, Or.inr (printed_ends hmakes hfirst hempty houtput)⟩
  | some path =>
    cases htarget : j.tree.target? j.working path with
    | none =>
      have hfails : j.Fails .writing (.run (.unwritable path)) := .opening houtput htarget
      exact ⟨_, _, run_deliver_written houtput (FileTree.write_eq_of_closed htarget),
        Or.inl ⟨_, _, hfirst.endsFailing hfails r.isEmpty⟩⟩
    | some names =>
      obtain ⟨after, hwrite, hafter⟩ := FileTree.exists_write_eq htarget r.output.toUTF8.toList
      refine ⟨_, after, run_deliver_written houtput hwrite, ?_⟩
      by_cases hroom : j.tree.fitting r.output.toUTF8.toList = r.output.toUTF8.toList
      · rw [decide_eq_true hroom]
        rw [hroom] at hafter
        exact Or.inr (written_ends hmakes hfirst hempty houtput htarget hroom hafter)
      · rw [decide_eq_false hroom]
        exact Or.inl ⟨_, _, cut_short_ends hmakes hfirst houtput htarget hroom fun names' hne =>
          (hafter names').trans (if_neg hne)⟩

end Delivery

theorem runInput_ends (j : Job) :
    ∃ o after, (Session.runInput (FileTree.access j.working) j.directory j.invocation j.input).run j.tree = (o, after) ∧
      ((∃ stage e, j.EndsFailing stage e o after) ∨ ∃ g text, j.EndsDelivering g text o after) := by
  rw [Session.runInput, FileTree.run_bind j.run_settings]
  cases hs : j.settings with
  | error e =>
    have hfails : j.Fails .settings e := .settings hs
    exact ⟨_, _, rfl, Or.inl ⟨_, _, j.first_settings.endsFailing hfails false⟩⟩
  | ok s =>
    rcases rendering_cases hs with ⟨stage, e, hfails, hfirst, hrun⟩ | ⟨g, text, hmakes, hfirst, hrun⟩
    · simp only [FileTree.run_bind (run_rendering hrun)]
      exact ⟨_, _, rfl, Or.inl ⟨_, _, hfirst.endsFailing hfails false⟩⟩
    · simp only [FileTree.run_bind (run_rendering hrun)]
      have htext := Rendering.output_ite g.isEmpty text
      obtain ⟨o, after, hdeliver, hends⟩ := deliver_ends (htext.symm ▸ hmakes) hfirst (Rendering.isEmpty_ite _ _)
      exact ⟨o, after, hdeliver, hends.imp_right fun h => ⟨g, _, h⟩⟩

/-- **The first failure wins, and leaves nothing behind.** Over every file tree, a run with a bad stage ends with exit
code 1, nothing printed and the failure of its earliest bad stage, in the order settings, loading, focus, entries,
writing; of the tree it changes at most the file at its output, and only if that was opened. A run without a bad stage
ends with exit code 0, and what it makes is printed or is what its output then holds, also if its graph is empty. -/
theorem first_failure_wins (j : Job) {arguments : List String}
    (h : Request.ofArguments? arguments = some (.run j.invocation)) :
    ∃ o after, (Session.run (FileTree.access j.working) j.directory arguments).run j.tree = (o, after) ∧
      ((∃ stage e, j.EndsFailing stage e o after) ∨ ∃ g text, j.EndsDelivering g text o after) := by
  obtain ⟨input, hinput⟩ := Request.exists_input h
  have hsame : j.input = input := by rw [Job.input, hinput, Option.getD_some]
  have hends := j.runInput_ends
  rw [Session.run, h]
  simp only [hinput]
  exact hsame ▸ hends

/-- a command line that names its settings and its output -/
def line : List String := ["--config", "callscope.toml", "program.json", "-o", "out"]

/-- what the command line asks for -/
def asked : Invocation where
  input := some "program.json"
  config := some "callscope.toml"
  output := some "out"

/-- a job whose input is missing and whose output is a directory -/
def hopeless : Job where
  tree := ({} : FileTree).addFile ["callscope.toml"] [] |>.makeDirectories ["out"]
  working := []
  directory := some "/"
  invocation := asked

/-- a program of one function that nothing calls -/
def lone : Program where
  packages := [⟨"cmd/main", "main"⟩]
  functions := [{ name := "main", package := 0 }]
  entryPoints := [0]
  ownModules := ["cmd/main"]

/-- the manifest of that program -/
def loneText : String :=
  "\x7b\"packages\": [\x7b\"path\": \"cmd/main\"\x7d],\n" ++
    "\"functions\": [\x7b\"id\": \"m\", \"package\": \"cmd/main\", \"name\": \"main\"\x7d]\x7d"

/-- a job that could search for settings nowhere, with an empty graph and an output that may be written but not read -/
def unread : Job where
  tree :=
    ({} : FileTree).addFile ["callscope.toml"] [] |>.addFile ["program.json"] loneText.toUTF8.toList
      |>.put ["out"] (.file { contents := [0], readable := false })
  working := []
  directory := none
  invocation := asked

theorem settings_unread : unread.settings = .ok {} := by decide +kernel

theorem program_unread : unread.program = .ok lone := by decide +kernel

theorem target?_unread : unread.tree.target? [] "out" = some ["out"] := by decide +kernel

/-- no stage of the job is bad -/
theorem not_fails_unread (stage : Stage) (e : SessionError) : ¬ unread.Fails stage e := by
  have hfocus : (Focus.resolve "main" lone.packages).result "main" = .ok (some 0) := by decide +kernel
  have hentries : lone.entries false = .ok [0] := by decide +kernel
  cases stage with
  | settings => exact not_fails_settings settings_unread e
  | loading => exact not_fails_loading program_unread e
  | focus => exact not_fails_focus settings_unread program_unread hfocus e
  | entries => exact not_fails_entries settings_unread program_unread hentries e
  | writing =>
    intro h
    cases h with
    | opening houtput hclosed =>
      cases houtput
      cases target?_unread.symm.trans hclosed
    | room _ _ hshort => exact hshort rfl

/-- of two bad stages the missing input is what is reported; without a bad stage the text of an empty graph is what the
output holds -/
theorem first_failure_wins_hopeless :
    Request.ofArguments? line = some (.run asked) ∧
      (hopeless.Fails .loading (.run (.load (.unreadable "program.json"))) ∧
        hopeless.Fails .writing (.run (.unwritable "out")) ∧
        ∃ o after, (Session.run (FileTree.access []) (some "/") line).run hopeless.tree = (o, after) ∧ o.exit = 1 ∧
          o.output = "" ∧ o.diagnostic = some "failed to read program.json" ∧
          ∀ names, after.find? names = hopeless.tree.find? names) ∧
      ∃ o after text, (Session.run (FileTree.access []) none line).run unread.tree = (o, after) ∧
        unread.Makes { focus := some 0, nodes := [], edges := [] } text ∧ o.exit = 0 ∧ o.output = "" ∧ o.warned = true ∧
        ∀ names, after.find? names =
          if names = ["out"] then some (.file { contents := text.toUTF8.toList, readable := false })
          else unread.tree.find? names := by
  have hasked : Request.ofArguments? line = some (.run asked) := by decide +kernel
  refine ⟨hasked, ?_, ?_⟩
  · have hsettings : hopeless.settings = .ok {} := by decide +kernel
    have hprogram : hopeless.program = .error (.unreadable "program.json") := by decide +kernel
    have hloading : hopeless.Fails .loading (.run (.load (.unreadable "program.json"))) := .loading hprogram
    have hwriting : hopeless.Fails .writing (.run (.unwritable "out")) := .opening rfl (by decide +kernel)
    refine ⟨hloading, hwriting, ?_⟩
    obtain ⟨o, after, hrun, ⟨stage, e, hfailing⟩ | ⟨g, text, hdelivering⟩⟩ := first_failure_wins hopeless hasked
    · have hearly : stage.place ≤ Stage.place .loading := hfailing.first _ _ hloading
      obtain ⟨rfl, rfl⟩ : stage = .loading ∧ e = .run (.load (.unreadable "program.json")) := by
        cases hfailing.fails with
        | settings herror => cases hsettings.symm.trans herror
        | loading herror =>
          cases hprogram.symm.trans herror
          exact ⟨rfl, rfl⟩
        | _ => exact absurd hearly (by decide)
      refine ⟨o, after, hrun, hfailing.exit, hfailing.output, hfailing.diagnostic, fun names => ?_⟩
      exact (hfailing.kept names).resolve_right (by simp)
    · exact absurd hloading (hdelivering.clean _ _)
  · have hreduce : Analysis.reduce lone {} = .ok { focus := some 0, nodes := [], edges := [] } := by decide +kernel
    obtain ⟨o, after, hrun, ⟨stage, e, hfailing⟩ | ⟨g, text, hdelivering⟩⟩ := first_failure_wins unread hasked
    · exact absurd hfailing.fails (not_fails_unread stage e)
    · obtain ⟨hs, hp, hg, -⟩ := hdelivering.makes
      cases settings_unread.symm.trans hs
      cases program_unread.symm.trans hp
      cases hreduce.symm.trans hg
      obtain ⟨houtput, names, hnames, hafter⟩ := hdelivering.written "out" rfl
      cases target?_unread.symm.trans hnames
      exact ⟨o, after, text, hrun, hdelivering.makes, hdelivering.exit, houtput, hdelivering.warned, hafter⟩

end Job

end CallAtlas
