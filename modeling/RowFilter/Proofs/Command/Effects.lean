import RowFilter.Command.Conclusion
import RowFilter.Proofs.Files.Tree

/-! What runs do to the files around them. A run that fails prints nothing on standard output and keeps the text
    of every file; only a run that writes the example changes a file, and that is the one the path of the
    configuration leads to then. Without force a file that is there is kept, if the path to it needs no
    directories that are made on the way. -/

namespace RowFilter

open FileTree

/-- What a run is started with. -/
structure Run where
  environment : Environment
  arguments : List String
  input : Option String
  permissions : Permissions

namespace Run

/-- Runs the program. -/
def perform (r : Run) : StateM FileTree Outcome :=
  Command.runArguments (permitted r.permissions r.input) r.environment r.arguments

/-- The command of a run, if its arguments write one. -/
def command? (r : Run) : Option Command :=
  match Invocation.read r.environment r.arguments with
  | .ok i => some i.command
  | .error _ => none

/-- The command of the run writes the example, and the run succeeds. -/
def Initializes (r : Run) (o : Outcome) : Prop :=
  (∃ force, r.command? = some (.config (.init force))) ∧ o.exitCode = 0

/-- The path of the configuration leads somewhere, or does not go up again. -/
def FindsPath (r : Run) (t : FileTree) : Prop :=
  ∀ path, r.environment.configPath? = some path → (t.place? path).isSome = true ∨ ".." ∉ names path

/-- Runs one after another, each with the tree that it finds. -/
def session : List Run → FileTree → List (Run × FileTree)
  | [], _ => []
  | r :: rest, t => (r, t) :: session rest (r.perform.run t).2

/-- The tree after some runs. -/
def after : List Run → FileTree → FileTree
  | [], t => t
  | r :: rest, t => after rest (r.perform.run t).2

end Run

/-! ### Attempts -/

namespace Command

variable {α β : Type} {p : Permissions} {input : Option String}

/-- What comes of an attempt on a tree, and the tree after it. -/
def Attempt.on (t : FileTree) (x : Attempt (StateM FileTree) α) : Except CommandError α × FileTree :=
  x.run.run t

namespace Attempt

theorem on_bind (t : FileTree) (x : Attempt (StateM FileTree) α) (f : α → Attempt (StateM FileTree) β) :
    on t (x >>= f) = match on t x with
      | (.ok a, u) => on u (f a)
      | (.error e, u) => (.error e, u) := by
  unfold on
  rw [ExceptT.run_bind, StateT.run_bind]
  rcases StateT.run x.run t with ⟨_ | _, u⟩ <;> rfl

theorem on_ofExcept (t : FileTree) (x : Except CommandError α) : on t (ofExcept x) = (x, t) := by
  cases x <;> rfl

theorem on_isPresent (t : FileTree) (path : String) : on t (liftM ((permitted p input).isPresent path)) =
    (.ok (p.search path && (t.at? path).isSome), t) := rfl

theorem on_makeDirectory (t : FileTree) (path : String) : on t (liftM ((permitted p input).makeDirectory path)) =
    (.ok (t.makePermitted (p.limit? path) path).1, (t.makePermitted (p.limit? path) path).2) := rfl

theorem on_write (t : FileTree) (path content : String) : on t (liftM ((permitted p input).write path content)) =
    (.ok (if p.search path && p.write path then t.write path content else (false, t)).1,
      (if p.search path && p.write path then t.write path content else (false, t)).2) := rfl

/-- The attempt leaves every tree as it is. -/
def Looks (x : Attempt (StateM FileTree) α) : Prop :=
  ∀ t, (on t x).2 = t

namespace Looks

protected theorem pure (a : α) : Looks (pure a) := fun _ => rfl

protected theorem throw (e : CommandError) : Looks (throw e : Attempt (StateM FileTree) α) := fun _ => rfl

protected theorem bind {x : Attempt (StateM FileTree) α} {f : α → Attempt (StateM FileTree) β} (hx : Looks x)
    (hf : ∀ a, Looks (f a)) : Looks (x >>= f) := by
  intro t
  have hu := hx t
  rw [on_bind]
  rcases hon : on t x with ⟨e | a, u⟩ <;> rw [hon] at hu
  · exact hu
  · exact (hf a u).trans hu

protected theorem ofExcept (x : Except CommandError α) : Looks (ofExcept x) := by
  intro t
  rw [on_ofExcept]

protected theorem lift {x : StateM FileTree α} (h : ∀ t, (x.run t).2 = t) :
    Looks (liftM x : Attempt (StateM FileTree) α) := h

end Looks

end Attempt

/-! ### Commands that only look -/

open Attempt

theorem looks_configPath (e : Environment) : Looks (configPath e) := by
  unfold configPath
  split
  · exact .pure _
  · exact .throw _

theorem looks_isPresent (path : String) :
    Looks (liftM ((permitted p input).isPresent path) : Attempt (StateM FileTree) Bool) :=
  .lift fun _ => rfl

theorem looks_read (path : String) :
    Looks (liftM ((permitted p input).read path) : Attempt (StateM FileTree) (Option String)) :=
  .lift fun _ => rfl

theorem looks_loadConfig (path : String) : Looks (loadConfig (permitted p input) path) := by
  refine .bind (looks_isPresent path) fun present => ?_
  split
  · refine .bind (looks_read path) fun text => ?_
    split
    · exact .throw _
    · split
      · exact .pure _
      · exact .throw _
  · exact .pure _

theorem looks_runApply (o : Options) (c : Config) (s : Selection) (rows : String) :
    Looks (runApply (permitted p input) o c s rows) := by
  refine .bind (.ofExcept _) fun compiled => ?_
  refine .bind (.lift fun t => ?_) fun text => .ofExcept _
  split <;> rfl

theorem looks_showConfig (o : Options) (path : String) : Looks (showConfig (permitted p input) o path) :=
  .bind (looks_loadConfig path) fun _ => .bind (looks_isPresent path) fun _ => .pure _

theorem looks_showPath (o : Options) (path : String) : Looks (showPath (permitted p input) o path) := by
  unfold showPath
  split
  · exact .bind (looks_isPresent path) fun _ => .pure _
  · exact .pure _

/-- Every command but the one that writes the example only looks at the files. -/
theorem looks_run (e : Environment) (o : Options) {c : Command} (hc : ∀ force, c ≠ .config (.init force)) :
    Looks (c.run (permitted p input) e o) := by
  cases c with
  | overview => exact .pure _
  | completions shell => exact .pure _
  | config c =>
    cases c with
    | display => exact .bind (looks_configPath e) fun path => looks_showConfig o path
    | path => exact .bind (looks_configPath e) fun path => looks_showPath o path
    | init force => exact absurd rfl (hc force)
  | compile s sql =>
    exact .bind (looks_configPath e) fun path => .bind (looks_loadConfig path) fun _ => .ofExcept _
  | reverse s =>
    exact .bind (looks_configPath e) fun path => .bind (looks_loadConfig path) fun _ => .ofExcept _
  | apply s rows =>
    exact .bind (looks_configPath e) fun path => .bind (looks_loadConfig path) fun c => looks_runApply o c s rows
  | schema entity =>
    exact .bind (looks_configPath e) fun path => .bind (looks_loadConfig path) fun _ => .ofExcept _

/-! ### The example -/

/-- What may come of an attempt to write the example, and the tree then: an error and at most more directories, or
    the example where the path leads once there are more directories. -/
inductive Initialized (t : FileTree) (path : String) (force : Bool) : Except CommandError Printed × FileTree → Prop
  | failed (e : CommandError) (names : List String) : Initialized t path force (.error e, (t.make [] names).2)
  | written (printed : Printed) (names : List String) {place : List String}
      (hunforced : force = false → t.at? path = none)
      (hplace : (t.make [] names).2.place? path = some place)
      (hfree : (t.make [] names).2.isDirectory place = false) :
      Initialized t path force (.ok printed, (t.make [] names).2.put place (.file Config.exampleText))

theorem on_makeParent (t : FileTree) (path : String) : ∃ r names,
    on t (makeParent (permitted p input) path) = (r, (t.make [] names).2) := by
  unfold makeParent
  cases parentPath? path with
  | none => exact ⟨_, [], rfl⟩
  | some directory =>
    obtain ⟨names, hnames⟩ := exists_makePermitted t (p.limit? directory) directory
    dsimp only
    rw [on_bind, on_makeDirectory, hnames]
    dsimp only
    split
    · exact ⟨_, names, rfl⟩
    · exact ⟨_, names, rfl⟩

theorem initialized_writeExample {t : FileTree} {path : String} {force : Bool}
    (h : (p.search path && (t.at? path).isSome && !force) = false) (names : List String) (o : Options) :
    Initialized t path force (on (t.make [] names).2 (writeExample (permitted p input) o path)) := by
  unfold writeExample
  rw [on_bind, on_write]
  by_cases hpermitted : (p.search path && p.write path) = true
  · have hunforced : force = false → t.at? path = none := by
      rintro rfl
      simpa [(Bool.and_eq_true_iff.mp hpermitted).1] using h
    rw [if_pos hpermitted, FileTree.write]
    cases hplace : (t.make [] names).2.place? path with
    | none => exact .failed _ names
    | some place =>
      dsimp only
      cases hfree : (t.make [] names).2.isDirectory place with
      | true => exact .failed _ names
      | false => exact .written _ names hunforced hplace hfree
  · rw [if_neg hpermitted]
    exact .failed _ names

theorem initialized_initConfig (t : FileTree) (o : Options) (path : String) (force : Bool) :
    Initialized t path force (on t (initConfig (permitted p input) o path force)) := by
  unfold initConfig
  rw [on_bind, on_isPresent]
  dsimp only
  split
  · exact .failed _ []
  · next hpresent =>
    obtain ⟨r, names, hparent⟩ : ∃ r names, on t (makeParent (permitted p input) path) = (r, (t.make [] names).2) :=
      on_makeParent t path
    rw [on_bind, hparent]
    cases r with
    | error e => exact .failed e names
    | ok _ => exact initialized_writeExample (Bool.eq_false_iff.mpr hpresent) names o

theorem on_run_init (t : FileTree) (e : Environment) (o : Options) (force : Bool) :
    on t (run (permitted p input) e o (.config (.init force))) = match e.configPath? with
      | none => (.error (.config .noLocation), t)
      | some path => on t (initConfig (permitted p input) o path force) := by
  rw [run, on_bind, configPath]
  cases e.configPath? <;> rfl

end Command

/-! ### Runs -/

theorem CommandError.exitCode_ne_zero (e : CommandError) : e.exitCode ≠ 0 := by
  unfold exitCode
  split <;> exact nofun

theorem Outcome.exitCode_failed_ne_zero (o : Options) (e : CommandError) : (failed o e).exitCode ≠ 0 :=
  e.exitCode_ne_zero

theorem Outcome.out_of_exitCode_ne_zero {o : Outcome} (h : o.exitCode ≠ 0) : o.out = "" := by
  cases o with
  | done printed => exact absurd rfl h
  | failed o e => rfl
  | refused u =>
    cases hquestion : u.isQuestion with
    | true => exact absurd (if_pos hquestion) h
    | false => exact if_neg (Bool.eq_false_iff.mp hquestion)

namespace Run

open Command Attempt

/-- How a run ends, and the tree then: the tree is as before, or the run fails and at most made directories, or it
    put the example where the path of the configuration leads. -/
inductive Effect (r : Run) (t : FileTree) : Outcome × FileTree → Prop
  | looked (o : Outcome) (hcommand : ∀ force, r.command? ≠ some (.config (.init force))) : Effect r t (o, t)
  | failed {o : Outcome} (names : List String) {force : Bool} (hcommand : r.command? = some (.config (.init force)))
      (hfails : o.exitCode ≠ 0) : Effect r t (o, (t.make [] names).2)
  | written (printed : Printed) (names : List String) (force : Bool) (path : String) (place : List String)
      (hcommand : r.command? = some (.config (.init force))) (hpath : r.environment.configPath? = some path)
      (hunforced : force = false → t.at? path = none)
      (hplace : (t.make [] names).2.place? path = some place)
      (hfree : (t.make [] names).2.isDirectory place = false) :
      Effect r t (.done printed, (t.make [] names).2.put place (.file Config.exampleText))

/-- The outcome of a command that was carried out with these options, and the tree after it. -/
def outcomeOf (o : Options) : Except CommandError Printed × FileTree → Outcome × FileTree
  | (.ok printed, u) => (.done printed, u)
  | (.error e, u) => (.failed o e, u)

theorem perform_of_ok {r : Run} {i : Invocation} (h : Invocation.read r.environment r.arguments = .ok i)
    (t : FileTree) : r.perform.run t =
      outcomeOf i.options (on t (i.command.run (permitted r.permissions r.input) r.environment i.options)) := by
  unfold perform runArguments
  rw [h]
  dsimp only
  rw [StateT.run_bind]
  unfold on
  rcases StateT.run (ExceptT.run (i.command.run (permitted r.permissions r.input) r.environment i.options)) t with
    ⟨_ | _, u⟩ <;> rfl

theorem effect_of_looked {r : Run} {t : FileTree} (hcommand : ∀ force, r.command? ≠ some (.config (.init force)))
    (o : Options) {x : Except CommandError Printed × FileTree} (hx : x.2 = t) : r.Effect t (outcomeOf o x) := by
  obtain ⟨_ | _, u⟩ := x <;> obtain rfl := hx
  · exact .looked _ hcommand
  · exact .looked _ hcommand

theorem effect_of_initialized {r : Run} {t : FileTree} {force : Bool} {path : String}
    (hcommand : r.command? = some (.config (.init force))) (hpath : r.environment.configPath? = some path)
    (o : Options) {x : Except CommandError Printed × FileTree} (hx : Initialized t path force x) :
    r.Effect t (outcomeOf o x) := by
  cases hx with
  | failed e names => exact .failed names hcommand (Outcome.exitCode_failed_ne_zero o e)
  | written printed names hunforced hplace hfree =>
    exact .written printed names force path _ hcommand hpath hunforced hplace hfree

/-- Every run has one of the effects. -/
theorem effect_perform (r : Run) (t : FileTree) : r.Effect t (r.perform.run t) := by
  cases hread : Invocation.read r.environment r.arguments with
  | error u =>
    have hperform : r.perform.run t = (.refused u, t) := by
      unfold perform runArguments
      rw [hread]
      rfl
    rw [hperform]
    exact .looked _ fun force hcommand => by simp [command?, hread] at hcommand
  | ok i =>
    have hcommand : r.command? = some i.command := by rw [command?, hread]
    rw [perform_of_ok hread]
    by_cases hinit : ∃ force, i.command = .config (.init force)
    · obtain ⟨force, hforce⟩ := hinit
      rw [hforce] at hcommand ⊢
      rw [on_run_init]
      cases hpath : r.environment.configPath? with
      | none => exact .failed [] hcommand (Outcome.exitCode_failed_ne_zero _ _)
      | some path => exact effect_of_initialized hcommand hpath _ (initialized_initConfig t i.options path force)
    · refine effect_of_looked (fun force h => hinit ⟨force, ?_⟩) _ ?_
      · exact Option.some.inj (hcommand.symm.trans h)
      · exact looks_run r.environment i.options (fun force h => hinit ⟨force, h⟩) t

theorem isClosed_perform {t : FileTree} (ht : t.IsClosed) (r : Run) : (r.perform.run t).2.IsClosed := by
  have heffect := r.effect_perform t
  generalize r.perform.run t = x at heffect ⊢
  cases heffect with
  | looked o hcommand => exact ht
  | failed names hcommand hfails => exact ht.make (isDirectory_nil t) names
  | written printed names force path place hcommand hpath hunforced hplace hfree =>
    have hmade := ht.make (isDirectory_nil t) names
    exact hmade.put hfree (hmade.isDirectory_dropLast_of_place? hplace) _

/-- A run that ends like this, with this tree, has left no trace, unless it was meant to write the example. -/
structure LeavesNoTrace (r : Run) (t : FileTree) (x : Outcome × FileTree) : Prop where
  /-- A run that fails prints nothing, and keeps the text of every file. -/
  failed : x.1.exitCode ≠ 0 → x.1.out = "" ∧ x.2.text? = t.text?
  /-- Any command but the one that writes the example keeps the whole tree. -/
  looked : (∀ force, r.command? ≠ some (.config (.init force))) → x.2 = t
  /-- Only a run that writes the example and succeeds changes a file. -/
  unchanged : ¬r.Initializes x.1 → x.2.text? = t.text?
  /-- It changes the one file that the path of the configuration leads to then. -/
  written : r.Initializes x.1 → ∃ path place, r.environment.configPath? = some path ∧ x.2.place? path = some place ∧
    ∀ q, x.2.text? q = if q = place then some Config.exampleText else t.text? q
  /-- Without force it keeps every file that is there. -/
  kept : r.command? = some (.config (.init false)) → r.FindsPath t →
    ∀ q content, t.text? q = some content → x.2.text? q = some content

theorem leavesNoTrace_perform {t : FileTree} (ht : t.IsClosed) (r : Run) : r.LeavesNoTrace t (r.perform.run t) := by
  have heffect := r.effect_perform t
  generalize r.perform.run t = x at heffect ⊢
  cases heffect with
  | looked o hcommand =>
    exact {
      failed := fun hfails => ⟨Outcome.out_of_exitCode_ne_zero hfails, rfl⟩
      looked := fun _ => rfl
      unchanged := fun _ => rfl
      written := fun h => absurd h.1.choose_spec (hcommand _)
      kept := fun hinit => absurd hinit (hcommand false) }
  | failed names hcommand hfails =>
    exact {
      failed := fun _ => ⟨Outcome.out_of_exitCode_ne_zero hfails, text?_make t [] names⟩
      looked := fun h => absurd hcommand (h _)
      unchanged := fun _ => text?_make t [] names
      written := fun h => absurd h.2 hfails
      kept := fun _ _ q content h => by rwa [text?_make] }
  | written printed names force path place hcommand hpath hunforced hplace hfree =>
    have htext : ∀ q, ((t.make [] names).2.put place (.file Config.exampleText)).text? q =
        if q = place then some Config.exampleText else t.text? q := by
      intro q
      rw [text?_put_file hfree, text?_make]
    have hleads := place?_of_isDirectory (fun _ => isDirectory_put hfree (.file Config.exampleText)) hplace
    exact {
      failed := fun hfails => absurd rfl hfails
      looked := fun h => absurd hcommand (h force)
      unchanged := fun h => absurd ⟨⟨force, hcommand⟩, rfl⟩ h
      written := fun _ => ⟨path, place, hpath, hleads, htext⟩
      kept := by
        intro hinit hfinds q content hq
        rw [hcommand] at hinit
        cases hinit
        have hnone := ht.entry?_eq_none_of_make (hunforced rfl) (hfinds path hpath) hplace hfree
        have hne : q ≠ place := by
          rintro rfl
          rw [text?_eq_some_iff, hnone] at hq
          cases hq
        rw [htext, if_neg hne]
        exact hq }

/-! ### Sessions -/

/-- No run leaves a trace, however many came before it. After any runs a file has its text from the start, or the
    example from a run that was meant to write it; and runs that write it without force, on paths that do not go up
    again through missing directories, keep every file. -/
theorem session_leavesNoTrace {t : FileTree} (ht : t.IsClosed) (runs : List Run) :
    (∀ s ∈ session runs t, s.1.LeavesNoTrace s.2 (s.1.perform.run s.2)) ∧
    (∀ q, (after runs t).text? q = t.text? q ∨ ((after runs t).text? q = some Config.exampleText ∧
      ∃ s ∈ session runs t, s.1.Initializes (s.1.perform.run s.2).1)) ∧
    ((∀ s ∈ session runs t, ∀ force, s.1.command? = some (.config (.init force)) →
        force = false ∧ s.1.FindsPath s.2) →
      ∀ q content, t.text? q = some content → (after runs t).text? q = some content) := by
  induction runs generalizing t with
  | nil => exact ⟨nofun, fun _ => .inl rfl, fun _ _ _ h => h⟩
  | cons r rest ih =>
    have hrun := leavesNoTrace_perform ht r
    obtain ⟨hsteps, htexts, hkept⟩ := ih (isClosed_perform ht r)
    refine ⟨List.forall_mem_cons.mpr ⟨hrun, hsteps⟩, fun q => ?_, fun h q content hcontent => ?_⟩
    · rcases htexts q with hsame | ⟨hexample, s, hs, hinit⟩
      · by_cases hinit : r.Initializes (r.perform.run t).1
        · obtain ⟨path, place, -, -, htext⟩ := hrun.written hinit
          by_cases hq : q = place
          · exact .inr ⟨hsame.trans ((htext q).trans (if_pos hq)), (r, t), List.mem_cons_self, hinit⟩
          · exact .inl (hsame.trans ((htext q).trans (if_neg hq)))
        · exact .inl (hsame.trans (congrFun (hrun.unchanged hinit) q))
      · exact .inr ⟨hexample, s, List.mem_cons_of_mem _ hs, hinit⟩
    · obtain ⟨hfirst, hrest⟩ := List.forall_mem_cons.mp h
      refine hkept hrest q content ?_
      by_cases hinit : r.Initializes (r.perform.run t).1
      · obtain ⟨⟨force, hforce⟩, -⟩ := hinit
        obtain ⟨rfl, hfinds⟩ := hfirst force hforce
        exact hrun.kept hforce hfinds q content hcontent
      · rw [hrun.unchanged hinit]
        exact hcontent

/-- A file at the path of the configuration, a run that would write the example there, and one that writes it to
    another path. -/
theorem session_leavesNoTrace_present :
    let t := FileTree.ofFiles [("rq/config.toml", "version = 1")]
    let runs : List Run := [⟨⟨some "/rq/config.toml", none, none, none⟩, ["config", "init"], none, .all⟩,
      ⟨⟨some "/new/config.toml", none, none, none⟩, ["config", "init"], none, .all⟩]
    t.IsClosed ∧ (after runs t).text? ["rq", "config.toml"] = some "version = 1" := by
  intro t runs
  have ht : t.IsClosed := by decide
  obtain ⟨-, -, hkept⟩ := session_leavesNoTrace ht runs
  refine ⟨ht, hkept (List.forall_mem_cons.mpr ⟨?_, List.forall_mem_singleton.mpr ?_⟩) _ _ rfl⟩
  all_goals
    intro force hforce
    cases hforce
    refine ⟨rfl, fun path hpath => ?_⟩
    cases hpath
    exact .inr (by decide)

/-- Without force a file is overwritten if the path goes up again through a directory that is missing: nothing is at
    the path before that directory is made. -/
theorem init_overwrites :
    let t := FileTree.ofFiles [("rq/config.toml", "version = 1")]
    let r : Run := ⟨⟨some "/missing/../rq/config.toml", none, none, none⟩, ["config", "init"], none, .all⟩
    t.IsClosed ∧ r.command? = some (.config (.init false)) ∧ (r.perform.run t).1.exitCode = 0 ∧
      t.text? ["rq", "config.toml"] = some "version = 1" ∧
      (r.perform.run t).2.text? ["rq", "config.toml"] = some Config.exampleText ∧
      Config.exampleText ≠ "version = 1" := by
  exact ⟨by decide, by rfl, by rfl, by rfl, by rfl, by decide⟩

end Run

end RowFilter
