import ScriptLayout.Proofs.Command.Handling

/-!
# Runs of the command

What can be told without handling a source is told first: which options are asked for
(`Arguments.optionsIn`) and where the sources come from (`Arguments.named`). A run that fails
there leaves the world as it is. Later it fails at the first source that cannot be read, and
leaves the world in which handling the sources before it leaves it
(`stops_at_first_failure`).
-/

namespace ScriptLayout.Command

variable {w w' : World} {words : List String} {a : Arguments} {o : Options}

/-! ### What a command line asks for -/

/-- The options in a settings file of a directory. -/
def loadFrom (d : Directory) (path : String) : Except ConfigError Options :=
  match d.readText path with
  | .error cause => .error (.unreadable path cause)
  | .ok text =>
    match Options.ofToml? text with
    | some options => .ok options
    | none => .error (.invalid path)

theorem loadOptions_run (path : String) (w : World) :
    (loadOptions path : StateM World (Except ConfigError Options)).run w =
      (loadFrom w.directory path, w) := by
  have read : (Host.readFile path : StateM World (Except FileError String)).run w =
      (w.directory.readText path, w) := rfl
  rw [loadOptions, run_bind_of_run read, loadFrom]
  cases w.directory.readText path with
  | error cause => rfl
  | ok text =>
    simp only
    cases Options.ofToml? text <;> rfl

/-- The options that the command line asks for, with the settings file in a directory. -/
def Arguments.optionsIn (a : Arguments) (d : Directory) : Except ConfigError Options :=
  match a.config with
  | none => .ok (a.adjust .standard)
  | some path => (loadFrom d path).map a.adjust

theorem resultIn_options (a : Arguments) (w : World) : resultIn a.options w =
    ((a.optionsIn w.directory).mapError .config, w) := by
  rw [Arguments.options, Arguments.optionsIn]
  cases a.config with
  | none => rfl
  | some path =>
    simp only
    rw [resultIn_bind_lift (loadOptions_run path w)]
    cases loadFrom w.directory path <;> rfl

/-- The sources that the command line names, in order; if none, the standard input. -/
def Arguments.named (a : Arguments) : List Input :=
  if a.files.isEmpty then [.stdin] else a.files.map Input.ofWord

theorem inputs_eq (a : Arguments) : a.inputs =
    if 1 < a.named.count .stdin then .error .stdinRepeated
    else if a.has .write && a.named.contains .stdin then .error .stdinRewritten
    else .ok a.named := rfl

theorem inputs_eq_ok_iff (a : Arguments) : a.inputs = .ok a.named ↔
    a.named.count .stdin ≤ 1 ∧ ¬(a.has .write ∧ .stdin ∈ a.named) := by
  rw [inputs_eq, ← List.contains_iff_mem, ← Bool.and_eq_true]
  split_ifs with twice rewritten
  · exact iff_of_false nofun fun h => absurd h.1 (by omega)
  · exact iff_of_false nofun fun h => h.2 rewritten
  · exact iff_of_true rfl ⟨by omega, rewritten⟩

theorem inputs_of_ne_ok (h : a.inputs ≠ .ok a.named) : ∃ cause, a.inputs = .error cause := by
  rw [inputs_eq] at h ⊢
  split_ifs at h ⊢
  · exact ⟨_, rfl⟩
  · exact ⟨_, rfl⟩
  · exact absurd rfl h

/-! ### How the command ends -/

/-- The exit status of the command, and the world that it leaves. -/
def exitIn (words : List String) (w : World) : Nat × World :=
  let (outcome, w') := (execute words : StateM World Outcome).run w
  (outcome.status, w')

theorem exitIn_eq (h : Arguments.read? words = some a) (hh : a.help = false) (w : World) :
    exitIn words w =
      match resultIn (run a) w with
      | (.ok clean, w') => (if clean then 0 else 1, w')
      | (.error _, w') => (2, w') := by
  rw [exitIn, execute, h]
  simp only [hh, Bool.false_eq_true, if_false]
  rw [StateT.run_bind, resultIn]
  rcases StateT.run (run a).run w with ⟨_ | clean, w'⟩
  · rfl
  · cases clean <;> rfl

theorem resultIn_run_of_error {cause : ConfigError} (h : a.optionsIn w.directory = .error cause) :
    resultIn (run a) w = (.error (.config cause), w) := by
  have options := resultIn_options a w
  rw [h] at options
  rw [run, resultIn_bind_of_error options]

theorem resultIn_run_of_ok (h : a.optionsIn w.directory = .ok o) : resultIn (run a) w =
    match a.inputs with
    | .ok inputs => resultIn (handleAll a.mode o inputs) w
    | .error cause => (.error cause, w) := by
  have options := resultIn_options a w
  rw [h] at options
  rw [run, resultIn_bind_of_ok options]
  cases a.inputs <;> rfl

/-- The first failure stops a run, and what has been done before it is all that is done. If
    the options cannot be loaded, or the standard input is named twice or is to be rewritten,
    that is nothing; otherwise, if a source cannot be read but all those before it can, it is
    what handling those comes to, also if something was wrong with them. -/
theorem stops_at_first_failure (h : Arguments.read? words = some a) (hh : a.help = false)
    (w : World) :
    (((∃ cause, a.optionsIn w.directory = .error cause) ∨ 1 < a.named.count .stdin ∨
        (a.has .write ∧ .stdin ∈ a.named)) → exitIn words w = (2, w)) ∧
    ∀ o, a.optionsIn w.directory = .ok o → a.named.count .stdin ≤ 1 →
      ¬(a.has .write ∧ .stdin ∈ a.named) →
      ∀ before input after cause, a.named = before ++ input :: after →
        (∀ earlier ∈ before, ∃ source, earlier.readIn w = .ok source) →
        input.readIn w = .error cause →
        ∃ clean w', resultIn (handleAll a.mode o before) w = (.ok clean, w') ∧
          exitIn words w = (2, w') := by
  rw [exitIn_eq h hh]
  refine ⟨fun fails => ?_, fun o ho once kept before input after cause named readable he => ?_⟩
  · cases options : a.optionsIn w.directory with
    | error cause => rw [resultIn_run_of_error options]
    | ok o =>
      have refused : a.inputs ≠ .ok a.named := fun accepted => by
        obtain ⟨once, kept⟩ := (inputs_eq_ok_iff a).1 accepted
        rcases fails with ⟨cause, unloaded⟩ | twice | rewritten
        · rw [options] at unloaded
          cases unloaded
        · omega
        · exact kept rewritten
      obtain ⟨cause, refused⟩ := inputs_of_ne_ok refused
      rw [resultIn_run_of_ok options, refused]
  · obtain ⟨clean, w', handled, failed⟩ := exists_handleAll_of_error a.mode o w readable he after
    refine ⟨clean, w', handled, ?_⟩
    rw [resultIn_run_of_ok ho, (inputs_eq_ok_iff a).2 ⟨once, kept⟩]
    simp only
    rw [named, failed]

/-- A file with a byte that is in no text comes after one that is not laid out, and the standard
    input is named twice. -/
theorem stops_at_first_failure_check :
    let w : World :=
      { directory := ⟨[⟨"a.js", "a".toUTF8⟩, ⟨"b.js", ⟨#[0xff]⟩⟩]⟩, stdin := .empty }
    (∃ clean w', resultIn (handleAll .check .standard [.file "a.js"]) w = (.ok clean, w') ∧
      exitIn ["--check", "a.js", "b.js", "a.js"] w = (2, w')) ∧
    exitIn ["--check", "a.js", "-", "-"] w = (2, w) := by
  intro w
  have read : Arguments.read? ["--check", "a.js", "b.js", "a.js"] =
      some { files := ["a.js", "b.js", "a.js"], flags := [.check] } := by decide +kernel
  have readTwice : Arguments.read? ["--check", "a.js", "-", "-"] =
      some { files := ["a.js", "-", "-"], flags := [.check] } := by decide +kernel
  have readable : w.directory.readText "a.js" = .ok "a" := by decide +kernel
  have unreadable : w.directory.readText "b.js" = .error .notText := by decide +kernel
  constructor
  · refine (stops_at_first_failure read rfl w).2 .standard rfl (by decide +kernel)
      (by decide +kernel) [.file "a.js"] (.file "b.js") [.file "a.js"] .notText
      (by decide +kernel) (fun earlier mem => ?_) unreadable
    rw [List.mem_singleton.1 mem]
    exact ⟨"a", readable⟩
  · exact (stops_at_first_failure readTwice rfl w).1 (.inr (.inl (by decide +kernel)))

end ScriptLayout.Command
