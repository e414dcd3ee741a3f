import ScriptLayout.Command.Run
import ScriptLayout.Proofs.Files.Rewriting
import ScriptLayout.Proofs.Layout.Placement

/-!
# Handling sources

What handling sources does to a world. A source is read without a trace (`Input.readIn`), and
one that can be read is handled without failing: it can be laid out, and a file that can be
read can be written to. Either way the same sources can be read afterwards as before
(`SameFaults`), so that sources are handled in order, also those given more than once, until
the first that cannot be read.

* `handle_of_error`: a source that cannot be read ends the run and changes nothing;
* `exists_handle`, `exists_handleAll`: readable sources are handled to the end, and which
  sources can be read does not change on the way;
* `handleAll_of_error`: with a source that cannot be read after readable ones, the run fails
  in the world in which handling those leaves it.
-/

namespace ScriptLayout.Command

variable {α β : Type} {w w' w'' : World} {mode : Mode} {o : Options} {input : Input}
  {inputs before after : List Input} {source : String} {cause : FileError}

/-! ### Computations in a world -/

/-- What a computation comes to in a world, and the world that it leaves. -/
def resultIn (x : ExceptT Failure (StateM World) α) (w : World) : Except Failure α × World :=
  x.run.run w

theorem resultIn_bind (x : ExceptT Failure (StateM World) α)
    (f : α → ExceptT Failure (StateM World) β) (w : World) : resultIn (x >>= f) w =
      match resultIn x w with
      | (.ok a, w') => resultIn (f a) w'
      | (.error e, w') => (.error e, w') := by
  rw [resultIn, ExceptT.run_bind, StateT.run_bind]
  simp only [resultIn]
  rcases StateT.run x.run w with ⟨_ | _, _⟩ <;> rfl

theorem resultIn_bind_of_ok {x : ExceptT Failure (StateM World) α}
    {f : α → ExceptT Failure (StateM World) β} {a : α} (h : resultIn x w = (.ok a, w')) :
    resultIn (x >>= f) w = resultIn (f a) w' := by
  rw [resultIn_bind, h]

theorem resultIn_bind_of_error {x : ExceptT Failure (StateM World) α}
    {f : α → ExceptT Failure (StateM World) β} {e : Failure}
    (h : resultIn x w = (.error e, w')) : resultIn (x >>= f) w = (.error e, w') := by
  rw [resultIn_bind, h]

theorem resultIn_bind_lift {x : StateM World α} {f : α → ExceptT Failure (StateM World) β} {a : α}
    (h : x.run w = (a, w')) : resultIn (liftM x >>= f) w = resultIn (f a) w' := by
  have lift : resultIn (liftM x : ExceptT Failure (StateM World) α) w =
      (.ok (x.run w).1, (x.run w).2) := rfl
  rw [resultIn_bind, lift, h]

theorem run_bind_of_run {x : StateM World α} {f : α → StateM World β} {a : α}
    (h : x.run w = (a, w')) : (x >>= f).run w = (f a).run w' := by
  rw [StateT.run_bind, h]
  rfl

theorem resultIn_pure (a : α) (w : World) : resultIn (pure a) w = (.ok a, w) := rfl

theorem resultIn_throw (e : Failure) (w : World) :
    resultIn (throw e : ExceptT Failure (StateM World) α) w = (.error e, w) := rfl

/-! ### One source -/

/-- The text of a source in a world. -/
def Input.readIn (w : World) : Input → Except FileError String
  | stdin => decodeText w.stdin
  | file path => w.directory.readText path

theorem read_run (input : Input) (w : World) :
    (input.read : StateM World (Except FileError String)).run w = (input.readIn w, w) := by
  cases input <;> rfl

theorem print_run (text : String) (w : World) :
    (Host.print text : StateM World Unit).run w = ((), { w with stdout := w.stdout ++ text }) :=
  rfl

theorem writeFile_run {path text : String} {d : Directory}
    (h : w.directory.writeText path text = .ok d) :
    (Host.writeFile path text : StateM World (Except FileError Unit)).run w =
      (.ok (), { w with directory := d }) := by
  simp only [Host.writeFile, StateT.run_bind, StateT.run_get, pure_bind, h]
  rfl

/-- What comes of a source of the given text. -/
def Mode.response (mode : Mode) (o : Options) (input : Input) (source : String) : Response :=
  ((mode.respond o input source).toOption).getD {}

/-- Something comes of every source. -/
theorem Mode.respond_eq (mode : Mode) (o : Options) (input : Input) (source : String) :
    mode.respond o input source = .ok (mode.response o input source) := by
  by_cases h : mode = .tokens
  · rw [response, respond, if_pos h]; rfl
  · rw [response, respond, if_neg h, format_eq]; rfl

theorem handle_of_error (mode : Mode) (o : Options) (h : input.readIn w = .error cause) :
    resultIn (handle mode o input) w = (.error (.unreadable input cause), w) := by
  rw [handle, resultIn_bind_lift (read_run input w), h]
  exact resultIn_throw _ w

theorem handle_of_ok (mode : Mode) (o : Options) (h : input.readIn w = .ok source) :
    resultIn (handle mode o input) w =
      resultIn ((mode.response o input source).perform input) w := by
  rw [handle, resultIn_bind_lift (read_run input w), h]
  simp only [mode.respond_eq]

theorem perform_of_printed {r : Response}
    (h : ∀ path text, input = .file path → r.rewritten = some text → False) (w : World) :
    resultIn (r.perform input) w = (.ok r.clean, { w with stdout := w.stdout ++ r.printed }) := by
  rw [Response.perform.eq_2 r input h, resultIn_bind_lift (print_run r.printed w), resultIn_pure]

/-- Where a file that can be read is rewritten, the new text is what is read from it. -/
theorem exists_perform {r : Response} {path text : String} (h : r.rewritten = some text)
    (hr : w.directory.readText path = .ok source) : ∃ d,
      resultIn (r.perform (.file path)) w =
        (.ok r.clean, { w with stdout := w.stdout ++ r.printed, directory := d }) ∧
      d.readText path = .ok text ∧ Directory.RewrittenAt [path] w.directory d := by
  obtain ⟨d, write, read, rewritten⟩ := Directory.exists_writeText hr text
  refine ⟨d, ?_, read, rewritten⟩
  rw [Response.perform.eq_1 r path text h, resultIn_bind_lift (print_run r.printed w),
    resultIn_bind_lift (writeFile_run (w := { w with stdout := w.stdout ++ r.printed }) write)]
  exact resultIn_pure r.clean _

/-! ### Which sources can be read -/

/-- In the worlds, the same sources cannot be read, for the same reasons. -/
def SameFaults (w w' : World) : Prop :=
  ∀ (input : Input) cause, input.readIn w' = .error cause ↔ input.readIn w = .error cause

theorem SameFaults.trans (h : SameFaults w w') (h' : SameFaults w' w'') : SameFaults w w'' :=
  fun input cause => (h' input cause).trans (h input cause)

theorem SameFaults.exists_readIn (h : SameFaults w w') (hr : input.readIn w = .ok source) :
    ∃ source', input.readIn w' = .ok source' := by
  cases read : input.readIn w' with
  | ok source' => exact ⟨source', rfl⟩
  | error cause => rw [(h input cause).1 read] at hr; cases hr

theorem sameFaults_printed (w : World) (text : String) :
    SameFaults w { w with stdout := w.stdout ++ text } := by
  intro input cause
  cases input <;> exact Iff.rfl

/-- A file that could be read and can be read again is the only one that is different. -/
theorem sameFaults_rewritten {path text stdout : String} {d : Directory}
    (hr : w.directory.readText path = .ok source) (hr' : d.readText path = .ok text)
    (rewritten : Directory.RewrittenAt [path] w.directory d) :
    SameFaults w { w with directory := d, stdout } := by
  intro input cause
  cases input with
  | stdin => exact Iff.rfl
  | file path' =>
    change d.readText path' = .error cause ↔ w.directory.readText path' = .error cause
    by_cases same : w.directory.find path' = w.directory.find path
    · have same' : d.find path' = d.find path := by
        rw [rewritten.find_eq, rewritten.find_eq, same]
      rw [Directory.readText_congr same, Directory.readText_congr same', hr, hr']
      exact iff_of_false nofun nofun
    · rw [rewritten.readText_eq fun p mem => List.mem_singleton.1 mem ▸ Ne.symm same]

/-- A source that can be read is handled to the end. -/
theorem exists_handle (mode : Mode) (o : Options) (h : input.readIn w = .ok source) :
    ∃ clean w', resultIn (handle mode o input) w = (.ok clean, w') ∧ SameFaults w w' := by
  rw [handle_of_ok mode o h]
  generalize mode.response o input source = r
  match input, rewritten : r.rewritten with
  | .file path, some text =>
    obtain ⟨d, result, read, at'⟩ := exists_perform rewritten h
    exact ⟨_, _, result, sameFaults_rewritten h read at'⟩
  | input, none =>
    exact ⟨_, _, perform_of_printed (by simp [rewritten]) w, sameFaults_printed w _⟩
  | .stdin, some _ =>
    exact ⟨_, _, perform_of_printed (by simp) w, sameFaults_printed w _⟩

/-! ### All sources -/

/-- Sources after others are handled next, in any surroundings. -/
theorem handleAll_append {m : Type → Type} [Monad m] [LawfulMonad m] [Host m] (mode : Mode)
    (o : Options) (before after : List Input) :
    (handleAll mode o (before ++ after) : ExceptT Failure m Bool) = do
      let clean ← handleAll mode o before
      let others ← handleAll mode o after
      return clean && others := by
  induction before with
  | nil => simp only [List.nil_append, handleAll, pure_bind, Bool.true_and, bind_pure]
  | cons input before ih =>
    simp only [List.cons_append, handleAll, ih, bind_assoc, pure_bind, Bool.and_assoc]

/-- Sources that can be read are all handled. -/
theorem exists_handleAll (mode : Mode) (o : Options) (inputs : List Input) (w : World)
    (h : ∀ input ∈ inputs, ∃ source, input.readIn w = .ok source) :
    ∃ clean w', resultIn (handleAll mode o inputs) w = (.ok clean, w') ∧ SameFaults w w' := by
  induction inputs generalizing w with
  | nil => exact ⟨true, w, rfl, fun _ _ => Iff.rfl⟩
  | cons input inputs ih =>
    obtain ⟨source, hr⟩ := h input List.mem_cons_self
    obtain ⟨clean, w₁, handled, same⟩ := exists_handle mode o hr
    obtain ⟨others, w₂, handledAll, same'⟩ := ih w₁ fun other mem =>
      let ⟨_, hr'⟩ := h other (List.mem_cons_of_mem _ mem)
      same.exists_readIn hr'
    refine ⟨clean && others, w₂, ?_, same.trans same'⟩
    rw [handleAll, resultIn_bind_of_ok handled, resultIn_bind_of_ok handledAll, resultIn_pure]

/-- After sources that can be read, one that cannot ends the run: what was done before it
    stays done, and nothing else is. -/
theorem exists_handleAll_of_error (mode : Mode) (o : Options) (w : World)
    (h : ∀ input ∈ before, ∃ source, input.readIn w = .ok source)
    (he : input.readIn w = .error cause) (after : List Input) :
    ∃ clean w', resultIn (handleAll mode o before) w = (.ok clean, w') ∧
      resultIn (handleAll mode o (before ++ input :: after)) w =
        (.error (.unreadable input cause), w') := by
  obtain ⟨clean, w', handled, same⟩ := exists_handleAll mode o before w h
  have failed := handle_of_error mode o ((same input cause).2 he)
  refine ⟨clean, w', handled, ?_⟩
  rw [handleAll_append, resultIn_bind_of_ok handled, handleAll,
    resultIn_bind_of_error (resultIn_bind_of_error failed)]

end ScriptLayout.Command
