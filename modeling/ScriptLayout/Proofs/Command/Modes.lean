import Mathlib.Data.List.Nodup
import ScriptLayout.Proofs.Command.Run

/-!
# Modes

The modes of the command are views of the same layouts: one prints them, one names the files
that differ from theirs, and one rewrites just those (`modes_agree`). Printing and checking
leave the files alone, so that each source is found as it was (`handleAll_of_kept`). When
files are rewritten, each is found as it was because the paths lead to different files
(`exists_handleAll_write`).
-/

namespace ScriptLayout.Command

variable {w : World} {mode : Mode} {a b : Arguments} {o : Options} {words : List String}
  {f : String} {files : List String} {content layout : String → String}

/-! ### The same request in different modes -/

/-- The flags that choose a layout. -/
def Flag.ofLayout : List Flag :=
  [.braceOnNewLine, .noFunctionSpacing, .commentsInline, .noBreakAfterComment]

/-- The command line asks for a mode, and for the files and the layout of the arguments. -/
def Asks (words : List String) (mode : Mode) (a : Arguments) : Prop :=
  ∃ b, Arguments.read? words = some b ∧ b.help = false ∧ b.mode = mode ∧ b.files = a.files ∧
    b.config = a.config ∧ b.indent = a.indent ∧ ∀ flag ∈ Flag.ofLayout, b.has flag = a.has flag

theorem adjust_congr (hi : b.indent = a.indent)
    (hf : ∀ flag ∈ Flag.ofLayout, b.has flag = a.has flag) : b.adjust = a.adjust := by
  funext o
  rw [Arguments.adjust, Arguments.adjust, hi, hf .braceOnNewLine (by decide),
    hf .noFunctionSpacing (by decide), hf .commentsInline (by decide),
    hf .noBreakAfterComment (by decide)]

theorem optionsIn_congr (hc : b.config = a.config) (hi : b.indent = a.indent)
    (hf : ∀ flag ∈ Flag.ofLayout, b.has flag = a.has flag) : b.optionsIn = a.optionsIn := by
  funext d
  rw [Arguments.optionsIn, Arguments.optionsIn, hc, adjust_congr hi hf]

/-- A word that does not begin with a hyphen names a file. -/
theorem ofWord_of_plain (h : f.toList.head? ≠ some '-') : Input.ofWord f = .file f := by
  have first : ∀ parts, splitPath f ≠ "-" :: parts := by
    intro parts split
    rw [splitPath] at split
    obtain ⟨part, rest, go, hpart, -⟩ := List.map_eq_cons_iff.1 split
    have hpart : part = ['-'] := by simpa using congrArg String.toList hpart
    subst hpart
    cases chars : f.toList with
    | nil => rw [chars] at go; cases go
    | cons c cs =>
      rw [chars, splitPath.go] at go
      split_ifs at go
      · cases go
      · split at go <;> cases go <;> exact h (by rw [chars]; rfl)
  rw [Input.ofWord]
  split
  · exact absurd ‹_› (first _)
  · rfl

theorem exitIn_of_asks (h : Asks words mode a) (hfiles : a.files ≠ [])
    (plain : ∀ f ∈ a.files, f.toList.head? ≠ some '-') (ho : a.optionsIn w.directory = .ok o)
    {clean : Bool} {w' : World}
    (handled : resultIn (handleAll mode o (a.files.map .file)) w = (.ok clean, w')) :
    exitIn words w = (if clean then 0 else 1, w') := by
  obtain ⟨b, read, help, rfl, files, config, indent, flags⟩ := h
  have named : b.named = a.files.map .file := by
    rw [Arguments.named, files, if_neg (by simpa using hfiles)]
    exact List.map_congr_left fun f mem => ofWord_of_plain (plain f mem)
  have file_only : Input.stdin ∉ b.named := by simp [named]
  have accepted : b.inputs = .ok b.named :=
    (inputs_eq_ok_iff b).2 ⟨by rw [List.count_eq_zero_of_not_mem file_only]; omega,
      fun rewritten => file_only rewritten.2⟩
  rw [exitIn_eq read help, resultIn_run_of_ok (optionsIn_congr config indent flags ▸ ho),
    accepted, named]
  simp only
  rw [handled]

/-! ### Without rewriting -/

theorem response_eq (hm : mode ≠ .tokens) (input : Input) {source output : String}
    (h : format o source = .ok output) :
    mode.response o input source = mode.respondLayout input source output := by
  rw [Mode.response, Mode.respond, if_neg hm, h]
  rfl

theorem rewritten_respondLayout (hm : mode ≠ .write) (input : Input) (source output : String) :
    (mode.respondLayout input source output).rewritten = none := by
  cases mode with
  | write => exact absurd rfl hm
  | check => rw [Mode.respondLayout]; split_ifs <;> rfl
  | print | tokens => cases input <;> rfl

/-- Files that are not rewritten are all found as they were. -/
theorem handleAll_of_kept (ht : mode ≠ .tokens) (hw : mode ≠ .write)
    (hl : ∀ source, format o source = .ok (layout source))
    (hr : ∀ f ∈ files, w.directory.readText f = .ok (content f)) :
    let response f := mode.respondLayout (.file f) (content f) (layout (content f))
    resultIn (handleAll mode o (files.map .file)) w =
      (.ok (files.all fun f => (response f).clean),
        { w with
          stdout := w.stdout ++ String.join (files.map fun f => (response f).printed) }) := by
  intro response
  induction files generalizing w with
  | nil => simp only [List.map_nil, String.join_nil, String.append_empty]; rfl
  | cons f files ih =>
    have read : (Input.file f).readIn w = .ok (content f) := hr f List.mem_cons_self
    have handled : resultIn (handle mode o (.file f)) w =
        (.ok (response f).clean, { w with stdout := w.stdout ++ (response f).printed }) := by
      rw [handle_of_ok mode o read, response_eq ht _ (hl _), perform_of_printed]
      intro _ _ _ rewritten
      rw [rewritten_respondLayout hw] at rewritten
      cases rewritten
    have others := ih (w := { w with stdout := w.stdout ++ (response f).printed })
      fun g mem => hr g (List.mem_cons_of_mem _ mem)
    rw [List.map_cons, handleAll, resultIn_bind_of_ok handled, resultIn_bind_of_ok others,
      resultIn_pure, List.map_cons, String.join_cons, ← String.append_assoc, List.all_cons]

/-- What checking prints: the names of the files that differ from their layouts. -/
theorem join_printed_check (files : List String) (content layout : String → String) :
    String.join (files.map fun f =>
        (Mode.check.respondLayout (.file f) (content f) (layout (content f))).printed) =
      String.join ((files.filter fun f => layout (content f) ≠ content f).map (· ++ "\n")) := by
  induction files with
  | nil => rfl
  | cons f files ih =>
    rw [List.map_cons, String.join_cons, ih, Mode.respondLayout]
    by_cases same : layout (content f) = content f
    · rw [if_pos same, List.filter_cons_of_neg (by simpa using same), String.empty_append]
    · rw [if_neg same, List.filter_cons_of_pos (by simpa using same), List.map_cons,
        String.join_cons]
      rfl

theorem all_clean_check (files : List String) (content layout : String → String) :
    (files.all fun f =>
        (Mode.check.respondLayout (.file f) (content f) (layout (content f))).clean) =
      decide ((files.filter fun f => layout (content f) ≠ content f) = []) := by
  rw [Bool.eq_iff_iff, List.all_eq_true, decide_eq_true_iff, List.filter_eq_nil_iff]
  refine forall₂_congr fun f _ => ?_
  rw [Mode.respondLayout]
  by_cases same : layout (content f) = content f
  · simp [same]
  · simp [same]

/-! ### With rewriting -/

theorem exists_handle_write (hl : ∀ source, format o source = .ok (layout source))
    (hr : w.directory.readText f = .ok (content f)) :
    ∃ d, resultIn (handle .write o (.file f)) w = (.ok true, { w with directory := d }) ∧
      d.readText f = .ok (layout (content f)) ∧
      Directory.RewrittenAt ([f].filter fun f => layout (content f) ≠ content f) w.directory d := by
  have read : (Input.file f).readIn w = .ok (content f) := hr
  rw [handle_of_ok .write o read, response_eq (by decide) _ (hl _), Mode.respondLayout]
  by_cases same : layout (content f) = content f
  · refine ⟨w.directory, ?_, by rw [same]; exact hr, .refl _ _⟩
    rw [if_pos same, perform_of_printed (by simp)]
    simp only [String.append_empty]
  · obtain ⟨d, result, read', rewritten⟩ :=
      exists_perform (r := { rewritten := some (layout (content f)) }) rfl hr
    refine ⟨d, ?_, read', rewritten.mono (by simp [same])⟩
    rw [if_neg same, result]
    simp only [String.append_empty]

/-- Different files are all found as they were, and hold their layouts in the end. -/
theorem exists_handleAll_write (hl : ∀ source, format o source = .ok (layout source))
    (hr : ∀ f ∈ files, w.directory.readText f = .ok (content f))
    (distinct : (files.map w.directory.find).Nodup) :
    ∃ d, resultIn (handleAll .write o (files.map .file)) w =
        (.ok true, { w with directory := d }) ∧
      (∀ f ∈ files, d.readText f = .ok (layout (content f))) ∧
      Directory.RewrittenAt (files.filter fun f => layout (content f) ≠ content f)
        w.directory d := by
  induction files generalizing w with
  | nil => exact ⟨w.directory, rfl, nofun, .refl _ _⟩
  | cons f files ih =>
    obtain ⟨d, handled, read, rewritten⟩ := exists_handle_write hl (hr f List.mem_cons_self)
    rw [List.map_cons, List.nodup_cons] at distinct
    have apart : ∀ g ∈ files, w.directory.find f ≠ w.directory.find g := fun g mem same =>
      distinct.1 (same ▸ List.mem_map_of_mem mem)
    obtain ⟨d', handledAll, readAll, rewrittenAll⟩ :=
      ih (w := { w with directory := d })
        (fun g mem => by
          rw [rewritten.readText_eq fun p hp => ?_, hr g (List.mem_cons_of_mem _ mem)]
          rw [List.mem_singleton.1 (List.mem_of_mem_filter hp)]
          exact apart g mem)
        (by rw [List.map_congr_left fun g _ => rewritten.find_eq g]; exact distinct.2)
    have kept : d'.readText f = d.readText f := rewrittenAll.readText_eq fun g hg => by
      rw [rewritten.find_eq, rewritten.find_eq]
      exact (apart g (List.mem_of_mem_filter hg)).symm
    refine ⟨d', ?_, ?_, ?_⟩
    · rw [List.map_cons, handleAll, resultIn_bind_of_ok handled, resultIn_bind_of_ok handledAll,
        resultIn_pure, Bool.and_self]
    · intro g mem
      rcases List.mem_cons.1 mem with rfl | mem
      · rw [kept, read]
      · exact readAll g mem
    · have first := List.singleton_sublist.2 (List.mem_cons_self (a := f) (l := files))
      exact (rewritten.mono (first.filter _).subset).trans
        (rewrittenAll.mono ((List.sublist_cons_self f files).filter _).subset)

/-! ### The modes -/

/-- The modes agree. Given any number of files, each of them a text, printing gives the layouts
    in order and changes nothing; checking names the files that are not laid out, changes
    nothing either, and ends with status 1 if there is one; and rewriting prints nothing, leaves
    each file with its layout, and changes the contents of the files that checking names, and of
    no others. -/
theorem modes_agree {printing checking writing : List String} (hp : Asks printing .print a)
    (hc : Asks checking .check a) (hw : Asks writing .write a) (hfiles : a.files ≠ [])
    (plain : ∀ f ∈ a.files, f.toList.head? ≠ some '-') (ho : a.optionsIn w.directory = .ok o)
    (hr : ∀ f ∈ a.files, w.directory.readText f = .ok (content f))
    (distinct : (a.files.map w.directory.find).Nodup) :
    ∃ layout : String → String, (∀ source, format o source = .ok (layout source)) ∧
      let changed := a.files.filter fun f => layout (content f) ≠ content f
      exitIn printing w = (0, { w with
        stdout := w.stdout ++ String.join (a.files.map fun f => layout (content f)) }) ∧
      exitIn checking w = (if changed = [] then 0 else 1, { w with
        stdout := w.stdout ++ String.join (changed.map (· ++ "\n")) }) ∧
      ∃ d, exitIn writing w = (0, { w with directory := d }) ∧
        (∀ f ∈ a.files, d.readText f = .ok (layout (content f)) ∧
          (d.readBytes f ≠ w.directory.readBytes f ↔ f ∈ changed)) ∧
        Directory.RewrittenAt changed w.directory d := by
  obtain ⟨layout, hl⟩ :
      ∃ layout : String → String, ∀ source, format o source = .ok (layout source) :=
    ⟨_, format_eq o⟩
  have printed := handleAll_of_kept (show Mode.print ≠ .tokens by decide) (by decide) hl hr
  have checked := handleAll_of_kept (show Mode.check ≠ .tokens by decide) (by decide) hl hr
  obtain ⟨d, written, read, rewritten⟩ := exists_handleAll_write hl hr distinct
  refine ⟨layout, hl, ?_, ?_, d, ?_, fun f mem => ⟨read f mem, ?_⟩, rewritten⟩
  · have clean : (a.files.all fun f =>
        (Mode.print.respondLayout (.file f) (content f) (layout (content f))).clean) = true :=
      List.all_eq_true.2 fun _ _ => rfl
    rw [exitIn_of_asks hp hfiles plain ho printed, clean]
    rfl
  · rw [exitIn_of_asks hc hfiles plain ho checked, join_printed_check, all_clean_check]
    simp only [decide_eq_true_iff]
  · exact exitIn_of_asks hw hfiles plain ho written
  · refine ⟨fun changes => ?_, fun differs same => ?_⟩
    · by_contra kept
      refine changes (rewritten.readBytes_eq fun g hg same => kept ?_)
      have := List.inj_on_of_nodup_map distinct (List.mem_of_mem_filter hg) mem same
      exact this ▸ hg
    · have text : d.readText f = .ok (content f) := by
        rw [Directory.readText, same]
        exact hr f mem
      rw [read f mem, Except.ok.injEq] at text
      exact of_decide_eq_true (List.mem_filter.1 differs).2 text

/-- The second of two files is laid out already. -/
theorem modes_agree_two :
    let w : World :=
      { directory := ⟨[⟨"a.js", "a".toUTF8⟩, ⟨"b.js", "b\n".toUTF8⟩]⟩, stdin := .empty }
    exitIn ["a.js", "b.js"] w = (0, { w with stdout := "a\nb\n" }) ∧
    exitIn ["--check", "a.js", "b.js"] w = (1, { w with stdout := "a.js\n" }) ∧
    ∃ d, exitIn ["a.js", "b.js", "--write"] w = (0, { w with directory := d }) ∧
      d.readText "a.js" = .ok "a\n" ∧ Directory.RewrittenAt ["a.js"] w.directory d := by
  intro w
  have hp : Asks ["a.js", "b.js"] .print { files := ["a.js", "b.js"] } :=
    ⟨{ files := ["a.js", "b.js"] }, by decide +kernel, rfl, rfl, rfl, rfl, rfl, by decide⟩
  have hc : Asks ["--check", "a.js", "b.js"] .check { files := ["a.js", "b.js"] } :=
    ⟨{ files := ["a.js", "b.js"], flags := [.check] }, by decide +kernel, rfl, rfl, rfl, rfl, rfl,
      by decide⟩
  have hw : Asks ["a.js", "b.js", "--write"] .write { files := ["a.js", "b.js"] } :=
    ⟨{ files := ["a.js", "b.js"], flags := [.write] }, by decide +kernel, rfl, rfl, rfl, rfl, rfl,
      by decide⟩
  let content : String → String := fun f => if f = "a.js" then "a" else "b\n"
  have hr : ∀ f ∈ ["a.js", "b.js"], w.directory.readText f = .ok (content f) := by
    decide +kernel
  obtain ⟨layout, hl, printed, checked, d, written, held, rewritten⟩ :=
    modes_agree (w := w) (o := .standard) hp hc hw (by decide) (by decide +kernel) rfl hr
      (by decide +kernel)
  have a : layout "a" = "a\n" := Except.ok.inj ((hl "a").symm.trans (by decide +kernel))
  have b : layout "b\n" = "b\n" := Except.ok.inj ((hl "b\n").symm.trans (by decide +kernel))
  have ha : layout (content "a.js") = "a\n" := a
  have hb : layout (content "b.js") = "b\n" := b
  have changed : (["a.js", "b.js"].filter fun f => layout (content f) ≠ content f) = ["a.js"] := by
    rw [List.filter_cons, List.filter_cons, List.filter_nil, ha, hb]
    decide +kernel
  refine ⟨?_, ?_, d, written, ha ▸ (held "a.js" (by decide)).1, changed ▸ rewritten⟩
  · rw [printed, List.map_cons, List.map_cons, List.map_nil, ha, hb]
    rfl
  · rw [checked, changed]
    rfl

end ScriptLayout.Command
