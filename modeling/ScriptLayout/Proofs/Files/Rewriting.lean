import Mathlib.Data.List.Forall2
import ScriptLayout.Files.Directory

/-!
# Rewriting files

Writing a text to a file changes what is read from it, and nothing else. Where paths lead
depends on the names of the files only, which writing leaves alone (`RewrittenAt`): so a
file stays where it is under all the paths that lead to it, and the others keep their
contents.
-/

namespace ScriptLayout

/-- A text is read back from its bytes. -/
theorem decodeText_toUTF8 (text : String) : decodeText text.toUTF8 = .ok text := by
  have h : String.fromUTF8? text.toUTF8 = some text := by
    simp only [String.fromUTF8?, String.toUTF8_eq_toByteArray, dif_pos text.isValidUTF8]
    rfl
  rw [decodeText, h]

namespace Directory

variable {d d' d'' : Directory} {path text : String} {paths paths' : List String}
  {steps : List String}

/-- The contents of the file at the end of these steps. -/
def contentAt (d : Directory) (steps : List String) : Option ByteArray :=
  (d.files.find? fun f => f.steps == steps).map File.content

theorem readBytes_of_error {e : FileError} (h : d.find path = .error e) :
    d.readBytes path = .error e := by
  rw [readBytes, h]
  rfl

theorem readBytes_of_find (h : d.find path = .ok steps) :
    d.readBytes path = (d.contentAt steps).elim (.error .notFound) .ok := by
  have found : d.find path = pure steps := h
  rw [readBytes, found, pure_bind, contentAt]
  cases d.files.find? fun f => f.steps == steps <;> rfl

/-- What a path leads to tells what is read from it. -/
theorem readText_congr {path' : String} (h : d.find path' = d.find path) :
    d.readText path' = d.readText path := by
  rw [readText, readText, readBytes, readBytes, h]

theorem exists_readBytes_of_readText (h : d.readText path = .ok text) :
    ∃ bytes, d.readBytes path = .ok bytes := by
  rw [readText] at h
  cases read : d.readBytes path with
  | error e => rw [read] at h; cases h
  | ok bytes => exact ⟨bytes, rfl⟩

/-! ### What rewriting leaves alone -/

/-- The directories have the same files, but for the contents of those that one of the paths
    leads to. -/
def RewrittenAt (paths : List String) (d d' : Directory) : Prop :=
  List.Forall₂ (fun f f' => f'.name = f.name ∧
    (f'.content ≠ f.content → ∃ path ∈ paths, d.find path = .ok f.steps)) d.files d'.files

namespace RewrittenAt

theorem refl (paths : List String) (d : Directory) : RewrittenAt paths d d :=
  List.forall₂_same.2 fun _ _ => ⟨rfl, fun h => absurd rfl h⟩

theorem mono (h : RewrittenAt paths d d') (sub : paths ⊆ paths') : RewrittenAt paths' d d' :=
  List.Forall₂.imp (fun _ _ ⟨name, change⟩ => ⟨name, fun ne =>
    let ⟨path, mem, found⟩ := change ne
    ⟨path, sub mem, found⟩⟩) h

/-- What is told by the names of the files alone is the same. -/
theorem any_eq (h : RewrittenAt paths d d') {p : File → Bool}
    (name : ∀ f f' : File, f'.name = f.name → p f' = p f) : d'.files.any p = d.files.any p := by
  have congr : ∀ {fs fs' : List File}, List.Forall₂ (fun f f' : File => f'.name = f.name) fs fs' →
      fs'.any p = fs.any p := by
    intro fs fs' same
    induction same with
    | nil => rfl
    | cons hd _ ih => rw [List.any_cons, List.any_cons, ih, name _ _ hd]
  exact congr (List.Forall₂.imp (fun _ _ h => h.1) h)

theorem hasFile_eq (h : RewrittenAt paths d d') (steps : List String) :
    d'.hasFile steps = d.hasFile steps :=
  h.any_eq fun f f' name => by rw [File.steps, File.steps, name]

theorem hasFolder_eq (h : RewrittenAt paths d d') (steps : List String) :
    d'.hasFolder steps = d.hasFolder steps :=
  congrArg (isAbove steps || ·) (h.any_eq fun f f' name => by rw [File.folders, File.folders, name])

theorem walk_eq (h : RewrittenAt paths d d') (place : Place) (parts : List String) :
    d'.walk place parts = d.walk place parts := by
  induction parts generalizing place with
  | nil => cases place <;> simp only [walk]
  | cons part parts ih =>
    cases place with
    | file steps => simp only [walk]
    | folder steps => simp only [walk, h.hasFile_eq, h.hasFolder_eq, ih]

/-- Paths lead where they did. -/
theorem find_eq (h : RewrittenAt paths d d') (path : String) : d'.find path = d.find path := by
  rw [find, find, resolve, resolve, h.walk_eq]

theorem trans (h : RewrittenAt paths d d') (h' : RewrittenAt paths d' d'') :
    RewrittenAt paths d d'' := by
  refine List.forall₂_iff_get.2 ⟨h.length_eq.trans h'.length_eq, fun i hi hi'' => ?_⟩
  have hi' : i < d'.files.length := h.length_eq ▸ hi
  obtain ⟨name, change⟩ := h.get hi hi'
  obtain ⟨name', change'⟩ := h'.get hi' hi''
  refine ⟨name'.trans name, fun ne => ?_⟩
  by_cases same : (d'.files.get ⟨i, hi'⟩).content = (d.files.get ⟨i, hi⟩).content
  · obtain ⟨path, mem, found⟩ := change' (same ▸ ne)
    exact ⟨path, mem, by rw [← h.find_eq, found, File.steps, File.steps, name]⟩
  · exact change same

theorem contentAt_eq (h : RewrittenAt paths d d')
    (other : ∀ path ∈ paths, d.find path ≠ .ok steps) :
    d'.contentAt steps = d.contentAt steps := by
  rw [contentAt, contentAt]
  unfold RewrittenAt at h
  generalize d'.files = fs', d.files = fs at h ⊢
  induction h with
  | nil => rfl
  | @cons f f' fs fs' change _ ih =>
    have same : f'.steps = f.steps := by rw [File.steps, File.steps, change.1]
    rw [List.find?_cons, List.find?_cons, same]
    cases here : f.steps == steps with
    | false => exact ih
    | true =>
      have : f'.content = f.content := by
        by_contra ne
        obtain ⟨path, mem, found⟩ := change.2 ne
        exact other path mem (by rw [found, eq_of_beq here])
      exact congrArg some this

/-- A file that none of the paths leads to keeps its contents. -/
theorem readBytes_eq (h : RewrittenAt paths d d') (other : ∀ p ∈ paths, d.find p ≠ d.find path) :
    d'.readBytes path = d.readBytes path := by
  have lead := h.find_eq path
  cases found : d.find path with
  | error e => rw [readBytes_of_error found, readBytes_of_error (lead.trans found)]
  | ok steps =>
    rw [readBytes_of_find found, readBytes_of_find (lead.trans found),
      h.contentAt_eq fun p mem => found ▸ other p mem]

theorem readText_eq (h : RewrittenAt paths d d') (other : ∀ p ∈ paths, d.find p ≠ d.find path) :
    d'.readText path = d.readText path := by
  rw [readText, readText, h.readBytes_eq other]

end RewrittenAt

/-! ### Writing to one file -/

theorem rewrittenAt_replace (found : d.find path = .ok steps) (content : ByteArray) :
    RewrittenAt [path] d (d.replace steps content) := by
  refine List.forall₂_map_right_iff.2 (List.forall₂_same.2 fun f _ => ?_)
  by_cases here : f.steps == steps
  · rw [if_pos here]
    exact ⟨rfl, fun _ => ⟨path, List.mem_singleton_self path, by rw [found, eq_of_beq here]⟩⟩
  · rw [if_neg here]
    exact ⟨rfl, fun ne => absurd rfl ne⟩

theorem contentAt_replace (d : Directory) (steps : List String) (content : ByteArray) :
    (d.replace steps content).contentAt steps = (d.contentAt steps).map fun _ => content := by
  rw [contentAt, contentAt, replace, List.find?_map]
  have : ((fun f : File => f.steps == steps) ∘ fun f : File =>
      if f.steps == steps then { f with content } else f) = fun f => f.steps == steps := by
    funext f
    by_cases here : f.steps == steps
    · simp only [Function.comp, if_pos here]; rfl
    · simp only [Function.comp, if_neg here]
  rw [this]
  cases found : d.files.find? fun f => f.steps == steps with
  | none => rfl
  | some f => simp only [Option.map_some, if_pos (List.find?_some found)]

/-- A text can be written to every file that can be read, and is what is read from it then. -/
theorem exists_writeText {source : String} (h : d.readText path = .ok source) (text : String) :
    ∃ d', d.writeText path text = .ok d' ∧ d'.readText path = .ok text ∧
      RewrittenAt [path] d d' := by
  obtain ⟨bytes, h⟩ := exists_readBytes_of_readText h
  cases found : d.find path with
  | error e => rw [readBytes_of_error found] at h; cases h
  | ok steps =>
    have rewritten := rewrittenAt_replace found text.toUTF8
    refine ⟨d.replace steps text.toUTF8, by rw [writeText, found]; rfl, ?_, rewritten⟩
    rw [readText, readBytes_of_find ((rewritten.find_eq path).trans found), contentAt_replace]
    rw [readBytes_of_find found] at h
    cases there : d.contentAt steps with
    | none => rw [there] at h; cases h
    | some _ => exact decodeText_toUTF8 text

end Directory

end ScriptLayout
