import ScriptLayout.Proofs.Branch.Statement
import ScriptLayout.Proofs.Format.Loop

/-!
# The indentation of branches

An else should be indented as the line is on which its if stands. It is if and only if the if
is not the body of a header itself (`else_aligned_iff`). There are programs in which it is one
(`exists_else_not_aligned`): the statement between the if and the else ends all the headers
around it, and not only the if, so that the else stands outside of a loop that it belongs to.
-/

namespace ScriptLayout

open Layout Loop Branch
open Program (word mark)

variable {options : Options} {source : String} {k : Nat} {P : Placing → Prop} {w : String}
  {front rest : List Lexeme} {st : State}

/-! ### The indentation of a line -/

/-- The blanks that the line of the token with the number `k` begins with. -/
def indentAt (options : Options) (source : String) (k : Nat) : List Char :=
  (Text.lastLine (textBefore options source k)).takeWhile Text.isBlank

/-- On the line of a token, the next token has the same indentation. -/
theorem indentAt_succ (hn : '\n' ∉ options.indent.toList) {t : Lexeme} {c : Char} {cs : List Char}
    (ht : (lexemes source)[k]? = some t) (htext : t.text.toList = c :: cs)
    (hc : Text.isBlank c = false) (hline : '\n' ∉ c :: cs) {p : Placing}
    (hp : (placeAll options.toStyle {} (lexemes source))[k + 1]? = some p)
    (hg : p.gap = [.space]) : indentAt options source (k + 1) = indentAt options source k := by
  have hline' : '\n' ∉ c :: cs ++ [' '] := by simpa using hline
  have hspell : spell options.indent.toList p.gap = [' '] := by rw [hg]; rfl
  rw [indentAt, textBefore_eq_append hn hp, toList_textAfter_succ options ht, hspell, htext,
    List.append_assoc, Text.lastLine_append hline', indentAt, List.takeWhile_append,
    List.cons_append, List.takeWhile_cons_of_neg (by simp [hc]), List.append_nil]
  split
  · next hall => exact ((List.takeWhile_prefix _).eq_of_length hall).symm
  · rfl

/-! ### Words -/

/-- The word after a run of lexemes, as it is placed. -/
theorem exists_place_word (hsource : lexemes source = front ++ word w :: rest)
    (hrun : Run options.toStyle P {} front (word w :: rest) st) (hruled : Ruled st)
    (hfun : w ≠ "function") (hlabel : isLabel w = false) :
    ∃ kinds ⊆ [Kind.openParen, .openBracket, .unaryPrefix, .dot], ∃ p,
      (placeAll options.toStyle {} (lexemes source))[front.length]? = some p ∧
      p.toDraft = (Draft.ofState st).spaceUnlessAfter kinds := by
  obtain ⟨kinds, hk, hdraft⟩ := exists_symbol_eq options.toStyle w rest.head? (.ofState st)
  rw [Program.functionDraft_eq hfun, Program.labelDraft_eq hlabel] at hdraft
  refine ⟨kinds, hk, place options.toStyle st (word w) rest.head?, ?_, ?_⟩
  · have hplace := hrun.getElem?_placeAll 0
    rw [placeAll_cons] at hplace
    rw [hsource]
    exact hplace
  · rw [place_of_ruled hruled]
    exact hdraft

/-- A word that begins a line stands behind the levels of the open scopes. -/
theorem lastLine_textBefore_word (hn : '\n' ∉ options.indent.toList)
    (hsource : lexemes source = front ++ word w :: rest)
    (hrun : Run options.toStyle P {} front (word w :: rest) st) (hruled : Ruled st)
    (hline : st.seam ≠ .joined) (hfun : w ≠ "function") (hlabel : isLabel w = false) :
    Text.lastLine (textBefore options source front.length) =
      levels options.indent.toList st.scopes.depth := by
  obtain ⟨kinds, -, p, hp, hdraft⟩ := exists_place_word hsource hrun hruled hfun hlabel
  have hfirst : (Draft.ofState st).first = true := by
    simp only [Ruled, List.mem_cons, List.not_mem_nil, or_false, hline, false_or] at hruled
    rcases hruled with hs | hs
    · rw [Draft.ofState, hs]
    · rw [Draft.ofState, hs]
      rfl
  rw [Draft.spaceUnlessAfter, hfirst, Bool.true_or, if_pos rfl] at hdraft
  have ht : (lexemes source)[front.length]? = some (word w) := by simp [hsource]
  have hstate : stateAfter {} (placeAll options.toStyle {} (lexemes source)) front.length = st := by
    rw [hsource]
    exact (hrun.stateAfter_placeAll 0).trans (stateAfter_zero ..)
  have hbegun := begun_draftAt hn ht
  rw [draftAt, hstate] at hbegun
  have haligned := hbegun.aligned hfirst
  rw [Draft.Aligned, scopes_ofState, ← hdraft] at haligned
  rw [textBefore]
  simp only [hp, Option.map_some, Option.getD_some]
  exact haligned

theorem takeWhile_levels (hu : ∀ c ∈ options.indent.toList, Text.isBlank c) (depth : Nat) :
    (levels options.indent.toList depth).takeWhile Text.isBlank =
      levels options.indent.toList depth :=
  List.takeWhile_eq_self_iff.2 fun _ hc => hu _ (mem_of_mem_levels hc)

/-- The levels on the line of a statement are those of the open scopes, also if the line has
    begun with the else before it. -/
theorem indentAt_of_leadsOn (hu : ∀ c ∈ options.indent.toList, Text.isBlank c)
    (hn : '\n' ∉ options.indent.toList) {scopes : List Scope}
    (hsource : lexemes source = front ++ word w :: rest)
    (hrun : Run options.toStyle (fun p => p.Keeps) {} front (word w :: rest) st)
    (hready : Ready scopes st)
    (hline : LeadsOn options.toStyle {} front (word w :: rest) scopes st)
    (hfun : w ≠ "function") (hlabel : isLabel w = false) :
    indentAt options source front.length = levels options.indent.toList scopes.length := by
  rcases hline with hline | ⟨hseam, hprevious, front', st₁, rfl, hrun', hfresh⟩
  · rw [indentAt, lastLine_textBefore_word hn hsource hrun hready.ruled hline hfun hlabel,
      takeWhile_levels hu, Scopes.depth, hready.inner]
  · have hsource' : lexemes source = front' ++ word "else" :: (word w :: rest) := by
      rw [hsource, List.append_assoc]
      rfl
    obtain ⟨kinds, hkinds, p, hp, hdraft⟩ :=
      exists_place_word hsource hrun hready.ruled hfun hlabel
    have hg : p.gap = [.space] := by
      have hnot : Kind.symbol ∉ kinds := fun hmem => absurd (hkinds hmem) (by decide)
      rw [hdraft, Draft.gap_spaceUnlessAfter, ofState_of_joined hseam]
      simp [hprevious, hnot]
    have ht : (lexemes source)[front'.length]? = some (word "else") := by simp [hsource']
    have hlength : (front' ++ [word "else"]).length = front'.length + 1 := by simp
    rw [hlength] at hp ⊢
    have helse : (word "else").text.toList = 'e' :: ['l', 's', 'e'] := rfl
    rw [indentAt_succ hn ht helse (by decide) (by decide) hp hg, indentAt,
      lastLine_textBefore_word hn hsource' hrun' hfresh.ruled hfresh.line (by decide) (by decide),
      takeWhile_levels hu, Scopes.depth, hfresh.inner]

/-! ### The lines of a branch -/

section

variable {p : Branch.Phrase .statements} {loose : Bool} {c : Condition}
  {body : Branch.Phrase (.statement false)} {alternative : Branch.Phrase (.statement loose)}
  {back : List Lexeme} {j : Nat}

/-- The lexemes of a source, up to the else of a branch. -/
theorem lexemes_eq_of_contains (hp : lexemes source = p.lexemes)
    (h : Contains p (.branch c body alternative) front back) :
    lexemes source = front ++ (word "if" :: c.inParens ++ body.lexemes) ++
      word "else" :: (alternative.lexemes ++ back) := by
  rw [hp, h.lexemes_eq]
  simp [Branch.Phrase.lexemes]

/-- The line of an if has the levels of the scopes around it, and the line of its else those
    of them that are left when its statement has ended: all of them if and only if the if does
    not come after the parenthesis of a header. -/
theorem exists_lines_of_contains (hstyle : options.openBraceOnNewLine = false)
    (hu : ∀ c ∈ options.indent.toList, Text.isBlank c) (hn : '\n' ∉ options.indent.toList)
    (hp : lexemes source = p.lexemes) (h : Contains p (.branch c body alternative) front back)
    (hj : (front ++ (word "if" :: c.inParens ++ body.lexemes)).length = j) :
    ∃ scopes : List Scope,
      indentAt options source front.length = levels options.indent.toList scopes.length ∧
      Text.lastLine (textBefore options source j) =
        levels options.indent.toList (scopes.dropWhile Scope.isSingle).length ∧
      (scopes.dropWhile Scope.isSingle = scopes ↔ ∀ t ∈ front.getLast?, t.kind ≠ .closeParen) := by
  have hstyle : options.toStyle.openBraceOnNewLine = false := hstyle
  obtain ⟨scopes, st, st', hif, hready, hline, hsettled, helse, hfresh⟩ :=
    h.exists_run_branch hstyle
  have hsource := lexemes_eq_of_contains hp h
  refine ⟨scopes, ?_, ?_, ?_⟩
  · rw [List.append_assoc, List.append_assoc, List.cons_append] at hsource
    rw [List.append_assoc] at hif hline
    exact indentAt_of_leadsOn hu hn hsource hif hready hline (by decide) (by decide)
  · rw [← hj, lastLine_textBefore_word hn hsource helse hfresh.ruled hfresh.line (by decide)
      (by decide), Scopes.depth, hfresh.inner]
  · rw [hsettled, hif.previous_eq]
    cases front.getLast? with
    | none => simp
    | some t => simp

end

/-! ### The result -/

/-- An else begins its line, and it is indented as the line of its if, if and only if the if
    does not come after the parenthesis of a header that it is the body of. -/
theorem else_aligned_iff (options : Options) (hstyle : options.openBraceOnNewLine = false)
    (hu : ∀ c ∈ options.indent.toList, Text.isBlank c) (hn : '\n' ∉ options.indent.toList)
    (hne : options.indent.toList ≠ []) (source : String) {p : Branch.Phrase .statements}
    (hp : lexemes source = p.lexemes) {loose : Bool} {c : Condition}
    {body : Branch.Phrase (.statement false)} {alternative : Branch.Phrase (.statement loose)}
    {front back : List Lexeme} (h : Contains p (.branch c body alternative) front back) {j : Nat}
    (hj : j = front.length + 1 + c.inParens.length + body.lexemes.length) :
    (lexemes source)[front.length]? = some (word "if") ∧
    (lexemes source)[j]? = some (word "else") ∧
    (∀ k t, (lexemes source)[k]? = some t → ∃ rest : String, format options source =
      .ok (String.ofList (textBefore options source k ++ t.text.toList) ++ rest)) ∧
    FirstOnLine options source j ∧
    (indentAt options source j = indentAt options source front.length ↔
      ∀ t ∈ front.getLast?, t.kind ≠ .closeParen) := by
  have hlength : (front ++ (word "if" :: c.inParens ++ body.lexemes)).length = j := by
    simp only [hj, List.length_append, List.length_cons]
    omega
  have hsource := lexemes_eq_of_contains hp h
  obtain ⟨scopes, hif, helse, hsettled⟩ := exists_lines_of_contains hstyle hu hn hp h hlength
  refine ⟨by simp [hsource], by simp [hsource, ← hlength], fun k t ht => exists_format_eq hn ht,
    ?_, ?_⟩
  · rw [FirstOnLine, helse]
    exact fun ch hch => hu ch (mem_of_mem_levels hch)
  · rw [indentAt, helse, takeWhile_levels hu, hif, levels_inj hne, ← hsettled]
    exact ⟨(List.dropWhile_suffix _).eq_of_length, fun hs => by rw [hs]⟩

namespace Branch

/-- `a ;` -/
def Phrase.a {loose : Bool} : Phrase (.statement loose) :=
  .simple .a

/-- `if ( a ) a ; else a ;` -/
def Phrase.ifElse : Phrase (.statement true) :=
  .branch (.operand .a) .a (.a : Phrase (.statement true))

end Branch

/-- A branch in the block of a loop. -/
theorem else_aligned_iff_block : ∃ (p : Branch.Phrase .statements) (front back : List Lexeme),
    Options.standard.openBraceOnNewLine = false ∧
    (∀ c ∈ Options.standard.indent.toList, Text.isBlank c) ∧
    '\n' ∉ Options.standard.indent.toList ∧ Options.standard.indent.toList ≠ [] ∧
    lexemes "while(a)\x7bif(a)a;else a;\x7d" = p.lexemes ∧
    Contains p Branch.Phrase.ifElse front back ∧ front.length = 5 ∧
    (∀ t ∈ front.getLast?, t.kind ≠ .closeParen) ∧
    FirstOnLine .standard "while(a)\x7bif(a)a;else a;\x7d" 11 ∧
    indentAt .standard "while(a)\x7bif(a)a;else a;\x7d" 11 =
      indentAt .standard "while(a)\x7bif(a)a;else a;\x7d" 5 := by
  have hp : lexemes "while(a)\x7bif(a)a;else a;\x7d" = (Branch.Phrase.more (.headed "while"
      (by decide) (by decide) (.operand .a) (.block .ifElse .none)) .none).lexemes := by
    decide +kernel
  have h : Contains (Branch.Phrase.more (.headed "while" (by decide) (by decide) (.operand .a)
      (.block .ifElse .none)) .none) Branch.Phrase.ifElse _ _ :=
    .part (.part (.part (.part .self .first) .headed) .block) .first
  have hfront : ∀ t ∈ [word "while", mark .openParen "(", word "a", mark .closeParen ")",
      mark .openBrace Program.braceOpen].getLast?, t.kind ≠ .closeParen := by decide
  have hu : ∀ c ∈ Options.standard.indent.toList, Text.isBlank c :=
    List.all_eq_true.1 (by decide)
  obtain ⟨-, -, -, hfirst, haligned⟩ :=
    else_aligned_iff .standard rfl hu (by decide) (by decide) _ hp h (j := 11) rfl
  exact ⟨_, _, _, rfl, hu, by decide, by decide, hp, h, rfl, hfront, hfirst, haligned.2 hfront⟩

/-- An else may stand outside of the loop that its if is the body of. -/
theorem exists_else_not_aligned :
    ¬ ∀ (source : String) (p : Branch.Phrase .statements) (loose : Bool) (c : Condition)
      (body : Branch.Phrase (.statement false)) (alternative : Branch.Phrase (.statement loose))
      (front back : List Lexeme) (j : Nat), lexemes source = p.lexemes →
      Contains p (.branch c body alternative) front back →
      j = front.length + 1 + c.inParens.length + body.lexemes.length →
      FirstOnLine .standard source j →
      indentAt .standard source j = indentAt .standard source front.length := by
  intro h
  have hp : lexemes "while(a)if(a)a;else a;" = (Branch.Phrase.more (.headed "while"
      (by decide) (by decide) (.operand .a) .ifElse) .none).lexemes := by decide +kernel
  have hfirst : FirstOnLine .standard "while(a)if(a)a;else a;" 10 :=
    List.all_eq_true.1 (by decide +kernel)
  have haligned := h _ _ true (.operand .a) .a .a _ _ 10 hp
    (.part (.part .self .first) .headed) rfl hfirst
  exact absurd haligned (by decide +kernel)

end ScriptLayout
