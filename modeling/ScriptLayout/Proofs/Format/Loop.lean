import ScriptLayout.Proofs.Format.Line
import ScriptLayout.Proofs.Format.Program
import ScriptLayout.Proofs.Loop.Statement

/-!
# The ends of loops

A do loop ends in a while that is not a header: it should open nothing, and its condition
and semicolon should stand on its line. They do if and only if the loop is known to have
ended where the while stands (`closing_while_iff`). There are programs in which that is not
so (`exists_closing_while_broken`): the end of a body is recorded with the scope that is
closed last, and it is missed if the body comes down to an empty block, for which no scope is
opened, or if the loop is the body of a header without braces, whose scope is closed after
that of the loop.
-/

namespace ScriptLayout

open Layout Loop
open Program (word mark)

/-! ### Places in a formatted source -/

/-- The state in which the token with the number `k` is placed. -/
def stateAt (options : Options) (source : String) (k : Nat) : State :=
  stateAfter {} (placeAll options.toStyle {} (lexemes source)) k

/-- The scopes that are open when the token with the number `k` is written. -/
def scopesAt (options : Options) (source : String) (k : Nat) : Scopes :=
  ((placeAll options.toStyle {} (lexemes source))[k]?.map fun p => p.state.scopes).getD {}

/-- The token with the number `k` stands on the line of the one before it, after a space at
    most. -/
def ContinuesLine (options : Options) (source : String) (k : Nat) : Prop :=
  textBefore options source k = (textAfter options source k).toList ∨
    textBefore options source k = (textAfter options source k).toList ++ [' ']

/-- A loop, the do of which has the number `k`, is known to have ended where its body has:
    the body does not come down to an empty block, and the outermost of the single
    statements that the loop is the body of, if there are any, is the body of a loop as
    well. Or else another loop is known to have ended before the last token of the body. -/
def KnownEnd (options : Options) (source : String) (k : Nat) (body : Phrase .statement) : Prop :=
  body.isHollow = false ∧
    ((outermost (stateAt options source k).scopes.inner).all Scope.isDo ∨
      (stateAt options source (k + body.lexemes.length)).doClosedNext)

section

variable {options : Options} {source : String} {k : Nat} {p : Placing} {t : Lexeme}

theorem scopesAt_eq (hp : (placeAll options.toStyle {} (lexemes source))[k]? = some p) :
    scopesAt options source k = p.state.scopes := by
  rw [scopesAt, hp]
  rfl

theorem continuesLine_of_inline {s : Scopes}
    (hp : (placeAll options.toStyle {} (lexemes source))[k]? = some p) (h : Inline s p) :
    ContinuesLine options source k := by
  rw [ContinuesLine, textBefore_eq hp]
  rcases h.gap with hg | hg <;> rw [hg]
  · exact .inl (List.reverse_reverse _)
  · exact .inr (by simp [Mark.write])

theorem not_continuesLine_of_line {depth : Nat}
    (hp : (placeAll options.toStyle {} (lexemes source))[k]? = some p)
    (hg : p.gap = [.line depth]) : ¬ ContinuesLine options source k := by
  rw [ContinuesLine, textBefore_eq hp, hg]
  simp [Mark.write]

end

/-! ### The layout of a loop -/

section

variable {options : Options} {source : String} {P Q : Placing → Prop} {st₁ st₂ st₃ st₄ last : State}
  {body : Phrase .statement} {front ts ts' rest : List Lexeme} {k : Nat}

/-- What is known of a loop, told by the states in which its do and the last token of its
    body are placed. -/
theorem knownEnd_iff (hsource : lexemes source = front ++ ([word "do"] ++ (body.lexemes ++ rest)))
    (hfront : Run options.toStyle P {} front ([word "do"] ++ (body.lexemes ++ rest)) st₁)
    (hdo : Run options.toStyle P st₁ [word "do"] (body.lexemes ++ rest) st₂)
    (hbody : Passes options.toStyle P st₂ body.lexemes rest last st₃) :
    KnownEnd options source front.length body ↔ body.isHollow = false ∧
      ((outermost st₁.scopes.inner).all Scope.isDo ∨ last.doClosedNext) := by
  have hfirst : stateAt options source front.length = st₁ := by
    have hstate := hfront.stateAfter_placeAll 0
    rwa [stateAfter_zero, ← hsource] at hstate
  have hlast : stateAt options source (front.length + body.lexemes.length) = last := by
    have hstate := (Passes.of_run (hfront.append hdo) hbody).stateAfter_placeAll
    rw [List.append_assoc, List.append_assoc, ← hsource] at hstate
    rwa [List.length_append, List.length_append, Nat.add_right_comm] at hstate
  rw [KnownEnd, hfirst, hlast]

/-- The layout of a source, where a run of its lexemes stands. -/
theorem exists_placing_source (hsource : lexemes source = ts ++ (ts' ++ rest))
    (h : Run options.toStyle P {} ts (ts' ++ rest) st₁)
    (h' : Run options.toStyle Q st₁ ts' rest st₂) (hk : k < ts'.length) : ∃ p,
      (placeAll options.toStyle {} (lexemes source))[ts.length + k]? = some p ∧ Q p := by
  rw [hsource]
  exact h.exists_placing_append h' hk

end

/-- How the while that ends a loop is placed, with its condition and its semicolon. -/
theorem Loop.Within.exists_closing (options : Options) (hstyle : options.openBraceOnNewLine = false)
    (source : String) {p : Phrase .statements} (hp : lexemes source = p.lexemes)
    {body : Phrase .statement} {c : Condition} {front back : List Lexeme}
    (hw : Within (.loop body c) p front back) {i : Nat}
    (hi : i = front.length + 1 + body.lexemes.length) : ∃ (s : Scopes) (known : Bool),
      (known ↔ KnownEnd options source front.length body) ∧
      (∃ q, (placeAll options.toStyle {} (lexemes source))[i]? = some q ∧ q.state.scopes = s) ∧
      (∀ k, i < k → k < i + 1 + c.inParens.length → ∃ q,
        (placeAll options.toStyle {} (lexemes source))[k]? = some q ∧ Inline s q) ∧
      ∃ q, (placeAll options.toStyle {} (lexemes source))[i + 1 + c.inParens.length]? = some q ∧
        if known then Inline s q else q.gap = [.line (s.depth + 1)] ∧
          q.state.scopes = s.push .single := by
  -- The lexemes of the source: those up to the while, and those of the end of the loop.
  obtain ⟨before, hbefore⟩ : ∃ before, before = front ++ [word "do"] ++ body.lexemes := ⟨_, rfl⟩
  have hlength : before.length = i := by
    rw [hbefore, hi, List.length_append, List.length_append]
    rfl
  obtain ⟨ending, hending⟩ : ∃ ending, ending =
    [word "while"] ++ (c.inParens ++ ([mark .semicolon ";"] ++ (back ++ []))) := ⟨_, rfl⟩
  have hlexemes : (Phrase.loop body c).lexemes ++ (back ++ []) =
      [word "do"] ++ (body.lexemes ++ ending) := by
    simp [Phrase.lexemes, hending]
  have hsource : lexemes source = front ++ ([word "do"] ++ (body.lexemes ++ ending)) := by
    rw [hp, hw.lexemes_eq, ← List.append_nil back, hlexemes]
  have hwhile : lexemes source = before ++ ending := by
    rw [hsource, hbefore, List.append_assoc, List.append_assoc]
  -- How they are placed.
  have hstyle : options.toStyle.openBraceOnNewLine = false := hstyle
  obtain ⟨scopes, st₁, hfront, hstarts, hresumes⟩ := hw.exists_run hstyle starts_source resumes_nil
  rw [hlexemes] at hfront
  have hat : AtStatement scopes st₁ := hstarts
  obtain ⟨scopes', st₂, scope, hdo, hstarts₂, hdrop, hscope, hclosed⟩ :=
    hat.run_do options.toStyle body ending
  have hends : Program.Resumes ending := by
    rw [hending]
    rintro _ ⟨⟩
    decide
  obtain ⟨last, st₃, hbody, hat₃, hsignals⟩ := spec hstyle body hstarts₂ hends
  obtain ⟨st₄, st₅, st₆, hword, hcondition, hend, -⟩ := hat₃.run_closing options.toStyle
    (hdrop ▸ List.dropWhile_idempotent _ _) c hresumes
  have hknown := knownEnd_iff hsource hfront hdo hbody
  have hupTo := ((hfront.append hdo).append hbody.run).mono (Q := fun _ => True)
    fun _ _ => trivial
  rw [← hbefore] at hupTo
  subst hending
  have hupTo' := hupTo.append (hword.mono fun _ _ => trivial)
  have hupTo'' := hupTo'.append (hcondition.mono fun _ _ => trivial)
  refine ⟨st₃.scopes, signals st₃, ?_, ?_, fun k hk hk' => ?_, ?_⟩
  · have hloop : ((outermost scopes).getD scope).isDo = (outermost scopes).all Scope.isDo := by
      cases outermost scopes with
      | none => exact hscope
      | some _ => rfl
    rw [hknown, hat.inner, (hsignals _ hclosed).eq, hloop]
    simp
  · obtain ⟨q, hq, -, hs⟩ := exists_placing_source hwhile hupTo hword (Nat.succ_pos 0)
    exact ⟨q, hlength ▸ hq, hs⟩
  · obtain ⟨k, rfl⟩ := Nat.exists_eq_add_of_le (Nat.succ_le_of_lt hk)
    rw [← List.append_assoc] at hwhile
    obtain ⟨q, hq, hs⟩ := exists_placing_source hwhile hupTo' hcondition (k := k) (by omega)
    rw [List.length_append, hlength] at hq
    exact ⟨q, hq, hs⟩
  · rw [← List.append_assoc, ← List.append_assoc] at hwhile
    obtain ⟨q, hq, hs⟩ := exists_placing_source hwhile hupTo'' hend (Nat.succ_pos 0)
    rw [List.length_append, List.length_append, hlength] at hq
    exact ⟨q, hq, hs⟩

/-! ### The result -/

/-- The while that ends a loop opens nothing, and its condition and semicolon stand on its
    line, if and only if the loop is known to have ended there. -/
theorem closing_while_iff (options : Options) (hstyle : options.openBraceOnNewLine = false)
    (source : String) {p : Phrase .statements} (hp : lexemes source = p.lexemes)
    {body : Phrase .statement} {c : Condition} {front back : List Lexeme}
    (hw : Within (.loop body c) p front back) {i : Nat}
    (hi : i = front.length + 1 + body.lexemes.length) :
    (lexemes source).drop i = word "while" :: (c.inParens ++ mark .semicolon ";" :: back) ∧
    (∀ k t, (lexemes source)[k]? = some t → (textAfter options source (k + 1)).toList =
        textBefore options source k ++ t.text.toList ∧
      ∃ rest, format options source = .ok (textAfter options source (k + 1) ++ rest)) ∧
    ((∀ k, i < k → k ≤ i + c.inParens.length + 1 →
        scopesAt options source k = scopesAt options source i) ↔
      KnownEnd options source front.length body) ∧
    ((∀ k, i < k → k ≤ i + c.inParens.length + 1 → ContinuesLine options source k) ↔
      KnownEnd options source front.length body) := by
  obtain ⟨s, known, hknown, ⟨q, hq, hs⟩, hcondition, q', hq', hend⟩ :=
    hw.exists_closing options hstyle source hp hi
  have hlast : i + 1 + c.inParens.length = i + c.inParens.length + 1 := Nat.add_right_comm ..
  have hi' : i < i + c.inParens.length + 1 := by omega
  rw [hlast] at hq' hcondition
  refine ⟨?_, fun k t ht => ⟨toList_textAfter_succ options ht, ?_⟩, ?_, ?_⟩
  · have hfront : i = (front ++ [word "do"] ++ body.lexemes).length := by
      rw [hi, List.length_append, List.length_append]
      rfl
    rw [hp, hw.lexemes_eq, hfront, Phrase.lexemes]
    simp
  · have hstyle : options.toStyle.openBraceOnNewLine = false := hstyle
    obtain ⟨st', hrun, -⟩ := spec hstyle p starts_source resumes_nil
    rw [← hp] at hrun
    obtain ⟨rest, hrest⟩ := exists_render_of_keeps hrun.forall_placeAll options.indent (k + 1)
    exact ⟨rest, by rw [format_eq, hrest]; rfl⟩
  · rw [← hknown, scopesAt_eq hq, hs]
    refine ⟨fun h => ?_, fun h k hk hk' => ?_⟩
    · by_contra hf
      have hscopes := h _ hi' le_rfl
      rw [if_neg hf] at hend
      rw [scopesAt_eq hq', hend.2] at hscopes
      exact absurd (congrArg Scopes.depth hscopes) (by simp)
    · rw [if_pos h] at hend
      rcases Nat.lt_or_eq_of_le hk' with hlt | rfl
      · obtain ⟨q, hq, hinline⟩ := hcondition k hk hlt
        rw [scopesAt_eq hq, hinline.scopes]
      · rw [scopesAt_eq hq', hend.scopes]
  · rw [← hknown]
    refine ⟨fun h => ?_, fun h k hk hk' => ?_⟩
    · by_contra hf
      rw [if_neg hf] at hend
      exact not_continuesLine_of_line hq' hend.1 (h _ hi' le_rfl)
    · rw [if_pos h] at hend
      rcases Nat.lt_or_eq_of_le hk' with hlt | rfl
      · obtain ⟨q, hq, hinline⟩ := hcondition k hk hlt
        exact continuesLine_of_inline hq hinline
      · exact continuesLine_of_inline hq' hend

namespace Loop

/-- A condition of one operand. -/
def Condition.operand (e : Program.Operand) : Condition where
  lexemes := [e.toLexeme]
  balanced := by
    have hkinds : [Kind.symbol, .number, .string] ⊆ conditionKinds := by decide
    exact .plain (hkinds e.kind_mem) e.isLabel_eq_false .nil

/-- `a ;` -/
def Phrase.a : Phrase .statement :=
  .simple .a

end Loop

/-- A loop that is the body of another one, in the block of a header. -/
theorem closing_while_iff_nested : ∃ (p : Phrase .statements) (front back : List Lexeme),
    Options.standard.openBraceOnNewLine = false ∧
    lexemes "if(a)\x7bdo do a;while(a);while(a);\x7d" = p.lexemes ∧
    Within (.loop .a (.operand .a)) p front back ∧ front.length = 6 ∧
    9 = front.length + 1 + Phrase.a.lexemes.length ∧
    KnownEnd .standard "if(a)\x7bdo do a;while(a);while(a);\x7d" 6 .a ∧
    (∀ k, 9 < k → k ≤ 13 → scopesAt .standard "if(a)\x7bdo do a;while(a);while(a);\x7d" k =
      scopesAt .standard "if(a)\x7bdo do a;while(a);while(a);\x7d" 9) ∧
    ∀ k, 9 < k → k ≤ 13 →
      ContinuesLine .standard "if(a)\x7bdo do a;while(a);while(a);\x7d" k := by
  have hp : lexemes "if(a)\x7bdo do a;while(a);while(a);\x7d" =
      (Phrase.more (.headed "if" (by decide) (.operand .a)
        (.block (.more (.loop (.loop .a (.operand .a)) (.operand .a)) .none)))
        .none).lexemes := by decide +kernel
  have hw : Within (.loop .a (.operand .a)) (Phrase.more (.headed "if" (by decide)
      (.operand .a) (.block (.more (.loop (.loop .a (.operand .a)) (.operand .a)) .none)))
      .none) _ _ := .first (.headed (.block (.first (.loop .self))))
  have hknown : KnownEnd .standard "if(a)\x7bdo do a;while(a);while(a);\x7d" 6 .a :=
    ⟨rfl, .inl (by decide +kernel)⟩
  obtain ⟨-, -, hscopes, hlines⟩ := closing_while_iff .standard rfl _ hp hw (i := 9) rfl
  exact ⟨_, _, _, rfl, hp, hw, rfl, rfl, hknown, hscopes.2 hknown, hlines.2 hknown⟩

/-- The while that ends a loop may open a scope, as it does after an empty block. -/
theorem exists_closing_while_broken :
    ¬ ∀ (options : Options) (source : String) (p : Phrase .statements)
      (body : Phrase .statement) (c : Condition) (front back : List Lexeme) (i : Nat),
      options.openBraceOnNewLine = false → lexemes source = p.lexemes →
      Within (.loop body c) p front back → i = front.length + 1 + body.lexemes.length →
        (∀ k, i < k → k ≤ i + c.inParens.length + 1 →
          scopesAt options source k = scopesAt options source i) ∧
        ∀ k, i < k → k ≤ i + c.inParens.length + 1 → ContinuesLine options source k := by
  intro h
  have hp : lexemes "do\x7b\x7dwhile(a);" =
      (Phrase.more (.loop (.block .none) (.operand .a)) .none).lexemes := by decide +kernel
  obtain ⟨hscopes, -⟩ := h .standard _ _ _ _ _ _ 3 rfl hp (.first .self) rfl
  have hsemicolon : scopesAt .standard "do\x7b\x7dwhile(a);" 7 =
      scopesAt .standard "do\x7b\x7dwhile(a);" 3 := hscopes 7 (by decide) (by decide)
  exact absurd hsemicolon (by decide +kernel)

end ScriptLayout
