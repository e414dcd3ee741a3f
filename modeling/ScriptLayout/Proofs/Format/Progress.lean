import ScriptLayout.Proofs.Format.Respacing

/-!
# Layouts in the making

A layout is written token by token, and levels of indentation are taken back from
the end of what has been written (`Layout.writtenAfter`). What has been written up
to the end of a token is never touched again: it is how the layout begins
(`Layout.exists_render_eq`). How it reads depends on the tokens up to the one after
it, which is as far as the layout looks ahead (`Layout.take_placeAll`). So a source
may be changed from some place on, and its layout stays the same up to the last
token but one before that place (`format_common`).
-/

namespace ScriptLayout

namespace Layout

variable {unit : List Char} {layout : List Placing} {k : Nat}

/-- The text written when the first `k` tokens of a layout are, its last character
    first. -/
def writtenAfter (unit : List Char) (layout : List Placing) (k : Nat) : List Char :=
  (layout.take k).foldl (Placing.write unit) []

theorem writtenAfter_succ {p : Placing} (h : layout[k]? = some p) :
    writtenAfter unit layout (k + 1) = p.write unit (writtenAfter unit layout k) := by
  rw [writtenAfter, List.take_add_one, h, Option.toList_some, List.foldl_append]
  rfl

/-! ### What has been written stays -/

/-- What has been written of a layout is what its first tokens and gaps spell. -/
theorem reverse_writtenAfter {unit : String} (hn : '\n' ∉ unit.toList) (style : Style)
    (ts : List Lexeme) (k : Nat) :
    (writtenAfter unit.toList (placeAll style {} ts) k).reverse =
      spellAll unit.toList ((placeAll style {} ts).take k) := by
  obtain ⟨hs, hd⟩ := steady_placeAll style ts
  have hrender : render unit ((placeAll style {} ts).take k) =
      String.ofList (spellAll unit.toList ((placeAll style {} ts).take k) ++ ['\n']) := by
    refine render_eq hn (fun p hp => hs p (List.mem_of_mem_take hp)) fun p hp => hd p ?_
    rw [← List.drop_one, List.drop_take, List.drop_one] at hp
    exact List.mem_of_mem_take hp
  rw [render, ← writtenAfter, List.reverse_cons] at hrender
  exact List.append_cancel_right (String.ofList_injective hrender)

theorem spellAll_append (unit : List Char) (front back : List Placing) :
    spellAll unit (front ++ back) = spellAll unit front ++ spellAll unit back :=
  List.flatMap_append

/-- What has been written of a layout is how its text begins. -/
theorem exists_render_eq {unit : String} (hn : '\n' ∉ unit.toList) (style : Style)
    (ts : List Lexeme) (k : Nat) : ∃ rest, render unit (placeAll style {} ts) =
      String.ofList (writtenAfter unit.toList (placeAll style {} ts) k).reverse ++ rest := by
  refine ⟨String.ofList (spellAll unit.toList ((placeAll style {} ts).drop k) ++ ['\n']), ?_⟩
  calc render unit (placeAll style {} ts)
      = String.ofList (spellAll unit.toList
          ((placeAll style {} ts).take k ++ (placeAll style {} ts).drop k) ++ ['\n']) := by
        rw [List.take_append_drop, render_placeAll hn]
    _ = _ := by
        rw [spellAll_append, List.append_assoc, String.ofList_append, reverse_writtenAfter hn]

/-- The text of a token is the last thing that has been written after it. -/
theorem text_suffix_writtenAfter {p : Placing} (h : layout[k]? = some p) :
    p.text.toList <:+ (writtenAfter unit layout (k + 1)).reverse := by
  rw [writtenAfter_succ h, Placing.write, List.reverseAux_eq, List.reverse_append,
    List.reverse_reverse]
  exact List.suffix_append ..

/-! ### How far a layout looks ahead -/

/-- The placings of the first tokens depend on those and on the one after them. -/
theorem take_placeAll (style : Style) (st : State) {ts ts' : List Lexeme}
    (h : ts.take (k + 1) = ts'.take (k + 1)) :
    (placeAll style st ts).take k = (placeAll style st ts').take k := by
  induction k generalizing st ts ts' with
  | zero => rfl
  | succ k ih =>
    cases ts with
    | nil =>
      cases ts' with
      | nil => rfl
      | cons => simp at h
    | cons t ts =>
      cases ts' with
      | nil => simp at h
      | cons t' ts' =>
        rw [List.take_succ_cons, List.take_succ_cons] at h
        obtain ⟨rfl, htake⟩ := List.cons.inj h
        have hnext : ts.head? = ts'.head? := by
          simpa [List.head?_take] using congrArg List.head? htake
        rw [placeAll_cons, placeAll_cons, List.take_succ_cons, List.take_succ_cons, ← hnext,
          ih _ htake]

/-- The placing of a token is of that token. -/
theorem exists_placing (style : Style) (st : State) {ts : List Lexeme} {t : Lexeme}
    (h : ts[k]? = some t) :
    ∃ p, (placeAll style st ts)[k]? = some p ∧ p.text = t.text := by
  have htext := congrArg (·[k]?) (map_text_placeAll style st ts)
  simp only [List.getElem?_map, h, Option.map_some] at htext
  exact Option.map_eq_some_iff.1 htext

end Layout

/-- The text written when the first `i` tokens of a source are. -/
def textAfter (options : Options) (source : String) (i : Nat) : String :=
  String.ofList (Layout.writtenAfter options.indent.toList
    (Layout.placeAll options.toStyle {} (lexemes source)) i).reverse

/-! ### The result -/

/-- Sources that agree up to the token after the one with the number `i`, or end
    with that one and agree, have layouts that agree up to its text. -/
theorem format_common (options : Options) (source source' : String) {i : Nat}
    (hn : '\n' ∉ options.indent.toList) (hi : 1 ≤ i)
    (h : (i + 1 ≤ (lexemes source).length ∧ i + 1 ≤ (lexemes source').length ∧
        (lexemes source).take (i + 1) = (lexemes source').take (i + 1)) ∨
      (lexemes source).length = i ∧ (lexemes source').length = i ∧
        lexemes source = lexemes source') :
    ∃ head rest rest' : String, format options source = .ok (head ++ rest) ∧
      format options source' = .ok (head ++ rest') ∧
      textAfter options source i = head ∧ textAfter options source' i = head ∧
      ∃ t : Lexeme, (lexemes source)[i - 1]? = some t ∧ t.text.toList <:+ head.toList := by
  have htake : (lexemes source).take (i + 1) = (lexemes source').take (i + 1) := by
    rcases h with ⟨-, -, h⟩ | ⟨-, -, h⟩
    · exact h
    · rw [h]
  have hle : i ≤ (lexemes source).length := by
    rcases h with ⟨hlt, -⟩ | ⟨heq, -⟩ <;> omega
  obtain ⟨k, rfl⟩ := Nat.exists_eq_add_of_le' hi
  obtain ⟨t, ht⟩ : ∃ t, (lexemes source)[k]? = some t := ⟨_, List.getElem?_eq_getElem hle⟩
  obtain ⟨rest, hrest⟩ := Layout.exists_render_eq hn options.toStyle (lexemes source) (k + 1)
  obtain ⟨rest', hrest'⟩ := Layout.exists_render_eq hn options.toStyle (lexemes source') (k + 1)
  have htext : textAfter options source' (k + 1) = textAfter options source (k + 1) := by
    rw [textAfter, textAfter, Layout.writtenAfter, Layout.writtenAfter,
      Layout.take_placeAll options.toStyle {} htake]
  refine ⟨_, rest, rest', ?_, ?_, rfl, htext, t, ht, ?_⟩
  · rw [format_eq, hrest]
    rfl
  · rw [format_eq, hrest', ← htext]
    rfl
  · obtain ⟨p, hp, hpt⟩ := Layout.exists_placing options.toStyle {} ht
    rw [textAfter, String.toList_ofList, ← hpt]
    exact Layout.text_suffix_writtenAfter hp

/-- An empty block, after which a statement or a semicolon comes. -/
theorem format_common_block :
    (5 + 1 ≤ (lexemes "while(a){}b").length ∧ 5 + 1 ≤ (lexemes "while(a){};c").length ∧
      (lexemes "while(a){}b").take (5 + 1) = (lexemes "while(a){};c").take (5 + 1)) ∧
    ∃ head rest rest' : String,
      format .standard "while(a){}b" = .ok (head ++ rest) ∧
      format .standard "while(a){};c" = .ok (head ++ rest') ∧
      textAfter .standard "while(a){}b" 5 = head ∧ textAfter .standard "while(a){};c" 5 = head ∧
      ∃ t : Lexeme, (lexemes "while(a){}b")[5 - 1]? = some t ∧ t.text.toList <:+ head.toList := by
  have h : 5 + 1 ≤ (lexemes "while(a){}b").length ∧ 5 + 1 ≤ (lexemes "while(a){};c").length ∧
      (lexemes "while(a){}b").take (5 + 1) = (lexemes "while(a){};c").take (5 + 1) := by
    decide +kernel
  exact ⟨h, format_common .standard "while(a){}b" "while(a){};c" (by decide) (by decide) (.inl h)⟩

end ScriptLayout
