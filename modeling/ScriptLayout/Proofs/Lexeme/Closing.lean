import Mathlib.Algebra.Ring.Parity
import Mathlib.Data.List.DropRight
import Mathlib.Order.Bounds.Basic
import ScriptLayout.Proofs.Lexeme.Unclosed

/-!
# Where lexemes are closed

A string, an inline comment and a regular expression are closed at the first place of
their body that closes them, and go on to some end of their own if there is none
(`ClosedAtFirst`). Which places close them is said here of the place and of the text before
it, without going through the body from its start:

  * a quote closes a string unless it is escaped, that is, unless an odd number of
    backslashes stands directly before it (`closedAtFirst_string`);
  * the next star and slash close an inline comment (`closedAtFirst_inlineComment`);
  * a slash closes a regular expression on its line unless it is escaped or in a class,
    that is, unless the last bracket before it that is not escaped is an opening one
    (`regexRest_regexTail`).

The scans that find these places take some characters and go on after them. What they
have taken matters through the escapes and the class that it leaves open only
(`isEscaped_append`, `inClassFrom_append`). They pair a backslash with the characters that
it matters to, and take any other one by itself (`isEscaped_cons`).
-/

namespace ScriptLayout.Lexeme

variable {text front : List Char} {n : Nat}

/-! ### The first place that closes a text -/

/-- What is closed at the first of the places with the property `p`, or else goes on to
    another end: `closed n` is what is closed at the place `n`. -/
inductive ClosedAtFirst (p : Nat → Prop) (closed : Nat → List Char) (unclosed : List Char) :
    List Char → Prop
  | first {n : Nat} : IsLeast {n | p n} n → ClosedAtFirst p closed unclosed (closed n)
  | none : (∀ n, ¬ p n) → ClosedAtFirst p closed unclosed unclosed

section Append

variable {p q : Nat → Prop}

/-- The first place after some that do not have the property. -/
theorem isLeast_add {k : Nat} (hlt : ∀ n < k, ¬ p n) (hp : ∀ n, p (n + k) ↔ q n)
    (h : IsLeast {n | q n} n) : IsLeast {n | p n} (n + k) := by
  refine ⟨(hp n).2 h.1, fun m hm => ?_⟩
  have hk : k ≤ m := Nat.not_lt.1 fun hmk => hlt m hmk hm
  obtain ⟨m, rfl⟩ := Nat.exists_eq_add_of_le' hk
  exact Nat.add_le_add_right (h.2 ((hp m).1 hm)) k

/-- Characters that do not close a text may come before it. -/
theorem ClosedAtFirst.append_left {closed closed' : Nat → List Char}
    {unclosed unclosed' : List Char} (h : ClosedAtFirst q closed unclosed text)
    (front : List Char) (hlt : ∀ n < front.length, ¬ p n) (hp : ∀ n, p (n + front.length) ↔ q n)
    (hc : ∀ n, closed' (n + front.length) = front ++ closed n)
    (hu : unclosed' = front ++ unclosed) : ClosedAtFirst p closed' unclosed' (front ++ text) := by
  cases h with
  | first hn => exact hc _ ▸ .first (isLeast_add hlt hp hn)
  | none hn =>
    refine hu ▸ .none fun m hm => ?_
    have hk : front.length ≤ m := Nat.not_lt.1 fun hmk => hlt m hmk hm
    obtain ⟨m, rfl⟩ := Nat.exists_eq_add_of_le' hk
    exact hn m ((hp m).1 hm)

/-- What is closed, and the same places of another text. -/
theorem ClosedAtFirst.map {closed : Nat → List Char} {unclosed : List Char}
    (h : ClosedAtFirst p closed unclosed text) (f : List Char → List Char) :
    ClosedAtFirst p (fun n => f (closed n)) (f unclosed) (f text) := by
  cases h with
  | @first n hn =>
    show ClosedAtFirst p (fun n => f (closed n)) (f unclosed) ((fun n => f (closed n)) n)
    exact .first hn
  | none hn => exact .none hn

/-- What is closed at its first character. -/
theorem ClosedAtFirst.zero (closed : Nat → List Char) {unclosed : List Char} (h : p 0) :
    ClosedAtFirst p closed unclosed (closed 0) :=
  .first ⟨h, fun _ _ => Nat.zero_le _⟩

end Append

/-! ### Escapes -/

/-- The number of backslashes that stand directly before a place. -/
def backslashesBefore (text : List Char) (n : Nat) : Nat :=
  ((text.take n).rtakeWhile (· == '\\')).length

/-- A place is escaped if an odd number of backslashes stands directly before it. -/
def IsEscaped (text : List Char) (n : Nat) : Prop :=
  Odd (backslashesBefore text n)

@[simp]
theorem not_isEscaped_zero (text : List Char) : ¬ IsEscaped text 0 := by
  simp [IsEscaped, backslashesBefore]

/-- A backslash escapes what comes after it, unless it is escaped itself. -/
theorem isEscaped_succ (text : List Char) (n : Nat) : IsEscaped text (n + 1) ↔
    text[n]?.elim (IsEscaped text n) fun c => c = '\\' ∧ ¬ IsEscaped text n := by
  rw [IsEscaped, IsEscaped, backslashesBefore, backslashesBefore, List.take_add_one]
  cases text[n]? with
  | none => simp
  | some c =>
    rw [Option.toList_some, List.rtakeWhile_concat, Option.elim_some]
    by_cases hc : c = '\\'
    · simp [hc, Nat.odd_add_one]
    · simp [hc]

/-- Text before another one matters to the escapes in that as long as it does at some
    place. -/
theorem isEscaped_append_of_le {m : Nat}
    (h : IsEscaped (front ++ text) (m + front.length) ↔ IsEscaped text m) (hm : m ≤ n) :
    IsEscaped (front ++ text) (n + front.length) ↔ IsEscaped text n := by
  induction n, hm using Nat.le_induction with
  | base => exact h
  | succ n _ ih =>
    have hget : (front ++ text)[n + front.length]? = text[n]? := by
      rw [List.getElem?_append_right (Nat.le_add_left ..), Nat.add_sub_cancel]
    rw [Nat.add_right_comm, isEscaped_succ, isEscaped_succ, hget, ih]

/-- Text that escapes nothing after it does not matter to what is escaped there. -/
theorem isEscaped_append (h : ¬ IsEscaped (front ++ text) front.length) (n : Nat) :
    IsEscaped (front ++ text) (n + front.length) ↔ IsEscaped text n :=
  isEscaped_append_of_le (by simpa using h) (Nat.zero_le n)

/-- A character that is no backslash escapes nothing. -/
theorem not_isEscaped_one {c : Char} (h : c ≠ '\\') (text : List Char) :
    ¬ IsEscaped (c :: text) 1 := by
  simp [isEscaped_succ, h]

/-- A backslash at the start of a text escapes the next character. -/
theorem isEscaped_one (text : List Char) : IsEscaped ('\\' :: text) 1 := by
  simp [isEscaped_succ]

/-- After a backslash and a character nothing is escaped, even if that is a backslash. -/
theorem not_isEscaped_two (d : Char) (text : List Char) : ¬ IsEscaped ('\\' :: d :: text) 2 := by
  simp [isEscaped_succ]

/-- A scan knows which characters a backslash escapes, itself among them. A character that
    escapes none of these does not matter to whether they are escaped later: a backslash
    before some other character escapes that one, which is no backslash. -/
theorem isEscaped_cons {escapes : Char → Bool} (hself : escapes '\\') {c : Char}
    (h : ¬ (c = '\\' ∧ text.head?.any escapes)) (n : Nat) (d : Char) (hd : d ∈ text[n]?)
    (he : escapes d) : IsEscaped ([c] ++ text) (n + [c].length) ↔ IsEscaped text n := by
  by_cases hc : c = '\\'
  · subst hc
    cases text with
    | nil => exact absurd hd (by simp)
    | cons e text =>
      have he' : ¬ escapes e := by simpa using h
      have hne : e ≠ '\\' := by rintro rfl; exact he' hself
      cases n with
      | zero => exact absurd he (Option.some.inj hd ▸ he')
      | succ n =>
        refine isEscaped_append_of_le (m := 1) ?_ (Nat.le_add_left 1 n)
        simp [isEscaped_succ, hne]
  · exact isEscaped_append (not_isEscaped_one hc text) n

/-! ### Strings -/

/-- A quote that is not escaped closes a string. -/
def ClosesString (quote : Char) (body : List Char) (n : Nat) : Prop :=
  body[n]? = some quote ∧ ¬ IsEscaped body n

/-- The quotes that close a string after some of its characters. -/
theorem closesString_append {quote : Char} (front text : List Char)
    (h : ∀ n, quote ∈ text[n]? →
      (IsEscaped (front ++ text) (n + front.length) ↔ IsEscaped text n)) (n : Nat) :
    ClosesString quote (front ++ text) (n + front.length) ↔ ClosesString quote text n := by
  rw [ClosesString, ClosesString, List.getElem?_append_right (Nat.le_add_left ..),
    Nat.add_sub_cancel]
  exact and_congr_right fun hc => by rw [h n hc]

/-- Only its own quote ends a string before the end of the text. -/
theorem ClosedAtFirst.eq_of_getLast?_ne {quote : Char} {body : List Char}
    (h : ClosedAtFirst (ClosesString quote body) (fun n => quote :: body.take (n + 1))
      (quote :: body) text) (c : Char) (hc : c ∈ text.getLast?) (hne : c ≠ quote) :
    text = quote :: body := by
  cases h with
  | @first n hn =>
    have hlast : (quote :: body.take (n + 1)).getLast? = some quote := by
      rw [List.take_add_one, hn.1.1, Option.toList_some, ← List.cons_append, List.getLast?_concat]
    exact absurd (Option.some.inj (hc.symm.trans hlast)) hne
  | none _ => rfl

/-- From within a string, the scan takes the characters through the first quote that closes
    it, or else the whole text. -/
theorem closedAtFirst_string {quote : Char} (hq : quote ≠ '\\') (text : List Char) :
    ClosedAtFirst (ClosesString quote text) (fun n => text.take (n + 1)) text
      (text.take (closingExtent quote text)) := by
  fun_induction closingExtent quote text with
  | case1 => exact .none fun n h => by simp [ClosesString] at h
  | case2 c =>
    by_cases hc : c = quote
    · exact .zero (fun n => [c].take (n + 1)) ⟨congrArg some hc, not_isEscaped_zero _⟩
    · refine .none fun n h => ?_
      cases n <;> simp [ClosesString, hc] at h
  | case3 d text =>
    exact .zero (fun n => (quote :: d :: text).take (n + 1)) ⟨rfl, not_isEscaped_zero _⟩
  | case4 c d text hc he ih =>
    -- An escape closes nothing, and leaves nothing escaped after it.
    obtain ⟨rfl, -⟩ := he
    rw [Nat.add_comm 2]
    have hescape := not_isEscaped_two d text
    refine ih.append_left ['\\', d] (fun n hn h => ?_)
      (closesString_append ['\\', d] text fun n _ => isEscaped_append hescape n) (fun _ => rfl) rfl
    rcases Nat.le_one_iff_eq_zero_or_eq_one.1 (Nat.le_of_lt_succ hn) with rfl | rfl
    · exact hq (Option.some.inj h.1).symm
    · exact h.2 (isEscaped_one _)
  | case5 c d text hc he ih =>
    -- One character. Where it is a backslash, what it escapes is no quote of the string.
    rw [Nat.add_comm 1]
    have hescape : ¬ (c = '\\' ∧ (d :: text).head?.any fun e => e == '\\' || e == quote) := by
      simpa using he
    refine ih.append_left [c] (fun n hn h => ?_) (closesString_append [c] (d :: text)
      fun n hn => isEscaped_cons rfl hescape n quote hn (by simp)) (fun _ => rfl) rfl
    obtain rfl := Nat.lt_one_iff.1 hn
    exact hc (Option.some.inj h.1)

/-! ### Inline comments -/

/-- From within an inline comment, the scan takes the characters through the next star and
    slash, or else the whole text. -/
theorem closedAtFirst_inlineComment (text : List Char) :
    ClosedAtFirst (fun n => ['*', '/'] <+: text.drop n) (fun n => text.take (n + 2)) text
      (text.take (inlineCommentExtent text - 2)) := by
  rw [inlineCommentExtent]
  split
  · next n hn =>
    rw [Nat.add_sub_cancel, Nat.add_comm 2]
    exact .first (Text.isLeast_of_find? hn)
  · next hn =>
    rw [Nat.add_sub_cancel_left, List.take_length]
    exact .none (Text.not_prefix_drop_of_find?_eq_none hn)

/-! ### Regular expressions -/

/-- A bracket that is not escaped opens or closes a class. -/
def IsBracket (text : List Char) (n : Nat) : Prop :=
  (text[n]? = some '[' ∨ text[n]? = some ']') ∧ ¬ IsEscaped text n

/-- A place is in a class if the last bracket before it that is not escaped is an opening
    one. -/
def InClass (text : List Char) (n : Nat) : Prop :=
  ∃ m < n, IsBracket text m ∧ text[m]? = some '[' ∧ ∀ l, m < l → l < n → ¬ IsBracket text l

/-- A slash that is neither escaped nor in a class closes a regular expression, if no line
    break comes before it. -/
def ClosesRegex (body : List Char) (n : Nat) : Prop :=
  body[n]? = some '/' ∧ ¬ IsEscaped body n ∧ ¬ InClass body n ∧
    ∀ c ∈ body.take n, isLineBreak c = false

/-- A place is in a class when one is open at the start of the text or not: the last bracket
    before it is an opening one, or there is none and a class was open. -/
def InClassFrom (isOpen : Prop) (text : List Char) (n : Nat) : Prop :=
  InClass text n ∨ isOpen ∧ ∀ m < n, ¬ IsBracket text m

/-- The places that close a regular expression from within, in a class or not. -/
def ClosesRegexFrom (isOpen : Prop) (body : List Char) (n : Nat) : Prop :=
  body[n]? = some '/' ∧ ¬ IsEscaped body n ∧ ¬ InClassFrom isOpen body n ∧
    ∀ c ∈ body.take n, isLineBreak c = false

theorem closesRegexFrom_false (body : List Char) :
    ClosesRegexFrom False body = ClosesRegex body := by
  funext n
  simp [ClosesRegexFrom, ClosesRegex, InClassFrom]

variable {isOpen : Prop}

@[simp]
theorem inClassFrom_zero (text : List Char) : InClassFrom isOpen text 0 ↔ isOpen := by
  simp [InClassFrom, InClass]

/-- A bracket settles whether a class is open after it, and other characters change nothing. -/
theorem inClassFrom_succ (text : List Char) (n : Nat) : InClassFrom isOpen text (n + 1) ↔
    IsBracket text n ∧ text[n]? = some '[' ∨ ¬ IsBracket text n ∧ InClassFrom isOpen text n := by
  by_cases hb : IsBracket text n
  · simp only [hb, true_and, not_true_eq_false, false_and, or_false]
    constructor
    · rintro (⟨m, hm, -, hc, hlast⟩ | ⟨-, hnone⟩)
      · rcases Nat.lt_succ_iff_lt_or_eq.1 hm with hlt | rfl
        · exact absurd hb (hlast n hlt n.lt_succ_self)
        · exact hc
      · exact absurd hb (hnone n n.lt_succ_self)
    · exact fun hc => .inl ⟨n, n.lt_succ_self, hb, hc, fun l hl hln => by omega⟩
  · simp only [hb, false_and, not_false_eq_true, true_and, false_or]
    refine or_congr ⟨?_, ?_⟩ (and_congr_right fun _ => ?_)
    · rintro ⟨m, hm, hbm, hc, hlast⟩
      have hne : m ≠ n := fun h => hb (h ▸ hbm)
      exact ⟨m, by omega, hbm, hc, fun l hl hln => hlast l hl (Nat.lt_succ_of_lt hln)⟩
    · rintro ⟨m, hm, hbm, hc, hlast⟩
      refine ⟨m, Nat.lt_succ_of_lt hm, hbm, hc, fun l hl hln => ?_⟩
      rcases Nat.lt_succ_iff_lt_or_eq.1 hln with hln | rfl
      · exact hlast l hl hln
      · exact hb
    · rw [Nat.forall_lt_succ_right, and_iff_left hb]

section Append

variable {front text : List Char}

/-- Brackets are brackets after any text that does not matter to the escapes of the
    characters that have one. -/
theorem isBracket_append (h : ∀ n, ∀ c ∈ text[n]?, isRegexEscape c →
      (IsEscaped (front ++ text) (n + front.length) ↔ IsEscaped text n)) (n : Nat) :
    IsBracket (front ++ text) (n + front.length) ↔ IsBracket text n := by
  rw [IsBracket, IsBracket, List.getElem?_append_right (Nat.le_add_left ..), Nat.add_sub_cancel]
  refine and_congr_right ?_
  rintro (hc | hc)
  · rw [h n '[' hc rfl]
  · rw [h n ']' hc rfl]

/-- What comes before a text matters to the classes in it only through the one it leaves
    open. -/
theorem inClassFrom_append
    (hb : ∀ n, IsBracket (front ++ text) (n + front.length) ↔ IsBracket text n) (n : Nat) :
    InClassFrom isOpen (front ++ text) (n + front.length) ↔
      InClassFrom (InClassFrom isOpen (front ++ text) front.length) text n := by
  induction n with
  | zero => simp
  | succ n ih =>
    have hget : (front ++ text)[n + front.length]? = text[n]? := by
      rw [List.getElem?_append_right (Nat.le_add_left ..), Nat.add_sub_cancel]
    rw [Nat.add_right_comm, inClassFrom_succ, inClassFrom_succ, hb, hget, ih]

/-- The slashes that close a regular expression after some of its characters. -/
theorem closesRegexFrom_append (hl : ∀ c ∈ front, isLineBreak c = false)
    (h : ∀ n, ∀ c ∈ text[n]?, isRegexEscape c →
      (IsEscaped (front ++ text) (n + front.length) ↔ IsEscaped text n)) (n : Nat) :
    ClosesRegexFrom isOpen (front ++ text) (n + front.length) ↔
      ClosesRegexFrom (InClassFrom isOpen (front ++ text) front.length) text n := by
  rw [ClosesRegexFrom, ClosesRegexFrom, inClassFrom_append (isBracket_append h),
    List.getElem?_append_right (Nat.le_add_left ..), Nat.add_sub_cancel, Nat.add_comm n,
    List.take_length_add_append, List.forall_mem_append]
  refine and_congr_right fun hc => ?_
  rw [Nat.add_comm, h n '/' hc rfl, and_iff_right hl]

end Append

/-- The characters that a regular expression takes from within, in a class or not: those
    through the first slash that closes it and the letters after that, or else those of the
    line. -/
def RegexRest (isOpen : Prop) (text : List Char) : List Char → Prop :=
  ClosedAtFirst (ClosesRegexFrom isOpen text)
    (fun n => text.take (n + 1) ++ (text.drop (n + 1)).takeWhile Text.isAlphabetic)
    (text.takeWhile fun c => !isLineBreak c)

/-- Where a slash closes a regular expression. -/
theorem RegexRest.of_slash (text : List Char) : RegexRest (false = true) ('/' :: text)
    ('/' :: text.takeWhile Text.isAlphabetic) :=
  .zero (fun n => ('/' :: text).take (n + 1) ++
    (('/' :: text).drop (n + 1)).takeWhile Text.isAlphabetic) (by simp [ClosesRegexFrom])

/-- A regular expression takes nothing of a line break. -/
theorem RegexRest.of_isLineBreak (h : ∀ c ∈ text.head?, isLineBreak c) :
    RegexRest isOpen text [] := by
  have hw : [] = text.takeWhile fun c => !isLineBreak c :=
    (Text.takeWhile_eq_nil fun c hc => by simp [h c hc]).symm
  rw [hw]
  refine .none fun n hn => ?_
  cases text with
  | nil => exact absurd hn.1 (by simp)
  | cons c text =>
    cases n with
    | zero =>
      obtain rfl : c = '/' := Option.some.inj hn.1
      exact absurd (h '/' rfl) (by decide)
    | succ n => simpa [h c rfl] using hn.2.2.2 c List.mem_cons_self

/-- A bracket settles whether a class is open after it. -/
theorem inClassFrom_one (inClass : Bool) (c : Char) (text : List Char) :
    InClassFrom (inClass = true) ([c] ++ text) [c].length ↔ classAfter inClass c = true := by
  have hb : IsBracket (c :: text) 0 ↔ c = '[' ∨ c = ']' := by simp [IsBracket]
  rw [List.length_singleton, List.singleton_append, inClassFrom_succ, inClassFrom_zero, hb,
    classAfter]
  by_cases ho : c = '['
  · simp [ho]
  · by_cases hc : c = ']' <;> simp [ho, hc]

/-- An escape leaves open what was open. -/
theorem inClassFrom_two (d : Char) (text : List Char) :
    InClassFrom isOpen (['\\', d] ++ text) ['\\', d].length ↔ isOpen := by
  have hfirst : ¬ IsBracket ('\\' :: d :: text) 0 := by simp [IsBracket]
  have hsecond : ¬ IsBracket ('\\' :: d :: text) 1 := fun h => h.2 (isEscaped_one _)
  show InClassFrom isOpen ('\\' :: d :: text) (0 + 1 + 1) ↔ isOpen
  simp [inClassFrom_succ, hfirst, hsecond]

/-- A regular expression takes a character that does not end it, and goes on after it. -/
theorem RegexRest.cons {inClass : Bool} {c : Char} {taken : List Char}
    (hb : isLineBreak c = false) (hc : ¬ (c = '/' ∧ inClass = false))
    (he : ¬ (c = '\\' ∧ text.head?.any isRegexEscape))
    (h : RegexRest (classAfter inClass c = true) text taken) :
    RegexRest (inClass = true) (c :: text) (c :: taken) := by
  refine h.append_left [c] (fun n hn hcl => ?_) (fun n => ?_) (fun _ => rfl) ?_
  · obtain rfl := Nat.lt_one_iff.1 hn
    refine hc ⟨Option.some.inj hcl.1, ?_⟩
    simpa using hcl.2.2.1
  · rw [← List.singleton_append, closesRegexFrom_append (by simpa using hb) (isEscaped_cons rfl he),
      inClassFrom_one]
  · simp [hb]

/-- A regular expression takes an escape, and goes on after it. -/
theorem RegexRest.escape {d : Char} {taken : List Char} (hd : isRegexEscape d)
    (h : RegexRest isOpen text taken) :
    RegexRest isOpen ('\\' :: d :: text) ('\\' :: d :: taken) := by
  have hb : ∀ c ∈ ['\\', d], isLineBreak c = false := by
    have hbd : isLineBreak d = false := by
      simpa using fun h => isRegexEscape_of_isLineBreak h hd
    have hbb : isLineBreak '\\' = false := rfl
    simp [hbd, hbb]
  refine h.append_left ['\\', d] (fun n hn hcl => ?_) (fun n => ?_) (fun _ => rfl) ?_
  · rcases Nat.le_one_iff_eq_zero_or_eq_one.1 (Nat.le_of_lt_succ hn) with rfl | rfl
    · exact absurd hcl.1 (by simp)
    · exact hcl.2.1 (isEscaped_one _)
  · refine (closesRegexFrom_append hb (fun n c _ _ => isEscaped_append ?_ n) n).trans ?_
    · exact not_isEscaped_two d text
    · rw [inClassFrom_two]
  · simp [hb]

/-- The scan finds the end of a regular expression. -/
theorem regexRest_regexTail (inClass : Bool) (text : List Char) :
    RegexRest (inClass = true) text (text.take (regexTail inClass text)) := by
  fun_induction regexTail inClass text with
  | case1 => exact .of_isLineBreak (by simp)
  | case2 inClass c hb => exact .of_isLineBreak (by simpa using hb)
  | case3 inClass c hb =>
    -- The last character of the text is the slash that closes it, or another one.
    by_cases hc : c = '/' ∧ inClass = false
    · obtain ⟨rfl, rfl⟩ := hc
      exact .of_slash []
    · exact .cons (by simpa using hb) hc (by simp) (.of_isLineBreak (by simp))
  | case4 inClass c d text hb => exact .of_isLineBreak (by simpa using hb)
  | case5 inClass c d text hb hc =>
    obtain ⟨rfl, rfl⟩ := hc
    rw [Nat.add_comm 1, List.take_succ_cons, ← List.prefix_iff_eq_take.1 (List.takeWhile_prefix _)]
    exact .of_slash (d :: text)
  | case6 inClass c d text hb hc he ih =>
    obtain ⟨rfl, hd⟩ := he
    rw [Nat.add_comm 2, List.take_succ_cons, List.take_succ_cons]
    exact ih.escape hd
  | case7 inClass c d text hb hc he ih =>
    rw [Nat.add_comm 1, List.take_succ_cons]
    exact .cons (by simpa using hb) hc (by simpa using he) ih

end ScriptLayout.Lexeme
