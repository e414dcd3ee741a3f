import Mathlib.Data.List.TakeWhile
import Mathlib.Order.Bounds.Basic
import ScriptLayout.Text.Search

/-!
# Searches and runs in longer texts

What is found in a text is found in the same place when more text follows
(`find?_append`), or when less does (`find?_of_append`); before that place the text
does not stand anywhere (`not_prefix_drop_of_lt_find?`), so it is the first one
(`isLeast_of_find?`), as is the place where some character is found
(`isLeast_of_findIdx?`). A run of characters that ends with the text ends there before any
other text that does not continue it (`length_takeWhile_append`).
-/

namespace ScriptLayout.Text

variable {text rest rest' : List Char} {p : Char → Bool}

/-- An occurrence of a text lies within the text that is searched. -/
theorem find?_le {target text : List Char} {n : Nat} (h : find? target text = some n) :
    n + target.length ≤ text.length := by
  induction text generalizing n with
  | nil =>
    simp only [find?, List.isEmpty_iff] at h
    split at h
    · next ht => simp [ht, ← Option.some.inj h]
    · exact absurd h (by simp)
  | cons c text ih =>
    rw [find?] at h
    split at h
    · next hp =>
      obtain rfl := Option.some.inj h
      simpa using (List.isPrefixOf_iff_prefix.1 hp).length_le
    · obtain ⟨m, hm, rfl⟩ := Option.map_eq_some_iff.1 h
      have := ih hm
      rw [List.length_cons]
      omega

/-- The first occurrence of a text stays the first when more text follows. -/
theorem find?_append {target text : List Char} {n : Nat} (h : find? target text = some n)
    (rest : List Char) : find? target (text ++ rest) = some n := by
  induction text generalizing n with
  | nil =>
    simp only [find?, List.isEmpty_iff] at h
    split at h
    · next ht => rw [ht, find?_nil_left, h]
    · exact absurd h (by simp)
  | cons c text ih =>
    have hle := find?_le h
    rw [find?] at h
    rw [List.cons_append, find?]
    split at h
    · next hp =>
      have hp' : target.isPrefixOf (c :: (text ++ rest)) := by
        rw [List.isPrefixOf_iff_prefix] at hp ⊢
        exact hp.trans (List.prefix_append (c :: text) rest)
      rw [if_pos hp', h]
    · next hp =>
      -- A new occurrence across the end would start where there was none before.
      have hp' : ¬ target.isPrefixOf (c :: (text ++ rest)) := by
        rw [List.isPrefixOf_iff_prefix] at hp ⊢
        exact fun h' => hp (List.prefix_of_prefix_length_le h'
          (List.prefix_append (c :: text) rest) (by omega))
      obtain ⟨m, hm, rfl⟩ := Option.map_eq_some_iff.1 h
      rw [if_neg hp', ih hm, Option.map_some]

/-- What is found in a longer text within its first part is found in that part. -/
theorem find?_of_append {target text rest : List Char} {n : Nat}
    (h : find? target (text ++ rest) = some n) (hn : n + target.length ≤ text.length) :
    find? target text = some n := by
  induction text generalizing n with
  | nil =>
    obtain rfl : target = [] := List.eq_nil_of_length_eq_zero (by rw [List.length_nil] at hn; omega)
    rwa [find?_nil_left] at h ⊢
  | cons c text ih =>
    have hstarts : target.isPrefixOf (c :: text) ↔ target.isPrefixOf (c :: text ++ rest) := by
      rw [List.isPrefixOf_iff_prefix, List.isPrefixOf_iff_prefix]
      refine ⟨fun hp => hp.trans (List.prefix_append ..), fun hp => ?_⟩
      exact List.prefix_of_prefix_length_le hp (List.prefix_append ..) (by omega)
    rw [List.cons_append, find?, ← List.cons_append] at h
    rw [find?]
    by_cases hp : target.isPrefixOf (c :: text)
    · rw [if_pos (hstarts.1 hp)] at h
      rwa [if_pos hp]
    · rw [if_neg fun hp' => hp (hstarts.2 hp')] at h
      obtain ⟨m, hm, rfl⟩ := Option.map_eq_some_iff.1 h
      rw [if_neg hp, ih hm (by rw [List.length_cons] at hn; omega), Option.map_some]

/-- What is found stands where it is found. -/
theorem prefix_drop_of_find? {target : List Char} {n : Nat} (h : find? target text = some n) :
    target <+: text.drop n := by
  induction text generalizing n with
  | nil =>
    rw [find?] at h
    split at h
    · next ht => simp [List.isEmpty_iff.1 ht]
    · exact absurd h (by simp)
  | cons c text ih =>
    rw [find?] at h
    split at h
    · next hp =>
      obtain rfl := Option.some.inj h
      exact List.isPrefixOf_iff_prefix.1 hp
    · obtain ⟨m, hm, rfl⟩ := Option.map_eq_some_iff.1 h
      exact ih hm

/-- Before the place where it is found, a text does not stand anywhere. -/
theorem not_prefix_drop_of_lt_find? {target : List Char} {m n : Nat}
    (h : find? target text = some n) (hm : m < n) : ¬ target <+: text.drop m := by
  induction text generalizing m n with
  | nil =>
    rw [find?] at h
    split at h
    · exact absurd hm (by simp [← Option.some.inj h])
    · exact absurd h (by simp)
  | cons c text ih =>
    rw [find?] at h
    split at h
    · exact absurd hm (by simp [← Option.some.inj h])
    · next hp =>
      obtain ⟨n, hn, rfl⟩ := Option.map_eq_some_iff.1 h
      cases m with
      | zero => exact fun hp' => hp (List.isPrefixOf_iff_prefix.2 hp')
      | succ m => exact ih hn (Nat.lt_of_succ_lt_succ hm)

/-- What is not found does not stand anywhere. -/
theorem not_prefix_drop_of_find?_eq_none {target : List Char} (h : find? target text = none)
    (n : Nat) : ¬ target <+: text.drop n := by
  induction text generalizing n with
  | nil =>
    rw [find?] at h
    split at h
    · exact absurd h (by simp)
    · next ht => simpa using ht
  | cons c text ih =>
    rw [find?] at h
    split at h
    · exact absurd h (by simp)
    · next hp =>
      cases n with
      | zero => exact fun hp' => hp (List.isPrefixOf_iff_prefix.2 hp')
      | succ n => exact ih (Option.map_eq_none_iff.1 h) n

/-- What is found stands there first. -/
theorem isLeast_of_find? {target : List Char} {n : Nat} (h : find? target text = some n) :
    IsLeast {m | target <+: text.drop m} n :=
  ⟨prefix_drop_of_find? h, fun _ hm =>
    Nat.not_lt.1 fun hlt => not_prefix_drop_of_lt_find? h hlt hm⟩

/-! ### The first of some characters -/

/-- The character that comes next at a place is the one that stands there. -/
theorem exists_head?_drop_iff {n : Nat} :
    (∃ c ∈ (text.drop n).head?, p c) ↔ ∃ h : n < text.length, p text[n] := by
  rw [List.head?_drop]
  constructor
  · rintro ⟨c, hc, hp⟩
    obtain ⟨h, rfl⟩ := List.getElem?_eq_some_iff.1 hc
    exact ⟨h, hp⟩
  · rintro ⟨h, hp⟩
    exact ⟨text[n], List.getElem?_eq_getElem h, hp⟩

theorem isLeast_of_findIdx? {n : Nat} (h : text.findIdx? p = some n) :
    IsLeast {m | ∃ c ∈ (text.drop m).head?, p c} n := by
  obtain ⟨hn, hp, hlt⟩ := List.findIdx?_eq_some_iff_getElem.1 h
  refine ⟨exists_head?_drop_iff.2 ⟨hn, hp⟩, fun m hm => Nat.not_lt.1 fun hmn => ?_⟩
  obtain ⟨_, hpm⟩ := exists_head?_drop_iff.1 hm
  exact hlt m hmn hpm

theorem not_exists_head?_drop_of_findIdx? (h : text.findIdx? p = none) (n : Nat) :
    ¬ ∃ c ∈ (text.drop n).head?, p c := by
  rw [exists_head?_drop_iff]
  rintro ⟨hn, hp⟩
  rw [List.findIdx?_eq_none_iff.1 h text[n] (List.getElem_mem hn)] at hp
  exact Bool.false_ne_true hp

/-! ### Runs of characters -/

/-- A run that ends where `text` does consists of `text`. -/
theorem all_of_length_takeWhile
    (h : ((text ++ rest).takeWhile p).length = text.length) : ∀ c ∈ text, p c := by
  have heq : (text ++ rest).takeWhile p = text :=
    (List.prefix_of_prefix_length_le (List.takeWhile_prefix p) (List.prefix_append text rest)
      (Nat.le_of_eq h)).eq_of_length h
  exact fun c hc => List.mem_takeWhile_imp (heq.symm ▸ hc)

theorem takeWhile_eq_nil (h : ∀ c ∈ text.head?, p c = false) :
    text.takeWhile p = [] := by
  cases text with
  | nil => rfl
  | cons c text => rw [List.takeWhile_cons, h c rfl, if_neg Bool.false_ne_true]

/-- A run ends in the same place before every text that does not continue it. -/
theorem length_takeWhile_append
    (h : ((text ++ rest).takeWhile p).length = text.length)
    (hr : ∀ c ∈ rest'.head?, p c = false) :
    ((text ++ rest').takeWhile p).length = text.length := by
  rw [List.takeWhile_append_of_pos (all_of_length_takeWhile h), takeWhile_eq_nil hr,
    List.append_nil]

end ScriptLayout.Text
