import Bumper.Python.Basic

/-! # Taking apart text that was put together

The client ids and topics the code parses are put together by concatenation or a format string,
and taken apart again by `split` and `in`. When no part holds the separator, the parse undoes the
concatenation:

* `split_of_data_eq`, `split_join`: `split` gives the parts back;
* `contains_append_sep`: a text without the separator occurs in the whole exactly when it occurs in
  one of the two sides;
* `unpack2_splitMax`: unpacking a split with `maxsplit` into two names fails or succeeds as for the
  plain split. -/

namespace Bumper.Python

open scoped List

/-! ### Lists joined by a separator -/

@[simp] theorem intercalate_singleton {α : Type} (sep : α) (a : List α) :
    [sep].intercalate [a] = a := by
  simp [List.intercalate]

@[simp] theorem intercalate_cons_cons {α : Type} (sep : α) (a b : List α) (l : List (List α)) :
    [sep].intercalate (a :: b :: l) = a ++ sep :: [sep].intercalate (b :: l) := by
  simp [List.intercalate]

theorem intercalate_cons_eq {α : Type} (sep : α) (a : List α) (l : List (List α)) :
    [sep].intercalate (a :: l) = a ++ (l.map (sep :: ·)).flatten := by
  induction l generalizing a with
  | nil => simp
  | cons b l ih => rw [intercalate_cons_cons, ih]; simp

/-- A list without `c` occurs in `a ++ c :: b` exactly when it occurs in `a` or in `b`. -/
theorem infix_append_cons_iff {α : Type} {c : α} {l a b : List α} (hc : c ∉ l) :
    l <:+: a ++ c :: b ↔ l <:+: a ∨ l <:+: b := by
  constructor
  · rintro ⟨s, t, h⟩
    rw [List.append_assoc, List.append_eq_append_iff] at h
    rcases h with ⟨a', rfl, h⟩ | ⟨c', rfl, h⟩
    · -- the occurrence starts in `a`
      rw [List.append_eq_append_iff] at h
      rcases h with ⟨x, rfl, -⟩ | ⟨y, rfl, h⟩
      · exact .inl ⟨s, x, by simp⟩
      · cases y with
        | nil => exact .inl ⟨s, [], by simp⟩
        | cons y ys =>
          simp only [List.cons_append, List.cons.injEq] at h
          exact absurd (h.1 ▸ List.mem_append_right _ (List.mem_cons_self _ _)) hc
    · -- the occurrence starts at `c` or in `b`
      cases c' with
      | nil =>
        cases l with
        | nil => exact .inr List.nil_infix
        | cons x xs =>
          simp only [List.nil_append, List.cons_append, List.cons.injEq] at h
          exact absurd (h.1 ▸ List.mem_cons_self _ _) hc
      | cons y ys =>
        simp only [List.cons_append, List.cons.injEq] at h
        exact .inr ⟨ys, t, by rw [h.2, List.append_assoc]⟩
  · rintro (h | h)
    · exact h.trans (List.prefix_append a (c :: b)).isInfix
    · exact h.trans ((List.suffix_cons c b).trans (List.suffix_append a _)).isInfix

theorem singleton_infix_iff {α : Type} {c : α} {l : List α} : [c] <:+: l ↔ c ∈ l :=
  ⟨fun h => h.subset (List.mem_singleton_self c), fun h => by
    obtain ⟨s, t, rfl⟩ := List.mem_iff_append.1 h
    exact ⟨s, t, by simp⟩⟩

/-! ### `split` and `in` -/

/-- `split` of a text made of separator-free parts joined by the separator gives the parts. -/
theorem split_of_data_eq {s : String} {sep : Char} {parts : List String}
    (hs : s.data = [sep].intercalate (parts.map String.data)) (hsep : ∀ p ∈ parts, sep ∉ p.data)
    (hne : parts ≠ []) : split s sep = parts := by
  unfold split
  rw [hs, List.splitOn_intercalate _ _ (by simpa using hsep) (by simpa using hne), List.map_map]
  exact List.map_id'' (fun _ => rfl) parts

theorem data_intercalate_go (acc sep : String) (parts : List String) :
    (String.intercalate.go acc sep parts).data =
      acc.data ++ (parts.map fun p => sep.data ++ p.data).flatten := by
  induction parts generalizing acc with
  | nil => simp [String.intercalate.go]
  | cons p ps ih => simp [String.intercalate.go, ih, List.append_assoc]

theorem data_join {s : String} {sep : Char} (hs : s.data = [sep]) (p : String) (ps : List String) :
    (join s (p :: ps)).data = [sep].intercalate ((p :: ps).map String.data) := by
  simp [join, String.intercalate, data_intercalate_go, hs, intercalate_cons_eq, Function.comp_def]

/-- `split` undoes `join` on separator-free parts. -/
theorem split_join {s : String} {sep : Char} (hs : s.data = [sep]) {parts : List String}
    (hsep : ∀ p ∈ parts, sep ∉ p.data) (hne : parts ≠ []) : split (join s parts) sep = parts := by
  obtain ⟨p, ps, rfl⟩ := List.exists_cons_of_ne_nil hne
  exact split_of_data_eq (data_join hs p ps) hsep hne

/-- `c in s` for a one-character text. -/
theorem contains_eq_mem {s needle : String} {c : Char} (h : needle.data = [c]) :
    contains s needle = decide (c ∈ s.data) := by
  simp [contains, h, singleton_infix_iff]

/-- A text without the separator occurs in `x + sep + y` exactly when it occurs in `x` or `y`. -/
theorem contains_append_sep {s x y needle : String} {c : Char} (hs : s.data = x.data ++ c :: y.data)
    (hc : c ∉ needle.data) : contains s needle = (contains x needle || contains y needle) := by
  simp [contains, hs, infix_append_cons_iff hc]

/-! ### `split` with `maxsplit`, and unpacking -/

/-- With no more fields than `maxsplit`, `split` with `maxsplit` is the plain `split`. -/
theorem splitMax_eq_split {s : String} {sep : Char} {n : Nat} (h : (split s sep).length ≤ n) :
    splitMax s sep n = split s sep := by
  simp [splitMax, List.take_of_length_le h, Nat.not_lt.2 h]

theorem unpack2_eq_throw {σ α : Type} {xs : List α} (h : xs.length ≠ 2) :
    (unpack2 xs : PyM σ (α × α)) = throw .valueError := by
  match xs, h with
  | [], _ | [_], _ | _ :: _ :: _ :: _, _ => rfl

/-- Unpacking `s.split(sep, maxsplit)` into two names, for `maxsplit` at least two, succeeds
exactly when `s.split(sep)` has two fields. -/
theorem unpack2_splitMax {σ : Type} (s : String) (sep : Char) {n : Nat} (hn : 2 ≤ n) :
    (unpack2 (splitMax s sep n) : PyM σ (String × String)) = unpack2 (split s sep) := by
  by_cases hl : (split s sep).length ≤ n
  · rw [splitMax_eq_split hl]
  · have hm : (splitMax s sep n).length = n + 1 := by
      simp only [splitMax, List.length_append, List.length_take, if_pos (Nat.lt_of_not_le hl),
        List.length_singleton]
      omega
    rw [unpack2_eq_throw (by omega), unpack2_eq_throw (by omega)]

end Bumper.Python
