import Mathlib.Data.List.Infix
import Mathlib.Data.List.Perm.Subperm

/-! # The Python the broker is written in

`mqttserver.py` is Python run by `asyncio`. Its methods are modelled as `PyM σ α`, an `EStateM`
computation over the state `σ` they mutate: a method returns, or raises a `PyExc`, and a raised
exception keeps every mutation made before it, as in Python. The built-ins the code applies to
topics and client ids are modelled with Python's semantics:

* `split s sep` is `s.split(sep)`: every field between two separators, empty ones included, so
  it never returns `[]`; `splitMax s sep n` is `s.split(sep, maxsplit=n)`; `contains s t` is
  `t in s`; `join` is `str.join`; `startsWith`, `strip` and `unpack2` (tuple unpacking) as well;
* `getItem xs i` is `xs[i]`, raising `IndexError` past the end (a missing key of a dict raises
  `KeyError`);
* `decode` is `bytes.decode("utf-8")`, on payloads represented by the text they decode to;
* `removeLoop` is a `for x in xs:` loop whose body removes `x` from `xs`, run the way CPython runs
  it, with an index that the removals do not move back. It removes only the elements it tests
  true (`count_forRemove`), so it keeps the others in order (`filter_forRemove`), and at
  least half of them (`countP_forRemove_le`).

`Keeps f x` says that `x` leaves the part `f` of the state as it was, whether it returns or
raises; `Preserves R x`, that it relates the state before to the state after by `R`, of which
`Keeps` is the case of equality. Both are closed under `>>=` (for `Preserves`, when `R` is
transitive), so the frame of a method follows from the frames of its statements. -/

namespace Bumper.Python

open scoped List

/-- The exceptions the modelled code raises. `systemExit` is raised by `exit(1)`; it is not an
`Exception`, so no `except Exception` handler of the source catches it. -/
inductive PyExc
  | indexError
  | keyError
  | nameError (name : String)
  | unicodeDecodeError
  | jsonDecodeError
  | valueError
  | external
  | systemExit
deriving DecidableEq, Repr

/-- `isinstance(e, Exception)`. -/
def PyExc.isException : PyExc → Bool
  | .systemExit => false
  | _ => true

/-- A method of the source over the state `σ`. -/
abbrev PyM (σ α : Type) := EStateM PyExc σ α

/-! ### Strings -/

/-- `s.split(sep)` for a one-character separator. -/
def split (s : String) (sep : Char) : List String := (s.data.splitOn sep).map String.mk

/-- `needle in s` for two strings: `needle` is a substring of `s`. -/
def contains (s needle : String) : Bool := decide (needle.data <:+: s.data)

/-- `sep.join(parts)`. -/
def join (sep : String) (parts : List String) : String := sep.intercalate parts

/-- `s.split(sep, maxsplit)`: the first `maxsplit` separators split, the rest of the text is the
last field. -/
def splitMax (s : String) (sep : Char) (maxsplit : Nat) : List String :=
  let parts := split s sep
  parts.take maxsplit ++
    if maxsplit < parts.length then [join (String.singleton sep) (parts.drop maxsplit)] else []

/-- `s.startswith(prefix)`. -/
def startsWith (s pre : String) : Bool := decide (pre.data <+: s.data)

/-- `c.isspace()`: the characters whose bidirectional type is `WS`, `B` or `S`, or whose category
is `Zs`. -/
def isSpace (c : Char) : Bool :=
  let n := c.toNat
  decide (9 ≤ n ∧ n ≤ 13 ∨ 28 ≤ n ∧ n ≤ 32 ∨ n = 133 ∨ n = 160 ∨ n = 5760 ∨
    8192 ≤ n ∧ n ≤ 8202 ∨ n = 8232 ∨ n = 8233 ∨ n = 8239 ∨ n = 8287 ∨ n = 12288)

/-- `s.strip()`: `s` without its leading and trailing whitespace. -/
def strip (s : String) : String :=
  ⟨((s.data.dropWhile isSpace).reverse.dropWhile isSpace).reverse⟩

/-- The bytes of an MQTT payload, as far as the code tells them apart: bytes that are valid UTF-8
are represented by the text they encode, so that `data.decode("utf-8")` gives `text` back and
`text.encode()` gives the bytes; any other bytes make the decoding raise. -/
inductive Bytes
  | utf8 (text : String)
  | invalid (raw : List UInt8)
deriving DecidableEq, Repr

/-- `text.encode()`. -/
def encode (text : String) : Bytes := .utf8 text

/-- `data.decode("utf-8")`. -/
def decode {σ : Type} : Bytes → PyM σ String
  | .utf8 text => pure text
  | .invalid _ => throw .unicodeDecodeError

/-- `(a, b) = xs`: unpacking a list into two names, which raises `ValueError` unless it has
exactly two items. -/
def unpack2 {σ α : Type} : List α → PyM σ (α × α)
  | [a, b] => pure (a, b)
  | _ => throw .valueError

/-- `xs[i]`. -/
def getItem {σ α : Type} (xs : List α) (i : Nat) : PyM σ α :=
  match xs[i]? with
  | some a => pure a
  | none => throw .indexError

/-! ### Frames -/

section Frame

variable {σ α β γ : Type}

/-- The state a method ends in, whether it returned or raised. -/
def finalState : EStateM.Result PyExc σ α → σ
  | .ok _ s => s
  | .error _ s => s

/-- The exception a method raised, if it raised one. -/
def raised : EStateM.Result PyExc σ α → Option PyExc
  | .ok _ _ => none
  | .error e _ => some e

/-- `x` relates the state it starts in to the state it ends in by `R`, whether it returns or
raises. -/
def Preserves (R : σ → σ → Prop) (x : PyM σ α) : Prop := ∀ s, R s (finalState (x.run s))

/-- `x` leaves the part `f` of the state as it was, whether it returns or raises: it preserves
the relation `f s' = f s`. -/
def Keeps (f : σ → β) (x : PyM σ α) : Prop := ∀ s, f (finalState (x.run s)) = f s

theorem run_bind (x : PyM σ α) (k : α → PyM σ γ) (s : σ) :
    (x >>= k).run s = match x.run s with
      | .ok a s' => (k a).run s'
      | .error e s' => .error e s' := by
  show EStateM.bind x k s = match x s with
    | .ok a s' => k a s'
    | .error e s' => .error e s'
  simp only [EStateM.bind]
  cases x s <;> rfl

@[simp] theorem run_pure (a : α) (s : σ) : (pure a : PyM σ α).run s = .ok a s := rfl

@[simp] theorem run_throw (e : PyExc) (s : σ) : (throw e : PyM σ α).run s = .error e s := rfl

@[simp] theorem run_get (s : σ) : (get : PyM σ σ).run s = .ok s s := rfl

@[simp] theorem run_set (s t : σ) : (set t : PyM σ PUnit).run s = .ok ⟨⟩ t := rfl

@[simp] theorem run_modify (g : σ → σ) (s : σ) : (modify g : PyM σ PUnit).run s = .ok ⟨⟩ (g s) :=
  rfl

theorem run_getItem (xs : List α) (i : Nat) (s : σ) :
    (getItem xs i : PyM σ α).run s = match xs[i]? with
      | some a => .ok a s
      | none => .error .indexError s := by
  unfold getItem; cases xs[i]? <;> rfl

theorem run_tryCatch (x : PyM σ α) (h : PyExc → PyM σ α) (s : σ) :
    (tryCatch x h).run s = match x.run s with
      | .ok a s' => .ok a s'
      | .error e s' => (h e).run s' := by
  show EStateM.tryCatch x h s = match x s with
    | .ok a s' => .ok a s'
    | .error e s' => h e s'
  unfold EStateM.tryCatch
  cases x s <;> rfl

theorem run_bind_of_ok {x : PyM σ α} {k : α → PyM σ γ} {s s' : σ} {a : α}
    (h : x.run s = .ok a s') : (x >>= k).run s = (k a).run s' := by
  rw [run_bind, h]

theorem finalState_run_bind (x : PyM σ α) (k : α → PyM σ γ) (s : σ) :
    finalState ((x >>= k).run s) = match x.run s with
      | .ok a s' => finalState ((k a).run s')
      | .error _ s' => s' := by
  rw [run_bind]; cases x.run s <;> rfl

/-- A continuation that leaves the state alone, such as a `return`, does not move the final
state. -/
theorem finalState_run_bind_of_keeps {x : PyM σ α} {k : α → PyM σ γ} (hk : ∀ a, Keeps id (k a))
    (s : σ) : finalState ((x >>= k).run s) = finalState (x.run s) := by
  rw [run_bind]
  cases x.run s with
  | ok a s' => exact hk a s'
  | error e s' => rfl

/-- A handler that only returns or re-raises leaves the state where the body left it. -/
theorem finalState_tryCatch {x : PyM σ α} {h : PyExc → PyM σ α} (hh : ∀ e, Keeps id (h e))
    (s : σ) : finalState ((tryCatch x h).run s) = finalState (x.run s) := by
  show finalState (EStateM.tryCatch x h s) = finalState (x s)
  unfold EStateM.tryCatch
  cases x s with
  | ok a s' => rfl
  | error e s' => exact hh e _

theorem Preserves.bind {R : σ → σ → Prop} (ht : Transitive R) {x : PyM σ α} {k : α → PyM σ γ}
    (hx : Preserves R x) (hk : ∀ a, Preserves R (k a)) : Preserves R (x >>= k) := by
  intro s
  rw [run_bind]
  have hs := hx s
  cases h : x.run s with
  | ok a s' => rw [h] at hs; exact ht hs (hk a s')
  | error e s' => rw [h] at hs; exact hs

/-- The relation `Keeps f` preserves is reflexive. -/
theorem reflexive_keeps (f : σ → β) : Reflexive fun s s' : σ => f s' = f s := fun _ => rfl

/-- The relation `Keeps f` preserves is transitive. -/
theorem transitive_keeps (f : σ → β) : Transitive fun s s' : σ => f s' = f s :=
  fun _ _ _ h₁ h₂ => h₂.trans h₁

theorem Keeps.bind {f : σ → β} {x : PyM σ α} {k : α → PyM σ γ} (hx : Keeps f x)
    (hk : ∀ a, Keeps f (k a)) : Keeps f (x >>= k) :=
  Preserves.bind (transitive_keeps f) hx hk

theorem keeps_pure (f : σ → β) (a : α) : Keeps f (pure a : PyM σ α) := fun _ => rfl

theorem keeps_throw (f : σ → β) (e : PyExc) : Keeps f (throw e : PyM σ α) := fun _ => rfl

theorem keeps_get (f : σ → β) : Keeps f (get : PyM σ σ) := fun _ => rfl

theorem keeps_modify (f : σ → β) {g : σ → σ} (h : ∀ s, f (g s) = f s) :
    Keeps f (modify g : PyM σ PUnit) := h

theorem keeps_getItem (f : σ → β) (xs : List α) (i : Nat) : Keeps f (getItem xs i : PyM σ α) := by
  unfold getItem; split <;> intro s <;> rfl

theorem keeps_decode (f : σ → β) (b : Bytes) : Keeps f (decode b : PyM σ String) := by
  cases b <;> intro s <;> rfl

theorem Keeps.ite {f : σ → β} {x y : PyM σ α} (c : Prop) [Decidable c] (hx : Keeps f x)
    (hy : Keeps f y) : Keeps f (if c then x else y) := by
  split <;> assumption

theorem Preserves.tryCatch {R : σ → σ → Prop} (ht : Transitive R) {x : PyM σ α}
    {h : PyExc → PyM σ α} (hx : Preserves R x) (hh : ∀ e, Preserves R (h e)) :
    Preserves R (tryCatch x h) := by
  intro s
  rw [run_tryCatch]
  have hs := hx s
  cases hr : x.run s with
  | ok a s' => rw [hr] at hs; exact hs
  | error e s' => rw [hr] at hs; exact ht hs (hh e s')

theorem Keeps.tryCatch {f : σ → β} {x : PyM σ α} {h : PyExc → PyM σ α} (hx : Keeps f x)
    (hh : ∀ e, Keeps f (h e)) : Keeps f (tryCatch x h) :=
  Preserves.tryCatch (transitive_keeps f) hx hh

section Preorder

variable {R : σ → σ → Prop} (hr : Reflexive R)
include hr

theorem preserves_pure (a : α) : Preserves R (pure a : PyM σ α) := fun s => hr s

theorem preserves_throw (e : PyExc) : Preserves R (throw e : PyM σ α) := fun s => hr s

theorem preserves_get : Preserves R (get : PyM σ σ) := fun s => hr s

theorem preserves_getItem (xs : List α) (i : Nat) : Preserves R (getItem xs i : PyM σ α) := by
  unfold getItem; split <;> exact fun s => hr s

theorem preserves_decode (b : Bytes) : Preserves R (decode b : PyM σ String) := by
  cases b <;> exact fun s => hr s

end Preorder

theorem preserves_modify {R : σ → σ → Prop} {g : σ → σ} (h : ∀ s, R s (g s)) :
    Preserves R (modify g : PyM σ PUnit) := h

theorem Preserves.ite {R : σ → σ → Prop} {x y : PyM σ α} (c : Prop) [Decidable c]
    (hx : Preserves R x) (hy : Preserves R y) : Preserves R (if c then x else y) := by
  split <;> assumption

end Frame

/-! ### Lists as multisets -/

@[simp] theorem filterMap_const_none {α β : Type} (l : List α) :
    l.filterMap (fun _ => (none : Option β)) = [] := by
  induction l <;> simp [*]

section Diff

variable {α : Type} [DecidableEq α]

/-- A sublist and what `List.diff` takes from the list to reach it make up the whole list. -/
theorem perm_append_diff_of_sublist {l₁ l₂ : List α} (h : l₂ <+ l₁) : l₂ ++ l₁.diff l₂ ~ l₁ :=
  List.subperm_append_diff_self_of_count_le fun x _ => h.count_le x

@[simp] theorem diff_self : ∀ l : List α, l.diff l = []
  | [] => rfl
  | a :: l => by rw [List.diff_cons, List.erase_cons_head, diff_self l]

theorem diff_erase_of_mem {a : α} {l : List α} (h : a ∈ l) : l.diff (l.erase a) = [a] := by
  have hp := (perm_append_diff_of_sublist (List.erase_sublist a l)).trans
    ((List.perm_cons_erase h).trans (List.perm_append_singleton a (l.erase a)).symm)
  exact List.perm_singleton.1 ((List.perm_append_left_iff _).1 hp)

end Diff

/-! ### Removing from a list while iterating over it

CPython's list iterator holds an index into the list. Each turn reads the element at the index
and then advances it by one; the loop ends when the index reaches the current length. When the
body removes the element just read, the next element moves down to the index just read, and the
loop goes on past it without reading it. `xs.remove(x)` removes the first element equal to `x`. -/

section RemoveLoop

variable {α : Type} [DecidableEq α] (p : α → Bool)

/-- `for x in xs: if p(x): xs.remove(x)`, from index `i`, for at most `fuel` turns. -/
def removeLoop : (fuel : Nat) → (xs : List α) → (i : Nat) → List α
  | 0, xs, _ => xs
  | fuel + 1, xs, i =>
    match xs[i]? with
    | none => xs
    | some x => removeLoop fuel (if p x then xs.erase x else xs) (i + 1)

/-- The whole loop: it makes at most `xs.length` turns (`removeLoop_succ_of_le`). -/
def forRemove (xs : List α) : List α := removeLoop p xs.length xs 0

theorem removeLoop_succ_of_le : ∀ (n : Nat) (xs : List α) (i : Nat), xs.length ≤ i + n →
    removeLoop p (n + 1) xs i = removeLoop p n xs i
  | 0, xs, i, h => by simp [removeLoop, List.getElem?_eq_none (by omega : xs.length ≤ i)]
  | n + 1, xs, i, h => by
    rw [removeLoop]
    cases hx : xs[i]? with
    | none => simp [removeLoop, hx]
    | some x =>
      rw [removeLoop, hx]
      refine removeLoop_succ_of_le n _ (i + 1) ?_
      have : (xs.erase x).length ≤ xs.length := List.length_erase_le x xs
      split <;> omega

/-- Fuel past the list's length changes nothing: `forRemove` is the loop run to its end. -/
theorem removeLoop_eq_forRemove (k : Nat) (xs : List α) :
    removeLoop p (xs.length + k) xs 0 = forRemove p xs := by
  induction k with
  | zero => rfl
  | succ k ih => rw [← Nat.add_assoc, removeLoop_succ_of_le p _ _ _ (by omega), ih]

theorem removeLoop_sublist : ∀ (n : Nat) (xs : List α) (i : Nat), removeLoop p n xs i <+ xs
  | 0, xs, _ => List.Sublist.refl xs
  | n + 1, xs, i => by
    rw [removeLoop]
    split
    · exact List.Sublist.refl xs
    · refine (removeLoop_sublist n _ _).trans ?_
      split
      · exact List.erase_sublist _ _
      · exact List.Sublist.refl xs

theorem forRemove_sublist (xs : List α) : forRemove p xs <+ xs := removeLoop_sublist p _ _ _

/-- The loop removes only elements that satisfy `p`. -/
theorem count_removeLoop {y : α} (hy : p y = false) :
    ∀ (n : Nat) (xs : List α) (i : Nat), (removeLoop p n xs i).count y = xs.count y
  | 0, _, _ => rfl
  | n + 1, xs, i => by
    rw [removeLoop]
    split
    · rfl
    · rename_i x _
      rw [count_removeLoop hy n]
      split
      · exact List.count_erase_of_ne (by rintro rfl; simp_all) _
      · rfl

theorem count_forRemove {y : α} (hy : p y = false) (xs : List α) :
    (forRemove p xs).count y = xs.count y := count_removeLoop p hy _ _ _

/-- The loop keeps every element that does not satisfy `p`, in order. -/
theorem filter_forRemove (xs : List α) :
    (forRemove p xs).filter (fun a => !p a) = xs.filter (fun a => !p a) := by
  refine ((forRemove_sublist p xs).filter _).eq_of_length
    (List.Perm.length_eq (List.perm_iff_count.2 fun y => ?_))
  by_cases hy : p y = true
  · rw [List.count_eq_zero.2 (by simp [hy]), List.count_eq_zero.2 (by simp [hy])]
  · rw [List.count_filter (by simpa using hy), List.count_filter (by simpa using hy),
      count_forRemove p (by simpa using hy)]

/-- What the loop removed consists of elements that satisfy `p`. -/
theorem mem_diff_forRemove {y : α} {xs : List α} (hy : y ∈ xs.diff (forRemove p xs)) :
    p y = true := by
  by_contra hp
  have hc := (perm_append_diff_of_sublist (forRemove_sublist p xs)).count_eq y
  rw [List.count_append, count_forRemove p (by simpa using hp)] at hc
  exact List.count_eq_zero.1 (by omega) hy

/-- An element the loop does not remove stays, behind what the loop keeps of the elements before
it, when none of those equals it. -/
theorem forRemove_append_cons {a : α} (ha : p a = false) {l : List α} (hl : a ∉ l) (l' : List α) :
    ∃ l₁ l₂, l₁ <+ l ∧ l₂ <+ l' ∧ forRemove p (l ++ a :: l') = l₁ ++ a :: l₂ := by
  obtain ⟨l₁, r₂, heq, h₁, h₂⟩ := List.sublist_append_iff.1 (forRemove_sublist p (l ++ a :: l'))
  have hc := count_forRemove p ha (l ++ a :: l')
  rw [heq, List.count_append, List.count_append, List.count_eq_zero_of_not_mem hl,
    List.count_eq_zero_of_not_mem (fun h => hl (h₁.subset h)), List.count_cons_self] at hc
  rcases List.sublist_cons_iff.1 h₂ with h₂ | ⟨l₂, rfl, h₃⟩
  · have := h₂.count_le a; omega
  · exact ⟨l₁, l₂, h₁, h₃, heq⟩
omit [DecidableEq α] in
theorem countP_drop_le_succ (xs : List α) (i : Nat) :
    (xs.drop i).countP p ≤ (xs.drop (i + 1)).countP p + 1 := by
  rw [← List.drop_drop 1 i]
  cases xs.drop i with
  | nil => simp
  | cons a t => rw [List.countP_cons]; split <;> simp

omit p in
/-- Erasing the element at index `i`, or an equal one before it, leaves past index `i + 1` what was
past index `i + 2`. -/
theorem drop_erase_of_getElem? : ∀ {xs : List α} {i : Nat} {x : α}, xs[i]? = some x →
    (xs.erase x).drop (i + 1) = xs.drop (i + 2)
  | [], _, _, h => by simp at h
  | y :: ys, i, x, h => by
    by_cases hyx : y = x
    · subst hyx; simp
    · cases i with
      | zero => simp at h; exact absurd h hyx
      | succ k =>
        rw [List.erase_cons_tail (by simpa using hyx)]
        exact @drop_erase_of_getElem? ys k x (by simpa using h)

/-- From index `i`, the loop removes at least half of the elements past `i` that satisfy `p`:
each removal makes it pass over the next element without reading it. -/
theorem countP_drop_le_removeLoop : ∀ (n : Nat) (xs : List α) (i : Nat), xs.length ≤ i + n →
    (xs.drop i).countP p ≤ 2 * (xs.length - (removeLoop p n xs i).length)
  | 0, xs, i, h => by simp [List.drop_eq_nil_of_le (show xs.length ≤ i by omega)]
  | n + 1, xs, i, h => by
    rw [removeLoop]
    cases hx : xs[i]? with
    | none => simp [List.drop_eq_nil_of_le (List.getElem?_eq_none_iff.1 hx)]
    | some x =>
      obtain ⟨hi, hxi⟩ := List.getElem?_eq_some_iff.1 hx
      have hdrop : (xs.drop i).countP p = (xs.drop (i + 1)).countP p + if p x then 1 else 0 := by
        rw [List.drop_eq_getElem_cons hi, List.countP_cons, hxi]
      dsimp only
      by_cases hp : p x = true
      · have hlen := List.length_erase_of_mem (hxi ▸ List.getElem_mem hi)
        have ih := countP_drop_le_removeLoop n (xs.erase x) (i + 1) (by omega)
        have hle := (removeLoop_sublist p n (xs.erase x) (i + 1)).length_le
        have h2 : (xs.drop (i + 1)).countP p ≤ (xs.drop (i + 2)).countP p + 1 :=
          countP_drop_le_succ p xs (i + 1)
        rw [drop_erase_of_getElem? hx] at ih
        rw [if_pos hp] at hdrop ⊢
        omega
      · have ih := countP_drop_le_removeLoop n xs (i + 1) (by omega)
        rw [if_neg hp] at hdrop ⊢
        omega

/-- **The loop removes at least half of the elements that satisfy `p`**, and no other element
(`count_forRemove`): at most half of those that satisfy `p` are left. -/
theorem countP_forRemove_le (xs : List α) : 2 * (forRemove p xs).countP p ≤ xs.countP p := by
  have hdrop := countP_drop_le_removeLoop p xs.length xs 0 (by omega)
  have hperm := perm_append_diff_of_sublist (forRemove_sublist p xs)
  have hall : (xs.diff (forRemove p xs)).countP p = (xs.diff (forRemove p xs)).length :=
    List.countP_eq_length.2 fun _ hy => mem_diff_forRemove p hy
  have hc := hperm.countP_eq p
  have hl := hperm.length_eq
  rw [List.countP_append] at hc
  rw [List.length_append] at hl
  rw [List.drop_zero] at hdrop
  change 2 * (removeLoop p xs.length xs 0).countP p ≤ _
  change _ ≤ 2 * (xs.length - (removeLoop p xs.length xs 0).length) at hdrop
  change (removeLoop p xs.length xs 0).countP p + _ = _ at hc
  change (removeLoop p xs.length xs 0).length + _ = _ at hl
  omega

end RemoveLoop

end Bumper.Python
