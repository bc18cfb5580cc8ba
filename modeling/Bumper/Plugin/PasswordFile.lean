import Mathlib.Data.List.AList
import Mathlib.Data.String.Basic
import Bumper.Python.Strings

/-! # The password file

`__init__` sets `_users` to an empty dict and calls `_read_password_file`, which reads the file
named by the `password-file` entry of the `auth` configuration line by line: a line is stripped,
a line starting with `#` is skipped, and any other line is split at `:` (at most three times) and
unpacked into a user name and a hash, which is stored when the name is not empty. Only
`FileNotFoundError` is caught inside the method; any other exception leaves the loop and is
logged by `__init__`, which keeps the users read so far.

The format a line has, as the file's users are meant to be read, is `entry`; `Readable` says which
lines the loop gets past.

* `run_readLine`: one turn of the loop stores the line's entry, or raises `ValueError` and
  changes nothing;
* `lookup_initUsers`: `_users` maps a user to the hash of the last entry that names it among the
  lines before the first line that is not `Readable`, and holds no other user. A blank line is not
  `Readable` (`readable_of_strip_eq_empty`), so it ends the reading. -/

namespace Bumper.Plugin.PasswordFile

open Bumper.Python

/-! ### The code -/

/-- One turn of the `for` loop of `_read_password_file`, lines 445-450. -/
def readLine (l : String) : PyM (AList fun _ : String => String) Unit := do
  let line := strip l
  if !startsWith line "#" then
    let (username, pwdHash) ← unpack2 (splitMax line ':' 3)
    if !username.isEmpty then
      modify fun users => users.insert username pwdHash

/-- The `for` loop over the lines of the file, in order. -/
def readLines : List String → PyM (AList fun _ : String => String) Unit
  | [] => pure ()
  | l :: ls => do readLine l; readLines ls

/-- `_read_password_file()`, lines 437-452, for the `password-file` entry and the lines of each
file that exists (`files`): with no file configured nothing is read, and a missing file raises
`FileNotFoundError`, which is caught. -/
def readPasswordFile (passwordFile : Option String) (files : String → Option (List String)) :
    PyM (AList fun _ : String => String) Unit :=
  match passwordFile with
  | some path =>
    if path.isEmpty then pure ()
    else match files path with
      | some lines => readLines lines
      | none => pure ()
  | none => pure ()

/-- The `_users` that `__init__` (lines 324-336) leaves: an empty dict filled by
`_read_password_file`, whose exceptions are logged. -/
def initUsers (passwordFile : Option String) (files : String → Option (List String)) :
    AList fun _ : String => String :=
  finalState ((tryCatch (readPasswordFile passwordFile files)
    fun e => if e.isException then pure () else throw e).run ∅)

/-! ### The file's format -/

/-- The entry a line holds as the format says: stripped, a line that is not a `#` comment and
reads `user:hash`, with neither part holding `:` and `user` not empty. -/
def entry (l : String) : Option (String × String) :=
  if startsWith (strip l) "#" then none
  else match split (strip l) ':' with
    | [u, h] => if u.isEmpty then none else some (u, h)
    | _ => none

/-- A line the loop reads past: a comment, or a line with exactly one `:`. -/
def Readable (l : String) : Bool :=
  startsWith (strip l) "#" || (split (strip l) ':').length == 2

/-- The users after one more line: its entry, if it has one, replaces the user's hash. -/
def insertEntry (users : AList fun _ : String => String) (l : String) :
    AList fun _ : String => String :=
  match entry l with
  | some (u, h) => users.insert u h
  | none => users

/-- The hash of the last entry that names `u`. -/
def lastHash (u : String) (entries : List (String × String)) : Option String :=
  (entries.reverse.find? fun e => e.1 == u).map (·.2)

theorem lastHash_cons (u : String) (e : String × String) (es : List (String × String)) :
    lastHash u (e :: es) = (lastHash u es).or (if e.1 = u then some e.2 else none) := by
  rcases e with ⟨v, h⟩
  by_cases hv : v = u <;> cases hf : es.reverse.find? (fun e => e.1 == u) <;>
    simp [lastHash, List.find?_append, hf, hv]

/-- A blank line is neither a comment nor `user:hash`. -/
theorem readable_of_strip_eq_empty {l : String} (h : strip l = "") : Readable l = false := by
  rw [Readable, h]
  rfl

/-! ### One line, then the loop -/

/-- **One turn of the loop.** A readable line adds its entry; any other line raises `ValueError`
at the unpacking, before anything is stored. -/
theorem run_readLine (l : String) (users : AList fun _ : String => String) :
    (readLine l).run users =
      if Readable l then .ok () (insertEntry users l) else .error .valueError users := by
  unfold readLine Readable insertEntry entry
  dsimp only
  cases hc : startsWith (strip l) "#"
  · simp only [hc, Bool.not_false, if_true, Bool.false_or, Bool.false_eq_true, if_false,
      unpack2_splitMax _ _ (show 2 ≤ 3 by decide)]
    rcases split (strip l) ':' with _ | ⟨u, _ | ⟨h, _ | ⟨x, rest⟩⟩⟩
    · rfl
    · rfl
    · simp only [unpack2, run_bind, run_pure]
      cases u.isEmpty <;> rfl
    · simp [unpack2, run_bind]
  · simp only [hc, Bool.not_true, if_true, Bool.true_or, Bool.false_eq_true, if_false]
    rfl

theorem run_readLines (lines : List String) (users : AList fun _ : String => String) :
    (readLines lines).run users =
      if lines.all Readable then .ok () ((lines.takeWhile Readable).foldl insertEntry users)
      else .error .valueError ((lines.takeWhile Readable).foldl insertEntry users) := by
  induction lines generalizing users with
  | nil => rfl
  | cons l ls ih =>
    rw [readLines, run_bind, run_readLine]
    cases hl : Readable l
    · simp [hl]
    · simp only [if_true, ih, List.all_cons, hl, Bool.true_and, List.takeWhile_cons,
        List.foldl_cons]

/-- **What `__init__` leaves in `_users`.** The lines are read up to the first one that is not
`Readable`; the entries of the lines before it are stored in order, a later one replacing an
earlier one of the same user. -/
theorem initUsers_eq (path : String) (hpath : path ≠ "") {files : String → Option (List String)}
    {lines : List String} (hf : files path = some lines) :
    initUsers (some path) files = (lines.takeWhile Readable).foldl insertEntry ∅ := by
  have hp : path.isEmpty = false := Bool.eq_false_iff.2 (mt (String.isEmpty_iff path).1 hpath)
  simp only [initUsers, readPasswordFile, hp, hf, Bool.false_eq_true, if_false, run_tryCatch,
    run_readLines]
  cases lines.all Readable <;> rfl

theorem lookup_foldl_insertEntry (u : String) (ls : List String)
    (users : AList fun _ : String => String) :
    (ls.foldl insertEntry users).lookup u =
      (lastHash u (ls.filterMap entry)).or (users.lookup u) := by
  induction ls generalizing users with
  | nil => rfl
  | cons l ls ih =>
    rw [List.foldl_cons, ih, List.filterMap_cons, insertEntry]
    rcases entry l with _ | ⟨v, h⟩
    · rfl
    · rw [lastHash_cons]
      by_cases hv : v = u
      · subst hv
        cases lastHash v (ls.filterMap entry) <;> simp
      · simp [hv, AList.lookup_insert_ne (Ne.symm hv)]

/-- **The password file is read last-wins, up to its first unreadable line.** For a configured
file that exists, `_users` maps `u` to the hash on the last line that names it among the lines
before the first line that is not `Readable` (a blank line, or one without exactly one `:`), and
holds no user that none of those lines names. -/
theorem lookup_initUsers (path : String) (hpath : path ≠ "")
    {files : String → Option (List String)} {lines : List String} (hf : files path = some lines)
    (u : String) :
    (initUsers (some path) files).lookup u =
      lastHash u ((lines.takeWhile Readable).filterMap entry) := by
  rw [initUsers_eq path hpath hf, lookup_foldl_insertEntry]
  exact Option.or_none

/-- A blank line between two users: the user after it is never read. -/
theorem lookup_initUsers_blankLine :
    (initUsers (some "users.txt") fun _ => some ["a:1", "", "b:2"]).lookup "a" = some "1" ∧
    (initUsers (some "users.txt") fun _ => some ["a:1", "", "b:2"]).lookup "b" = none :=
  ⟨(lookup_initUsers "users.txt" (by decide) rfl "a").trans (by decide),
    (lookup_initUsers "users.txt" (by decide) rfl "b").trans (by decide)⟩

end Bumper.Plugin.PasswordFile
