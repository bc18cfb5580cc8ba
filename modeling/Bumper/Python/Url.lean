import Mathlib.Data.String.Basic
import Bumper.Python.Basic

/-! # `urllib.parse.urlparse`

`_connect_coro` reads the broker URI with `urlparse` and its properties `username`, `password`,
`hostname` and `port`, all of which depend on the scheme and the network location alone. This
module models those parts of CPython 3.9's `urllib.parse`, from 3.9.5 on (the tab, carriage return
and line feed characters are removed from the URL first):

* `urlparse`: the scheme (the text before the first `:`, if it is made of scheme characters) and
  the network location (after `//`, up to the first `/`, `?` or `#`), raising `ValueError` for an
  unbalanced `[` or `]` and, in a location that is not ASCII, for a character that NFKC
  normalization turns into a delimiter;
* `SplitResult.username`, `password`: split at the last `@`, then at the first `:`;
* `SplitResult.hostname`, `port`: the text after the last `@`, split at the first `:` (or around
  `[...]`), the host name lowered before its first `%`, the port read by `int(port, 10)`.

What these take from the Unicode database (NFKC, the lower case and the decimal value of a
character that is not ASCII) is a parameter, `Unicode`; on ASCII text none of it is used. -/

namespace Bumper.Python

/-- What the parse takes from the Unicode database: `unicodedata.normalize('NFKC', s)`, and the
lower case and the decimal value of a character that is not ASCII. -/
structure Unicode where
  nfkc : String → String
  lower : Char → String
  decimal : Char → Option Nat

/-- A database that knows no character beyond ASCII. -/
def Unicode.asciiOnly : Unicode := ⟨id, fun c => ⟨[c]⟩, fun _ => none⟩

/-! ### The string methods the parse uses -/

/-- `s.partition(sep)`: the text before the first `sep`, `sep` itself (`""` if there is none),
and the text after it. -/
def partition (s : String) (sep : Char) : String × String × String :=
  match s.data.span (· != sep) with
  | (before, _ :: after) => (⟨before⟩, String.singleton sep, ⟨after⟩)
  | (before, []) => (⟨before⟩, "", "")

/-- `s.rpartition(sep)`: the text before the last `sep`, `sep` itself, and the text after it;
`("", "", s)` if there is none. -/
def rpartition (s : String) (sep : Char) : String × String × String :=
  match s.data.reverse.span (· != sep) with
  | (after, _ :: before) => (⟨before.reverse⟩, String.singleton sep, ⟨after.reverse⟩)
  | (_, []) => ("", "", s)

/-- `s.lower()`: ASCII letters by the ASCII table, other characters by the Unicode database. -/
def lower (uc : Unicode) (s : String) : String :=
  ⟨s.data.flatMap fun c => if c.toNat < 128 then [c.toLower] else (uc.lower c).data⟩

/-- The value of a decimal digit, ASCII or not. -/
def digitValue (uc : Unicode) (c : Char) : Option Nat :=
  if c.toNat < 128 then (if c.isDigit then some (c.toNat - 48) else none) else uc.decimal c

/-- `int(s, 10)`, or `none` where it raises `ValueError`: whitespace around, an optional sign, and
decimal digits with single underscores between them. -/
def pyInt (uc : Unicode) (s : String) : Option Int :=
  let (neg, body) : Bool × List Char :=
    match (strip s).data with
    | '-' :: r => (true, r)
    | '+' :: r => (false, r)
    | r => (false, r)
  let groups := split ⟨body⟩ '_'
  if groups.any (·.isEmpty) then none
  else match (groups.map String.data).flatten.mapM (digitValue uc) with
    | some ds =>
      let n : Int := ds.foldl (fun n d => 10 * n + d) 0
      some (if neg then -n else n)
    | none => none

/-! ### `urlsplit` -/

/-- `_UNSAFE_URL_BYTES_TO_REMOVE`. -/
def unsafeUrlChars : List Char := ['\t', '\r', '\n']

/-- `scheme_chars`. -/
def schemeChars : List Char :=
  "abcdefghijklmnopqrstuvwxyzABCDEFGHIJKLMNOPQRSTUVWXYZ0123456789+-.".data

/-- The fields of `urlparse(url)` that `_connect_coro` reads for an `mqtt` or `mqtts` URI. -/
structure SplitResult where
  scheme : String
  netloc : String
deriving DecidableEq, Repr

/-- `_checknetloc(netloc)`: a location that is not ASCII must not gain a `/`, `?`, `#`, `@` or `:`
under NFKC normalization. -/
def checknetloc {σ : Type} (uc : Unicode) (netloc : String) : PyM σ Unit :=
  if netloc.isEmpty || netloc.data.all (·.toNat < 128) then pure ()
  else
    let n : String := ⟨netloc.data.filter (· ∉ ['@', ':', '#', '?'])⟩
    let netloc2 := uc.nfkc n
    if n = netloc2 then pure ()
    else if ['/', '?', '#', '@', ':'].any (· ∈ netloc2.data) then throw .valueError
    else pure ()

/-- From `i = url.find(':')` to `scheme, url = url[:i].lower(), url[i+1:]` in `urlsplit`: the
scheme, when the text before the first `:` is not empty and made of scheme characters, and the
rest of the URL. -/
def splitScheme (uc : Unicode) (url : List Char) : String × List Char :=
  match url.span (· != ':') with
  | (pre, _ :: rest) =>
    if pre ≠ [] ∧ pre.all (· ∈ schemeChars) then (lower uc ⟨pre⟩, rest) else ("", url)
  | (_, []) => ("", url)

/-- `if url[:2] == '//': netloc, url = _splitnetloc(url, 2)`: the location follows a leading `//`
up to the first `/`, `?` or `#`. -/
def splitNetloc (url : List Char) : String :=
  if url.take 2 = ['/', '/'] then ⟨((url.drop 2).span (· ∉ ['/', '?', '#'])).1⟩ else ""

/-- `urlparse(url)`, which takes the scheme and the network location from `urlsplit(url)`. The
path, query and fragment split off after them raise nothing. -/
def urlparse {σ : Type} (uc : Unicode) (url : String) : PyM σ SplitResult := do
  let (scheme, url) := splitScheme uc (url.data.filter (· ∉ unsafeUrlChars))
  let netloc := splitNetloc url
  if ('[' ∈ netloc.data ∧ ']' ∉ netloc.data) ∨ (']' ∈ netloc.data ∧ '[' ∉ netloc.data) then
    throw .valueError
  checknetloc uc netloc
  pure ⟨scheme, netloc⟩

/-! ### The properties of the result -/

/-- `_userinfo`: the text before the last `@`, split at its first `:`. -/
def SplitResult.userinfo (r : SplitResult) : Option String × Option String :=
  let (userinfo, haveInfo, _) := rpartition r.netloc '@'
  if haveInfo.isEmpty then (none, none)
  else
    let (username, havePassword, password) := partition userinfo ':'
    (some username, if havePassword.isEmpty then none else some password)

/-- `_hostinfo`: the text after the last `@`, split at its first `:`, or around `[...]`. -/
def SplitResult.hostinfo (r : SplitResult) : String × Option String :=
  let (_, _, hostinfo) := rpartition r.netloc '@'
  let (_, haveOpenBr, bracketed) := partition hostinfo '['
  let (hostname, port) : String × String :=
    if haveOpenBr.isEmpty then
      let (hostname, _, port) := partition hostinfo ':'
      (hostname, port)
    else
      let (hostname, _, port) := partition bracketed ']'
      (hostname, (partition port ':').2.2)
  (hostname, if port.isEmpty then none else some port)

/-- `username`. -/
def SplitResult.username (r : SplitResult) : Option String := r.userinfo.1

/-- `password`. -/
def SplitResult.password (r : SplitResult) : Option String := r.userinfo.2

/-- `hostname`: `None` for an empty host; otherwise lowered before its first `%`. -/
def SplitResult.hostname (uc : Unicode) (r : SplitResult) : Option String :=
  let hostname := r.hostinfo.1
  if hostname.isEmpty then none
  else
    let (hostname, percent, zone) := partition hostname '%'
    some (lower uc hostname ++ percent ++ zone)

/-- `port`: `int(port, 10)`, which must lie in `0..65535`; both checks raise `ValueError`. -/
def SplitResult.port {σ : Type} (uc : Unicode) (r : SplitResult) : PyM σ (Option Nat) :=
  match r.hostinfo.2 with
  | none => pure none
  | some port =>
    match pyInt uc port with
    | some n => if 0 ≤ n ∧ n ≤ 65535 then pure (some n.toNat) else throw .valueError
    | none => throw .valueError

/-! ### Taking apart text that was put together -/

theorem span_append_cons {α : Type} {p : α → Bool} {a b : List α} {c : α} (ha : ∀ x ∈ a, p x)
    (hc : p c = false) : (a ++ c :: b).span p = (a, c :: b) := by
  rw [List.span_eq_take_drop, List.takeWhile_append_of_pos ha, List.dropWhile_append_of_pos ha,
    List.takeWhile_cons_of_neg (by simp [hc]), List.dropWhile_cons_of_neg (by simp [hc]),
    List.append_nil]

theorem span_of_forall {α : Type} {p : α → Bool} {a : List α} (ha : ∀ x ∈ a, p x) :
    a.span p = (a, []) := by
  rw [List.span_eq_take_drop, List.takeWhile_eq_self_iff.2 ha, List.dropWhile_eq_nil_iff.2 ha]

/-- `partition` at the first `sep`, of a text whose part before it has no `sep`. -/
theorem partition_of_data_eq {s a b : String} {c : Char} (hs : s.data = a.data ++ c :: b.data)
    (ha : c ∉ a.data) : partition s c = (a, String.singleton c, b) := by
  rw [partition, hs,
    span_append_cons (fun x hx => bne_iff_ne.2 (ne_of_mem_of_not_mem hx ha)) (by simp)]

theorem partition_of_not_mem {s : String} {c : Char} (h : c ∉ s.data) :
    partition s c = (s, "", "") := by
  rw [partition, span_of_forall fun x hx => bne_iff_ne.2 (ne_of_mem_of_not_mem hx h)]

/-- `rpartition` at the last `sep`, of a text whose part after it has no `sep`. -/
theorem rpartition_of_data_eq {s a b : String} {c : Char} (hs : s.data = a.data ++ c :: b.data)
    (hb : c ∉ b.data) : rpartition s c = (a, String.singleton c, b) := by
  have hr : s.data.reverse = b.data.reverse ++ c :: a.data.reverse := by simp [hs]
  rw [rpartition, hr,
    span_append_cons (fun x hx => bne_iff_ne.2 (ne_of_mem_of_not_mem (List.mem_reverse.1 hx) hb))
      (by simp)]
  simp

/-- The three parts of `partition` make up the text. -/
theorem partition_append (s : String) (c : Char) :
    (partition s c).1 ++ (partition s c).2.1 ++ (partition s c).2.2 = s := by
  have hs := List.takeWhile_append_dropWhile (· != c) s.data
  unfold partition
  rw [List.span_eq_take_drop]
  split
  · rename_i before x after heq
    simp only [Prod.mk.injEq] at heq
    obtain ⟨h1, h2⟩ := heq
    have hx : x = c := by
      simpa [h2] using List.head_dropWhile_not (· != c) s.data (by simp [h2])
    rw [h1, h2, hx] at hs
    exact String.ext (by simpa [String.singleton] using hs)
  · rename_i before heq
    simp only [Prod.mk.injEq] at heq
    rw [heq.1, heq.2, List.append_nil] at hs
    exact String.ext (by simpa using hs)

/-! ### Case -/

/-- Text with its ASCII letters lowered: two texts are equal up to ASCII case when their
`asciiLower` are equal. -/
def asciiLower (s : String) : String := ⟨s.data.map Char.toLower⟩

theorem toLower_toLower (c : Char) : c.toLower.toLower = c.toLower := by
  unfold Char.toLower
  by_cases h : c.toNat ≥ 65 ∧ c.toNat ≤ 90
  · have hv : (Char.ofNat (c.toNat + 32)).toNat = c.toNat + 32 := by
      have : (c.toNat + 32).isValidChar := Or.inl (by omega)
      rw [Char.ofNat, dif_pos this]
      simp [Char.ofNatAux, Char.toNat, UInt32.toNat]
    simp only [h, and_self, if_true, hv]
    rw [if_neg (by omega)]
  · simp only [h, if_false]

/-- `s.lower()` of ASCII text is `asciiLower`, whatever the Unicode database says. -/
theorem lower_of_ascii (uc : Unicode) {s : String} (h : ∀ c ∈ s.data, c.toNat < 128) :
    lower uc s = asciiLower s := by
  obtain ⟨l⟩ := s
  simp only [lower, asciiLower]
  congr 1
  induction l with
  | nil => rfl
  | cons c l ih =>
    simp only [List.mem_cons, forall_eq_or_imp] at h
    simp only [List.flatMap_cons, if_pos h.1, List.map_cons, ih h.2, List.singleton_append]

/-! ### The parse of an `mqtts` URI -/

/-- A character the parse of a location neither stops at nor removes: no `/`, `?` or `#`, no
bracket, no tab, carriage return or line feed; and ASCII. -/
def plainChar (c : Char) : Bool :=
  decide (c ∉ ['/', '?', '#', '[', ']', '\t', '\r', '\n'] ∧ c.toNat < 128)

theorem toNat_lt_of_plainChar {c : Char} (h : plainChar c) : c.toNat < 128 := by
  simp only [plainChar, decide_eq_true_eq] at h
  exact h.2

/-- A plain character is none of the characters the parse stops at or removes. -/
theorem not_mem_of_plainChar {c : Char} (h : plainChar c) {l : List Char}
    (hl : ∀ d ∈ l, d ∈ ['/', '?', '#', '[', ']', '\t', '\r', '\n']) : c ∉ l := fun hc => by
  simp only [plainChar, decide_eq_true_eq] at h
  exact h.1 (hl c hc)

theorem ne_of_plainChar {c d : Char} (h : plainChar c)
    (hd : d ∈ ['/', '?', '#', '[', ']', '\t', '\r', '\n']) : c ≠ d := by
  rintro rfl
  simp only [plainChar, decide_eq_true_eq] at h
  exact h.1 hd

theorem splitScheme_of_scheme (uc : Unicode) {pre : List Char} (rest : List Char)
    (hpre : pre ≠ [] ∧ pre.all (· ∈ schemeChars)) (hc : ':' ∉ pre) :
    splitScheme uc (pre ++ ':' :: rest) = (lower uc ⟨pre⟩, rest) := by
  rw [splitScheme, span_append_cons (fun x hx => bne_iff_ne.2 (ne_of_mem_of_not_mem hx hc))
    (by simp)]
  exact if_pos hpre

theorem splitNetloc_slashes {l : List Char} (h : ∀ c ∈ l, c ∉ ['/', '?', '#']) :
    splitNetloc ('/' :: '/' :: l) = ⟨l⟩ := by
  have hs : l.span (fun x => decide (x ∉ ['/', '?', '#'])) = (l, []) :=
    span_of_forall fun c hc => decide_eq_true (h c hc)
  rw [splitNetloc, if_pos (show List.take 2 ('/' :: '/' :: l) = ['/', '/'] from rfl),
    show List.drop 2 ('/' :: '/' :: l) = l from rfl, hs]

theorem checknetloc_of_ascii {σ : Type} (uc : Unicode) {netloc : String}
    (h : ∀ c ∈ netloc.data, c.toNat < 128) : (checknetloc uc netloc : PyM σ Unit) = pure () := by
  rw [checknetloc, if_pos (by simp [List.all_eq_true.2 fun c hc => decide_eq_true (h c hc)])]

theorem run_urlparse_mqtts {σ : Type} (uc : Unicode) {netloc : String}
    (hn : ∀ c ∈ netloc.data, plainChar c) (s : σ) :
    (urlparse uc ("mqtts://" ++ netloc)).run s = .ok ⟨"mqtts", netloc⟩ s := by
  have hsafe : ("mqtts://" ++ netloc).data.filter (· ∉ unsafeUrlChars) =
      "mqtts".data ++ ':' :: '/' :: '/' :: netloc.data := by
    refine List.filter_eq_self.2 fun c hc => ?_
    simp only [String.data_append, List.mem_append] at hc
    rcases hc with hc | hc
    · revert c; decide
    · exact decide_eq_true (not_mem_of_plainChar (hn c hc) (by decide))
  have hbr :
      ¬ (('[' ∈ netloc.data ∧ ']' ∉ netloc.data) ∨ (']' ∈ netloc.data ∧ '[' ∉ netloc.data)) := by
    rintro (⟨h, -⟩ | ⟨h, -⟩) <;> exact ne_of_plainChar (hn _ h) (by decide) rfl
  rw [urlparse, hsafe, splitScheme_of_scheme uc _ (by decide) (by decide)]
  dsimp only
  rw [splitNetloc_slashes fun c hc => not_mem_of_plainChar (hn c hc) (by decide)]
  simp only [run_bind, if_neg hbr,
    checknetloc_of_ascii uc fun c hc => toNat_lt_of_plainChar (hn c hc)]
  rfl

/-- The user part of `u:p@hostinfo`, for `u` without `:` and `hostinfo` without `@`. -/
theorem userinfo_eq {scheme netloc u p hostinfo : String}
    (hs : netloc.data = u.data ++ ':' :: (p.data ++ '@' :: hostinfo.data)) (hu : ':' ∉ u.data)
    (hh : '@' ∉ hostinfo.data) : (SplitResult.mk scheme netloc).userinfo = (some u, some p) := by
  have hr : rpartition netloc '@' = (u ++ ":" ++ p, String.singleton '@', hostinfo) :=
    rpartition_of_data_eq (by simp [hs]) hh
  have hpart : partition (u ++ ":" ++ p) ':' = (u, String.singleton ':', p) :=
    partition_of_data_eq (by simp) hu
  simp only [SplitResult.userinfo, hr, hpart]
  rfl

/-- The host part of `userinfo@h:port`, for `h` without `@`, `:` or `[`. -/
theorem hostinfo_eq {scheme netloc userinfo h port : String}
    (hs : netloc.data = userinfo.data ++ '@' :: (h.data ++ ':' :: port.data))
    (hh : '@' ∉ h.data ∧ ':' ∉ h.data ∧ '[' ∉ h.data) (hport : '@' ∉ port.data ∧ '[' ∉ port.data)
    (hne : port ≠ "") : (SplitResult.mk scheme netloc).hostinfo = (h, some port) := by
  have hr : rpartition netloc '@' = (userinfo, String.singleton '@', h ++ ":" ++ port) :=
    rpartition_of_data_eq (by simp [hs]) (by simp [hh.1, hport.1])
  have hbr : partition (h ++ ":" ++ port) '[' = (h ++ ":" ++ port, "", "") :=
    partition_of_not_mem (by simp [hh.2.2, hport.2])
  have hcolon : partition (h ++ ":" ++ port) ':' = (h, String.singleton ':', port) :=
    partition_of_data_eq (by simp) hh.2.1
  have hport' : port.isEmpty = false := Bool.eq_false_iff.2 (mt (String.isEmpty_iff port).1 hne)
  unfold SplitResult.hostinfo
  dsimp only
  rw [hr, hbr, if_pos (show "".isEmpty = true from rfl), hcolon, hport', if_neg Bool.false_ne_true]

@[simp] theorem asciiLower_append (a b : String) :
    asciiLower (a ++ b) = asciiLower a ++ asciiLower b :=
  String.ext (by simp [asciiLower])

@[simp] theorem asciiLower_asciiLower (a : String) : asciiLower (asciiLower a) = asciiLower a :=
  String.ext (by simp [asciiLower, toLower_toLower])

/-- The host name, for an ASCII host part that is not empty: the host part up to ASCII case. -/
theorem hostname_map_asciiLower (uc : Unicode) {r : SplitResult} {h : String}
    (hr : r.hostinfo.1 = h) (hne : h ≠ "") (ha : ∀ c ∈ h.data, c.toNat < 128) :
    (r.hostname uc).map asciiLower = some (asciiLower h) := by
  have hrec := partition_append h '%'
  have hh : h.isEmpty = false := Bool.eq_false_iff.2 (mt (String.isEmpty_iff h).1 hne)
  unfold SplitResult.hostname
  rw [hr]
  dsimp only
  rw [hh, if_neg Bool.false_ne_true]
  rcases hP : partition h '%' with ⟨hb, pct, zone⟩
  rw [hP] at hrec
  dsimp only at hrec ⊢
  have hba : ∀ c ∈ hb.data, c.toNat < 128 := fun c hc => ha c (by rw [← hrec]; simp [hc])
  rw [← hrec, lower_of_ascii uc hba]
  simp

theorem run_port_443 {σ : Type} (uc : Unicode) {r : SplitResult} (hr : r.hostinfo.2 = some "443")
    (s : σ) : (r.port uc).run s = .ok (some 443) s := by
  unfold SplitResult.port
  rw [hr]
  rfl

end Bumper.Python
