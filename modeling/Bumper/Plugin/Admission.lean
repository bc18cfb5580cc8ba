import Bumper.Plugin.Auth
import Bumper.Plugin.Lifecycle
import Bumper.Python.Strings

/-! # Whom `authenticate` lets in

`authenticate` decides a client's path by two substring tests on the realm part of its client id,
the text between the first `@` and the next, which for `id@realm/resource` is `realm/resource`.
Everything up to the password-file check sits in one `try`, whose handler makes the result
`False`. `outcome_authBody` lists every way that body can end (`Outcome`), and the results below
follow from it or from the parse of the client id:

* `refused_client_leaves_state`: a call that returns `False` leaves the state as it was, except a
  bot that `bot_add` registered in proxy mode before `config_proxyMode_getServerIP` raised;
* `unparsed_client_id_skips_password_file`: a client id with an `@` but no `/` in its realm part
  raises `IndexError` on both paths, so the password file is never consulted;
* `bot_path_iff_unreserved_realm_part`: out of proxy mode, a client id `id@realm/resource` takes
  the bot path, and is registered as bot `id` of class `realm` and resource `resource`, exactly
  when neither `realm` nor `resource` contains `ecouser` or `bumper`. The id never matters, but the
  resource does (`resource_decides_bot_path`);
* `connection_hooks_mark_bot_of_operator_id`: the connection hooks take the same client id apart
  again, but look for a bot of DID `id` first. After an operator login the hooks mark that bot, and
  not the operator client that `authenticate` registered, whenever a bot has the user id as DID;
* `authenticate_raises_only_exit`: a call returns, or raises `SystemExit`, and it raises exactly
  when, in proxy mode, a bot id's `bot_add` returned and the configured upstream server is the
  empty string. -/

namespace Bumper.Plugin.Admission

open Bumper.Python Bumper.Helperbot Bumper.Server Bumper.Plugin.Auth Bumper.Plugin.Lifecycle

/-! ### What a call writes -/

/-- How a run of `authenticate`'s body, or of one of its two paths, can end: with nothing written,
by a return or an `Exception`; accepted; at `exit(1)`; or, in proxy mode, with the bot registered
and `config_proxyMode_getServerIP` raising before an upstream client was made. -/
inductive Outcome (proxyMode : Bool) (ext : AuthExt) (username : Option String) (s : State) :
    EStateM.Result PyExc State Bool → Prop
  | returned (b : Bool) : Outcome proxyMode ext username s (.ok b s)
  | raised (e : PyExc) : e.isException = true → Outcome proxyMode ext username s (.error e s)
  | accepted (s' : State) : Outcome proxyMode ext username s (.ok true s')
  | exited (s' : State) : Outcome proxyMode ext username s (.error .systemExit s')
  | botAdded (did devClass resource : String) : proxyMode = true → ext.serverIp = none →
      Outcome proxyMode ext username s
        (.error .external
          { s with registry := s.registry.botAdd username did devClass resource "eco-ng" })

theorem outcome_authClient (proxyMode useAuth : Bool) (ext : AuthExt) (username : Option String)
    (didsplit : List String) (realmPart : String) (s : State) :
    Outcome proxyMode ext username s ((authClient useAuth ext didsplit realmPart).run s) := by
  simp only [authClient, run_bind, run_getItem]
  rcases didsplit[0]? with _ | userid
  · exact .raised _ rfl
  rcases (split realmPart '/')[0]? with _ | realm
  · exact .raised _ rfl
  rcases (split realmPart '/')[1]? with _ | resource
  · exact .raised _ rfl
  dsimp only
  split
  · exact .accepted _
  unfold checkAuthcode
  rcases ext.checkAuthcode with _ | ok
  · exact .raised _ rfl
  simp only [run_bind, run_pure]
  split
  · unfold clientAdd; split
    · exact .accepted _
    · exact .raised _ rfl
  · exact .returned _

theorem outcome_authBot (proxyMode : Bool) (ext : AuthExt) (sess : Session)
    (didsplit : List String) (realmPart : String) (s : State) :
    Outcome proxyMode ext sess.username s
      ((authBot proxyMode ext sess didsplit realmPart).run s) := by
  simp only [authBot, run_bind, run_getItem]
  rcases didsplit[0]? with _ | did
  · exact .raised _ rfl
  rcases (split realmPart '/')[0]? with _ | cls
  · exact .raised _ rfl
  rcases (split realmPart '/')[1]? with _ | res
  · exact .raised _ rfl
  dsimp only
  unfold botAdd
  cases ext.botAddOk
  · exact .raised _ rfl
  simp only [if_true, run_modify, run_bind]
  cases proxyMode
  · exact .accepted _
  simp only [if_true, startProxy, run_bind]
  rcases hip : ext.serverIp with _ | ip
  · exact .botAdded _ _ _ rfl hip
  simp only [run_bind, run_pure]
  by_cases h : ip = ""
  · simp only [h, if_true, run_bind, run_throw]; exact .exited _
  · simp only [h, if_false, run_bind, run_pure, run_modify]; exact .accepted _

/-- **Every way `authenticate`'s body ends.** -/
theorem outcome_authBody (cfg : Config) (ext : AuthExt) (sess : Session) (s : State) :
    Outcome cfg.proxyMode ext sess.username s ((authBody cfg ext sess).run s) := by
  have hpath : ∀ {x : PyM State Bool}, Outcome cfg.proxyMode ext sess.username s (x.run s) →
      Outcome cfg.proxyMode ext sess.username s
        ((x >>= fun a => pure (fileAuth cfg sess a)).run s) := fun {x} h => by
    rw [run_bind]
    generalize x.run s = r at h ⊢
    cases h with
    | returned b => exact .returned _
    | raised e he => exact .raised e he
    | accepted s' => dsimp only; rw [fileAuth_true]; exact .accepted _
    | exited s' => exact .exited _
    | botAdded did cls res hpm hip => exact .botAdded did cls res hpm hip
  unfold authBody
  dsimp only
  split
  · rw [run_bind, run_getItem]
    rcases (split sess.clientId '@')[1]? with _ | realmPart
    · exact .raised _ rfl
    dsimp only
    split
    · exact hpath (outcome_authBot _ _ _ _ _ _)
    · exact hpath (outcome_authClient _ _ _ _ _ _ _)
  · exact .returned _

/-- The handler and the anonymous check write nothing: a call ends in the state its body ends in. -/
theorem finalState_authenticate (cfg : Config) (ext : AuthExt) (sess : Session) (s : State) :
    finalState ((authenticate cfg ext sess).run s) =
      finalState ((authBody cfg ext sess).run s) := by
  rw [authenticate, run_bind, run_tryCatch]
  rcases (authBody cfg ext sess).run s with ⟨a, s'⟩ | ⟨e, s'⟩
  · dsimp only; split <;> rfl
  · dsimp only
    cases e.isException <;> simp only [Bool.false_eq_true, ↓reduceIte, run_pure, run_throw]
    split <;> rfl

/-! ### What a call raises -/

/-- The operator path raises only `Exception`s. -/
theorem raised_authClient_ne_exit (useAuth : Bool) (ext : AuthExt) (didsplit : List String)
    (realmPart : String) (s : State) :
    raised ((authClient useAuth ext didsplit realmPart).run s) ≠ some .systemExit := by
  simp only [authClient, run_bind, run_getItem]
  rcases didsplit[0]? with _ | userid
  · simp [raised, run_bind, -bind_pure_comp]
  rcases (split realmPart '/')[0]? with _ | realm
  · simp [raised, run_bind, -bind_pure_comp]
  rcases (split realmPart '/')[1]? with _ | resource
  · simp [raised, run_bind, -bind_pure_comp]
  dsimp only
  split
  · simp [raised, run_bind, -bind_pure_comp]
  unfold checkAuthcode
  rcases ext.checkAuthcode with _ | ok
  · simp [raised, run_bind, -bind_pure_comp]
  simp only [run_bind, run_pure]
  split
  · unfold clientAdd; split <;> simp [raised, run_bind, -bind_pure_comp]
  · simp [raised, run_bind, -bind_pure_comp]

/-- The bot path raises `SystemExit` exactly when the realm part has a `/` and, in proxy mode,
`bot_add` returned and the configured upstream server is the empty string. -/
theorem exits_authBot (proxyMode : Bool) (ext : AuthExt) (sess : Session) {didsplit : List String}
    {did : String} (hd : didsplit[0]? = some did) (realmPart : String) (s : State) :
    raised ((authBot proxyMode ext sess didsplit realmPart).run s) = some .systemExit ↔
      (decide (1 < (split realmPart '/').length) && proxyMode && ext.botAddOk &&
        ext.serverIp == some "") = true := by
  simp only [authBot, run_bind, run_getItem, hd]
  rcases h1 : (split realmPart '/')[1]? with _ | res
  · have hlen : ¬ 1 < (split realmPart '/').length := by
      simpa using List.getElem?_eq_none_iff.1 h1
    rcases (split realmPart '/')[0]? with _ | cls <;> simp [raised, hlen, run_bind, -bind_pure_comp]
  have hlen : 1 < (split realmPart '/').length := (List.getElem?_eq_some_iff.1 h1).1
  rw [List.getElem?_eq_getElem (show 0 < (split realmPart '/').length by omega)]
  simp only [hlen, decide_True, Bool.true_and]
  unfold botAdd
  cases ext.botAddOk
  · simp [raised, run_bind, -bind_pure_comp]
  cases proxyMode
  · simp [raised, run_bind, -bind_pure_comp]
  simp only [startProxy, if_true, run_modify, run_bind]
  rcases ext.serverIp with _ | ip
  · simp [raised, run_bind, -bind_pure_comp]
  by_cases h : ip = "" <;> simp [h, raised, run_bind, -bind_pure_comp]

/-- The body raises `SystemExit` exactly on the bot path in proxy mode, once `bot_add` returned,
when the configured upstream server is the empty string. -/
theorem exits_authBody (cfg : Config) (ext : AuthExt) (sess : Session) (s : State) :
    raised ((authBody cfg ext sess).run s) = some .systemExit ↔
      (cfg.proxyMode && botPathId sess.clientId && ext.botAddOk && ext.serverIp == some "") =
        true := by
  have hfile : ∀ x : PyM State Bool,
      raised ((x >>= fun a => pure (fileAuth cfg sess a)).run s) = raised (x.run s) := fun x => by
    rw [run_bind]; cases x.run s <;> rfl
  rw [authBody, botPathId]
  by_cases hat : contains sess.clientId "@" = true
  swap
  · simp [hat, raised]
  rw [if_pos hat, run_bind, run_getItem]
  rcases h1 : (split sess.clientId '@')[1]? with _ | rp
  · simp [raised]
  have hd : (split sess.clientId '@')[0]? = some _ :=
    List.getElem?_eq_getElem (Nat.zero_lt_of_lt (List.getElem?_eq_some_iff.1 h1).1)
  dsimp only
  split
  · rename_i hres
    rw [hfile, exits_authBot cfg.proxyMode ext sess hd rp s]
    simp only [hat, hres, Bool.true_and]
    cases cfg.proxyMode <;> simp [Bool.and_comm, Bool.and_assoc]
  · rename_i hres
    rw [hfile]
    exact iff_of_false (raised_authClient_ne_exit _ _ _ _ _) (by simp_all)

/-- The handler catches every `Exception`, and the anonymous check raises nothing: a call raises
only a `SystemExit` of its body. -/
theorem raised_authenticate (cfg : Config) (ext : AuthExt) (sess : Session) (s : State) :
    raised ((authenticate cfg ext sess).run s) =
      if raised ((authBody cfg ext sess).run s) = some .systemExit then some .systemExit
      else none := by
  have hanon : ∀ (a : Bool) (s' : State), raised ((if cfg.allowAnonymous.getD true && !a then
      pure true else pure a : PyM State Bool).run s') = none := fun a s' => by split <;> rfl
  rw [authenticate, run_bind, run_tryCatch]
  rcases (authBody cfg ext sess).run s with ⟨a, s'⟩ | ⟨e, s'⟩
  · exact hanon a s'
  · cases e
    case systemExit => rfl
    all_goals exact hanon false s'

/-- **`authenticate` lets out only `exit(1)`.** Whatever the configuration, the answers of the
collaborators, the session and the state, a call returns, or raises `SystemExit`; it raises
exactly when, in proxy mode, a client id takes the bot path, `bot_add` returns, and the
configured upstream server is the empty string. -/
theorem authenticate_raises_only_exit (cfg : Config) (ext : AuthExt) (sess : Session)
    (s : State) :
    raised ((authenticate cfg ext sess).run s) =
      if (cfg.proxyMode && botPathId sess.clientId && ext.botAddOk && ext.serverIp == some "") =
        true then some .systemExit else none := by
  rw [raised_authenticate, if_congr (exits_authBody cfg ext sess s) rfl rfl]

/-! ### What the paths register -/

/-- The operator path registers no bot. -/
theorem bots_authClient (useAuth : Bool) (ext : AuthExt) (didsplit : List String)
    (realmPart : String) : Keeps (fun s : State => s.registry.bots)
      (authClient useAuth ext didsplit realmPart) :=
  have hc : ∀ userid realm resource, Keeps (fun s : State => s.registry.bots)
      (clientAdd ext userid realm resource) := fun _ _ _ => by
    unfold clientAdd; split
    · exact keeps_modify _ fun s => Registry.clientAdd_bots s.registry _ _ _
    · exact keeps_throw _ _
  Keeps.bind (keeps_getItem _ _ _) fun _ => Keeps.bind (keeps_getItem _ _ _) fun _ =>
    Keeps.bind (keeps_getItem _ _ _) fun _ => Keeps.ite _ (keeps_pure _ _) <|
      Keeps.bind (keeps_checkAuthcode _ _) fun _ =>
        Keeps.ite _ (Keeps.bind (hc _ _ _) fun _ => keeps_pure _ _) (keeps_pure _ _)

/-! ### A refused client -/

/-- **A refused client leaves the state as it was, but for a bot registered in proxy mode.** When
`authenticate` returns `False`, the state is the one it started from, with one exception: in proxy
mode, on the bot path, `bumper.bot_add` has registered the bot before
`config_proxyMode_getServerIP` raised, and that entry stays. No upstream client and no operator
client is ever left behind. -/
theorem refused_client_leaves_state {cfg : Config} {ext : AuthExt} {sess : Session} {s s' : State}
    (h : (authenticate cfg ext sess).run s = .ok false s') :
    s' = s ∨ cfg.proxyMode = true ∧ ext.serverIp = none ∧ ∃ did devClass resource,
      s' = { s with
        registry := s.registry.botAdd sess.username did devClass resource "eco-ng" } := by
  have ho := outcome_authBody cfg ext sess s
  rw [authenticate, run_bind, run_tryCatch] at h
  generalize (authBody cfg ext sess).run s = r at ho h
  cases ho with
  | returned b => dsimp only at h; split at h <;> cases h; exact .inl rfl
  | raised e he => simp only [he, if_true, run_pure] at h; split at h <;> cases h; exact .inl rfl
  | accepted s₁ => dsimp only at h; split at h <;> cases h
  | exited s₁ => simp [PyExc.isException] at h
  | botAdded did cls res hpm hip =>
    simp only [PyExc.isException, if_true, run_pure] at h
    split at h <;> cases h
    exact .inr ⟨hpm, hip, did, cls, res, rfl⟩

/-- In proxy mode and with no anonymous access, bot `bot@cls/res` authenticates while
`config_proxyMode_getServerIP` raises: `authenticate` returns `False`, and the bot stays
registered. -/
theorem refused_client_leaves_state_noServer :
    (authenticate ⟨true, false, some false, ∅, fun _ _ => false⟩
        ⟨true, true, some false, none, true⟩ ⟨some "sn", some "pw", "bot@cls/res"⟩).run
        (State.init ⟨[], []⟩) =
      .ok false { State.init ⟨[], []⟩ with
        registry := ⟨[⟨"bot", some "sn", "cls", "res", "eco-ng", false⟩], []⟩ } ∧
    ({ State.init ⟨[], []⟩ with
        registry := ⟨[⟨"bot", some "sn", "cls", "res", "eco-ng", false⟩], []⟩ } =
        State.init ⟨[], []⟩ ∨
      true = true ∧ (none : Option String) = none ∧ ∃ did devClass resource,
        { State.init ⟨[], []⟩ with
          registry := ⟨[⟨"bot", some "sn", "cls", "res", "eco-ng", false⟩], []⟩ } =
        { State.init ⟨[], []⟩ with
          registry := (State.init ⟨[], []⟩).registry.botAdd (some "sn") did devClass resource
            "eco-ng" }) := by
  have h : (authenticate ⟨true, false, some false, ∅, fun _ _ => false⟩
      ⟨true, true, some false, none, true⟩ ⟨some "sn", some "pw", "bot@cls/res"⟩).run
      (State.init ⟨[], []⟩) = .ok false { State.init ⟨[], []⟩ with
        registry := ⟨[⟨"bot", some "sn", "cls", "res", "eco-ng", false⟩], []⟩ } := rfl
  exact ⟨h, refused_client_leaves_state h⟩

/-! ### Client ids that do not parse -/

/-- **A client id with an `@` but no `/` in its realm part never reaches the password file.** The
bot path and the operator path both index `realmPart.split("/")[1]`, which raises `IndexError`; the
handler sets `authenticated = False` and skips the password-file check, which sits in the same
`try`. So the result is the anonymous check alone, whatever the credentials, and nothing is
written. -/
theorem unparsed_client_id_skips_password_file (cfg : Config) (ext : AuthExt) (sess : Session)
    (s : State) (realmPart : String) (hat : contains sess.clientId "@" = true)
    (hrp : (split sess.clientId '@')[1]? = some realmPart) (hslash : '/' ∉ realmPart.data) :
    (authenticate cfg ext sess).run s = .ok (cfg.allowAnonymous.getD true) s := by
  have hone : split realmPart '/' = [realmPart] :=
    split_of_data_eq (by simp) (by simpa using hslash) (by simp)
  obtain ⟨did, hdid⟩ : ∃ did, (split sess.clientId '@')[0]? = some did := by
    cases h : split sess.clientId '@' with
    | nil => simp [h] at hrp
    | cons d _ => exact ⟨d, by simp⟩
  have hbody : (authBody cfg ext sess).run s = .error .indexError s := by
    simp only [authBody, hat, if_true, run_bind, run_getItem, hrp]
    split <;> simp [authBot, authClient, run_bind, run_getItem, hdid, hone]
  rw [authenticate, run_bind, run_tryCatch, hbody]
  cases cfg.allowAnonymous.getD true <;> rfl

/-- User `u` has a password-file entry that verifies, and would be let in by the file check; with
the client id `a@b` and no anonymous access, `authenticate` refuses it. -/
theorem unparsed_client_id_skips_password_file_aAtB :
    fileAuth ⟨false, true, some false, (∅ : AList fun _ : String => String).insert "u" "h",
        fun _ _ => true⟩ ⟨some "u", some "pw", "a@b"⟩ false = true ∧
    (authenticate ⟨false, true, some false, (∅ : AList fun _ : String => String).insert "u" "h",
        fun _ _ => true⟩ ⟨true, true, some true, none, true⟩ ⟨some "u", some "pw", "a@b"⟩).run
        (State.init ⟨[], []⟩) = .ok false (State.init ⟨[], []⟩) :=
  ⟨rfl, unparsed_client_id_skips_password_file _ _ _ _ "b" (by decide) (by decide) (by decide)⟩

/-! ### The bot path -/

section Parse

variable {id realm resource : String}

/-- `id@realm/resource` has an `@`. -/
theorem contains_at_clientId : contains (id ++ "@" ++ realm ++ "/" ++ resource) "@" = true := by
  rw [contains_eq_mem rfl]; simp

/-- `client_id.split("@")` of `id@realm/resource`, when no part has an `@`. -/
theorem split_at_clientId (hid : '@' ∉ id.data) (hrealm : '@' ∉ realm.data)
    (hres : '@' ∉ resource.data) :
    split (id ++ "@" ++ realm ++ "/" ++ resource) '@' = [id, realm ++ "/" ++ resource] :=
  split_of_data_eq (by simp) (by simp [hid, hrealm, hres]) (by simp)

/-- `realm_part.split("/")` of `realm/resource`, when neither has a `/`. -/
theorem split_realmPart (hrealm : '/' ∉ realm.data) (hres : '/' ∉ resource.data) :
    split (realm ++ "/" ++ resource) '/' = [realm, resource] :=
  split_of_data_eq (by simp) (by simp [hrealm, hres]) (by simp)

/-- A text without `/` occurs in `realm/resource` exactly when it occurs in one of the two. -/
theorem contains_realmPart {kw : String} (hkw : '/' ∉ kw.data) :
    contains (realm ++ "/" ++ resource) kw = (contains realm kw || contains resource kw) :=
  contains_append_sep (by simp) hkw

end Parse

/-- On the operator path, `authenticate` registers no bot. -/
theorem bots_authenticate_of_reserved (cfg : Config) (ext : AuthExt)
    (username password : Option String) {id realm resource : String} (hid : '@' ∉ id.data)
    (hrealm : '@' ∉ realm.data ∧ '/' ∉ realm.data)
    (hres : '@' ∉ resource.data ∧ '/' ∉ resource.data)
    (hreserved : (contains realm "ecouser" || contains realm "bumper" ||
        contains resource "ecouser" || contains resource "bumper") = true) (s : State) :
    (finalState ((authenticate cfg ext
      ⟨username, password, id ++ "@" ++ realm ++ "/" ++ resource⟩).run s)).registry.bots =
      s.registry.bots := by
  have hop : (contains (realm ++ "/" ++ resource) "ecouser" ||
      contains (realm ++ "/" ++ resource) "bumper") = true := by
    rw [contains_realmPart (by decide), contains_realmPart (by decide), ← hreserved]
    cases contains realm "ecouser" <;> cases contains realm "bumper" <;>
      cases contains resource "ecouser" <;> cases contains resource "bumper" <;> rfl
  rw [finalState_authenticate]
  simp only [authBody, run_bind, contains_at_clientId, split_at_clientId hid hrealm.1 hres.1,
    if_true, run_getItem, List.getElem?_cons_succ, List.getElem?_cons_zero, hop, Bool.not_true]
  exact Keeps.bind (bots_authClient _ _ _ _) (fun _ => keeps_pure _ _) s

/-- **The bot path is decided by the realm and the resource.** Out of proxy mode, take a client id
`id@realm/resource` whose parts have no `@` and whose realm and resource have no `/`. When neither
`realm` nor `resource` contains `ecouser` or `bumper`, `authenticate` calls
`bumper.bot_add(username, id, realm, resource, "eco-ng")` and returns `True` (or, if `bot_add`
raises, falls back to the anonymous check with nothing written); otherwise it registers no bot. -/
theorem bot_path_iff_unreserved_realm_part {cfg : Config} (hpm : cfg.proxyMode = false)
    (ext : AuthExt) (username password : Option String) {id realm resource : String}
    (hid : '@' ∉ id.data) (hrealm : '@' ∉ realm.data ∧ '/' ∉ realm.data)
    (hres : '@' ∉ resource.data ∧ '/' ∉ resource.data) (s : State) :
    ((contains realm "ecouser" || contains realm "bumper" || contains resource "ecouser" ||
        contains resource "bumper") = false →
      (authenticate cfg ext ⟨username, password, id ++ "@" ++ realm ++ "/" ++ resource⟩).run s =
        if ext.botAddOk then
          .ok true { s with registry := s.registry.botAdd username id realm resource "eco-ng" }
        else .ok (cfg.allowAnonymous.getD true) s) ∧
    ((contains realm "ecouser" || contains realm "bumper" || contains resource "ecouser" ||
        contains resource "bumper") = true →
      (finalState ((authenticate cfg ext
        ⟨username, password, id ++ "@" ++ realm ++ "/" ++ resource⟩).run s)).registry.bots =
        s.registry.bots) := by
  refine ⟨fun hclean => ?_,
    fun hreserved =>
      bots_authenticate_of_reserved cfg ext username password hid hrealm hres hreserved s⟩
  · -- the bot path
    simp only [Bool.or_eq_false_iff] at hclean
    obtain ⟨⟨⟨h1, h2⟩, h3⟩, h4⟩ := hclean
    simp only [authenticate, authBody, authBot, run_bind, run_tryCatch, contains_at_clientId,
      split_at_clientId hid hrealm.1 hres.1, if_true, run_getItem, List.getElem?_cons_succ,
      List.getElem?_cons_zero,
      contains_realmPart (show '/' ∉ "ecouser".data by decide),
      contains_realmPart (show '/' ∉ "bumper".data by decide), h1, h2, h3, h4,
      split_realmPart hrealm.2 hres.2, hpm,
      Bool.or_false, Bool.not_false]
    unfold botAdd
    cases ext.botAddOk <;> cases cfg.allowAnonymous.getD true <;>
      simp [run_bind, fileAuth_true, PyExc.isException]

/-- Bot `d@cls/res` out of proxy mode, with every collaborator answering. -/
theorem bot_path_iff_unreserved_realm_part_dClsRes :
    ((contains "cls" "ecouser" || contains "cls" "bumper" || contains "res" "ecouser" ||
        contains "res" "bumper") = false →
      (authenticate ⟨false, false, some false, ∅, fun _ _ => false⟩
          ⟨true, true, some false, none, true⟩
          ⟨some "sn", some "pw", "d" ++ "@" ++ "cls" ++ "/" ++ "res"⟩).run
          (State.init ⟨[], []⟩) =
        if (⟨true, true, some false, none, true⟩ : AuthExt).botAddOk then
          .ok true { State.init ⟨[], []⟩ with
            registry := (State.init ⟨[], []⟩).registry.botAdd (some "sn") "d" "cls" "res" "eco-ng" }
        else
          .ok ((⟨false, false, some false, ∅, fun _ _ => false⟩ : Config).allowAnonymous.getD true)
          (State.init ⟨[], []⟩)) ∧
    ((contains "cls" "ecouser" || contains "cls" "bumper" || contains "res" "ecouser" ||
        contains "res" "bumper") = true →
      (finalState ((authenticate ⟨false, false, some false, ∅, fun _ _ => false⟩
        ⟨true, true, some false, none, true⟩
        ⟨some "sn", some "pw", "d" ++ "@" ++ "cls" ++ "/" ++ "res"⟩).run
          (State.init ⟨[], []⟩))).registry.bots = (State.init ⟨[], []⟩).registry.bots) :=
  bot_path_iff_unreserved_realm_part rfl _ _ _ (by decide) (by decide) (by decide) _

/-- A bot's client id `d@cls/bumper1`, with its realm `cls` free of `ecouser` and `bumper`, takes
the operator path: out of proxy mode and with authentication off it is registered as operator
client `bumper1` of user `d`, and no bot is registered. -/
theorem resource_decides_bot_path :
    contains "cls" "ecouser" = false ∧ contains "cls" "bumper" = false ∧
    (finalState ((authenticate ⟨false, false, some false, ∅, fun _ _ => false⟩
        ⟨true, true, some false, none, true⟩ ⟨some "sn", some "pw", "d@cls/bumper1"⟩).run
        (State.init ⟨[], []⟩))).registry = ⟨[], [⟨"d", "cls", "bumper1", false⟩]⟩ := by
  decide

/-! ### The entry the connection hooks mark -/

/-- `_set_client_connected` on `id@realm/resource`: it marks the bot of DID `id` if the registry
has one, else the operator client of resource `resource` if it has one. -/
theorem run_setClientConnected_parts {id realm resource : String} (hid : '@' ∉ id.data)
    (hrealm : '@' ∉ realm.data ∧ '/' ∉ realm.data)
    (hres : '@' ∉ resource.data ∧ '/' ∉ resource.data) (connected : Bool) (r : Registry) :
    (setClientConnected (id ++ "@" ++ realm ++ "/" ++ resource) connected).run r =
      .ok () (if (r.botGet id).isSome then r.botSetMqtt id connected
        else if (r.clientGet resource).isSome then r.clientSetMqtt resource connected else r) := by
  have hsplit := split_at_clientId hid hrealm.1 hres.1
  have hslash := split_realmPart hrealm.2 hres.2
  rcases hb : r.botGet id with _ | b
  · rcases hc : r.clientGet resource with _ | c
    · simp [setClientConnected, run_bind, run_getItem, hsplit, hslash, hb, hc]
    · simp [setClientConnected, run_bind, run_getItem, hsplit, hslash, hb, hc,
        Registry.resource_of_clientGet hc]
  · simp [setClientConnected, run_bind, run_getItem, hsplit, hb, Registry.did_of_botGet hb]

/-- **After an operator login, the connection hooks mark the bot of the user id.** Take an
operator client id `id@realm/resource` (no `@` in its parts, no `/` in `realm` or `resource`, and
`ecouser` or `bumper` in one of them) that `authenticate` accepted from `s`, leaving `s'`. If the
registry of `s` holds a bot of DID `id`, the connect hook and the registry half of the disconnect
hook set that bot's live flag and change nothing else. The operator client that `authenticate`
registered under `resource` is never marked. -/
theorem connection_hooks_mark_bot_of_operator_id {cfg : Config} {ext : AuthExt}
    {username password : Option String} {id realm resource : String} (hid : '@' ∉ id.data)
    (hrealm : '@' ∉ realm.data ∧ '/' ∉ realm.data)
    (hres : '@' ∉ resource.data ∧ '/' ∉ resource.data)
    (hreserved : (contains realm "ecouser" || contains realm "bumper" ||
        contains resource "ecouser" || contains resource "bumper") = true) {s s' : State}
    (hacc : (authenticate cfg ext
      ⟨username, password, id ++ "@" ++ realm ++ "/" ++ resource⟩).run s = .ok true s')
    (hbot : (s.registry.botGet id).isSome) :
    (onBrokerClientConnected (id ++ "@" ++ realm ++ "/" ++ resource)).run s' =
      .ok () { s' with registry := s'.registry.botSetMqtt id true } ∧
    (markOffline (id ++ "@" ++ realm ++ "/" ++ resource)).run s' =
      .ok () { s' with registry := s'.registry.botSetMqtt id false } := by
  have hbots : s'.registry.bots = s.registry.bots := by
    have h := bots_authenticate_of_reserved cfg ext username password hid hrealm hres hreserved s
    rwa [hacc] at h
  have hbot' : (s'.registry.botGet id).isSome := by rwa [Registry.botGet, hbots]
  constructor <;>
  · simp only [onBrokerClientConnected, markOffline]
    rw [run_onRegistry_of_ok (run_setClientConnected_parts hid hrealm hres _ _), if_pos hbot']

/-- Bot `d` of class `cls`, not live. -/
def botD : Bot := ⟨"d", some "sn", "cls", "res", "eco-ng", false⟩

/-- Bot `d` is registered; user `d` logs in as operator client `d@ecouser/r` with authentication
off, and `authenticate` registers client `r`. The hooks then mark bot `d`, and client `r` stays
offline. -/
theorem connection_hooks_mark_bot_of_operator_id_dEcouserR :
    (onBrokerClientConnected ("d" ++ "@" ++ "ecouser" ++ "/" ++ "r")).run
        { State.init ⟨[botD], []⟩ with registry := ⟨[botD], [⟨"d", "ecouser", "r", false⟩]⟩ } =
      .ok () { State.init ⟨[botD], []⟩ with
        registry := ⟨[{ botD with mqttConnection := true }], [⟨"d", "ecouser", "r", false⟩]⟩ } ∧
    (markOffline ("d" ++ "@" ++ "ecouser" ++ "/" ++ "r")).run
        { State.init ⟨[botD], []⟩ with registry := ⟨[botD], [⟨"d", "ecouser", "r", false⟩]⟩ } =
      .ok () { State.init ⟨[botD], []⟩ with
        registry := ⟨[botD], [⟨"d", "ecouser", "r", false⟩]⟩ } := by
  have h : (authenticate ⟨false, false, some false, ∅, fun _ _ => false⟩
      ⟨true, true, some false, none, true⟩
      ⟨some "u", some "pw", "d" ++ "@" ++ "ecouser" ++ "/" ++ "r"⟩).run (State.init ⟨[botD], []⟩) =
      .ok true
        { State.init ⟨[botD], []⟩ with registry := ⟨[botD], [⟨"d", "ecouser", "r", false⟩]⟩ } :=
    rfl
  exact connection_hooks_mark_bot_of_operator_id (by decide) (by decide) (by decide) (by decide) h
    rfl

end Bumper.Plugin.Admission
