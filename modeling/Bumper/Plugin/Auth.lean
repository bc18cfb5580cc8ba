import Bumper.Server

/-! # `authenticate`

The broker calls `authenticate(session)` once per connection. A client id `<id>@<realm>/<res>`
whose realm part (the text between the first `@` and the next) contains neither `ecouser` nor
`bumper` is a bot: it is registered, and in proxy mode an upstream client is opened for it and
stored in `proxyclients` under the client id; `authenticate` then awaits the client's `connect`,
and what it runs after that `await` is `connectDone`. Any other id with an `@` is an operator
client, or the helper bot. Then come the password file and, last, anonymous access. Every
`Exception` raised on the way makes the result `False` before the anonymous check; `exit(1)` is
not caught.

`proxyTable_authenticate` is what one call can do to the proxy table: nothing, or add one upstream
client under the session's client id, which then is a bot id (`botPathId`). -/

namespace Bumper.Plugin.Auth

open Bumper.Python Bumper.Helperbot Bumper.Server

/-- `if username:` — `None` and `""` are false. -/
def truthy : Option String → Bool
  | some u => !u.isEmpty
  | none => false

/-- `f"{x}"` of a value that is a string or `None`. -/
def fmt : Option String → String
  | some u => u
  | none => "None"

/-- The URI of line 383, `f"mqtts://{username}:{password}@{mqtt_server}:443"`. -/
def upstreamUri (username password : Option String) (mqttServer : String) : String :=
  "mqtts://" ++ fmt username ++ ":" ++ fmt password ++ "@" ++ mqttServer ++ ":443"

/-- `bumper.bot_add(...)`, which returns or raises as `ext` says. -/
def botAdd (ext : AuthExt) (sn : Option String) (did devClass resource company : String) :
    PyM State Unit :=
  if ext.botAddOk then
    modify fun s => { s with registry := s.registry.botAdd sn did devClass resource company }
  else throw .external

/-- `bumper.client_add(userid, realm, resource)`, which returns or raises as `ext` says. -/
def clientAdd (ext : AuthExt) (userid realm resource : String) : PyM State Unit :=
  if ext.clientAddOk then
    modify fun s => { s with registry := s.registry.clientAdd userid realm resource }
  else throw .external

/-- `bumper.check_authcode(did, password)`, as `ext` answers it. -/
def checkAuthcode (ext : AuthExt) : PyM State Bool :=
  match ext.checkAuthcode with
  | some ok => pure ok
  | none => throw .external

/-- Lines 367-382, in proxy mode, up to the `await` on `connect`: with no upstream server
configured the process exits; otherwise a new upstream client, not connected yet and with no
`get_msg` task, is stored under the client id, and `authenticate` waits for its `connect` with the
bot's credentials. -/
def startProxy (ext : AuthExt) (sess : Session) : PyM State Unit := do
  let mqttServer ← match ext.serverIp with
    | some ip => pure ip
    | none => throw .external
  if mqttServer = "" then throw .systemExit
  let pc : ProxyClient :=
    ⟨sess.clientId, upstreamUri sess.username sess.password mqttServer, false, false⟩
  modify fun s => { s with
    proxyclients := s.proxyclients.insert sess.clientId s.proxies.length
    proxies := s.proxies ++ [pc] }

/-- Lines 382-389, what `authenticate` runs once the `connect` of upstream client `h` is over: its
outcome `ok` (an exception is logged and passed over), then
`asyncio.create_task(self.proxyclients[client_id].get_msg())`, on the upstream client stored under
the client id by then, which a later `authenticate` may have replaced. The task's loop runs while
that client is connected. A `KeyError` here would be caught by the handler of line 421, which
changes nothing. -/
def connectDone (clientId : String) (h : Nat) (ok : Bool) : PyM State Unit := do
  modify fun s => { s with proxies := s.proxies.modify (fun pc => { pc with connected := ok }) h }
  match (← get).proxyclients.lookup clientId with
  | some j =>
    modify fun s => { s with
      proxies := s.proxies.modify (fun pc => { pc with relaying := pc.connected }) j }
  | none => throw .keyError

/-- Lines 354-389, the bot path, for `didsplit = client_id.split("@")` and its realm part. -/
def authBot (proxyMode : Bool) (ext : AuthExt) (sess : Session) (didsplit : List String)
    (realmPart : String) : PyM State Bool := do
  let tmpbotdetail := split realmPart '/'
  botAdd ext sess.username (← getItem didsplit 0) (← getItem tmpbotdetail 0)
    (← getItem tmpbotdetail 1) "eco-ng"
  if proxyMode then startProxy ext sess
  pure true

/-- Lines 393-405, the operator path: the helper bot is let in; any other user needs a valid
authcode, unless authentication is switched off. -/
def authClient (useAuth : Bool) (ext : AuthExt) (didsplit : List String) (realmPart : String) :
    PyM State Bool := do
  let tmpclientdetail := split realmPart '/'
  let userid ← getItem didsplit 0
  let realm ← getItem tmpclientdetail 0
  let resource ← getItem tmpclientdetail 1
  if userid = "helperbot" then pure true
  else if (← checkAuthcode ext) || !useAuth then
    clientAdd ext userid realm resource
    pure true
  else pure false

/-- Lines 408-419: a user not yet authenticated is checked against the password file. -/
def fileAuth (cfg : Config) (sess : Session) (authenticated : Bool) : Bool :=
  if truthy sess.username && !authenticated then
    match sess.username.bind cfg.users.lookup with
    | some hash => if hash.isEmpty then false else cfg.verify sess.password hash
    | none => false
  else authenticated

/-- The `try` block of lines 344-419. -/
def authBody (cfg : Config) (ext : AuthExt) (sess : Session) : PyM State Bool := do
  let authenticated ← if contains sess.clientId "@" then do
      let didsplit := split sess.clientId '@'
      let realmPart ← getItem didsplit 1
      if !(contains realmPart "ecouser" || contains realmPart "bumper") then
        authBot cfg.proxyMode ext sess didsplit realmPart
      else authClient cfg.useAuth ext didsplit realmPart
    else pure false
  pure (fileAuth cfg sess authenticated)

/-- `BumperMQTTServer_Plugin.authenticate(session=sess)`. -/
def authenticate (cfg : Config) (ext : AuthExt) (sess : Session) : PyM State Bool := do
  let authenticated ← tryCatch (authBody cfg ext sess)
    fun e => if e.isException then pure false else throw e
  if cfg.allowAnonymous.getD true && !authenticated then pure true else pure authenticated

/-! ### What a call changes -/

section Preserve

variable {R : State → State → Prop} (hr : Reflexive R) (ht : Transitive R)
  (hb : ∀ s sn did devClass resource company,
    R s { s with registry := s.registry.botAdd sn did devClass resource company })
  (hc : ∀ s userid realm resource,
    R s { s with registry := s.registry.clientAdd userid realm resource })
  (hp : ∀ s pcs ps, R s { s with proxyclients := pcs, proxies := ps })
include hr

theorem preserves_checkAuthcode (ext : AuthExt) : Preserves R (checkAuthcode ext) := by
  unfold checkAuthcode; split
  · exact preserves_pure hr _
  · exact preserves_throw hr _

include hb in
theorem preserves_botAdd (ext : AuthExt) (sn : Option String)
    (did devClass resource company : String) :
    Preserves R (botAdd ext sn did devClass resource company) := by
  unfold botAdd; split
  · exact preserves_modify fun s => hb s _ _ _ _ _
  · exact preserves_throw hr _

include hc in
theorem preserves_clientAdd (ext : AuthExt) (userid realm resource : String) :
    Preserves R (clientAdd ext userid realm resource) := by
  unfold clientAdd; split
  · exact preserves_modify fun s => hc s _ _ _
  · exact preserves_throw hr _

include ht hc in
/-- The operator path only registers an operator client. -/
theorem preserves_authClient (useAuth : Bool) (ext : AuthExt) (didsplit : List String)
    (realmPart : String) : Preserves R (authClient useAuth ext didsplit realmPart) :=
  Preserves.bind ht (preserves_getItem hr _ _) fun _ => Preserves.bind ht (preserves_getItem hr _ _)
    fun _ => Preserves.bind ht (preserves_getItem hr _ _) fun _ =>
      Preserves.ite _ (preserves_pure hr _) <| Preserves.bind ht (preserves_checkAuthcode hr _)
        fun _ => Preserves.ite _
          (Preserves.bind ht (preserves_clientAdd hr hc _ _ _ _) fun _ => preserves_pure hr _)
          (preserves_pure hr _)

include ht hp in
theorem preserves_startProxy (ext : AuthExt) (sess : Session) :
    Preserves R (startProxy ext sess) := by
  unfold startProxy
  dsimp only
  split <;> refine Preserves.bind ht
    (by first | exact preserves_pure hr _ | exact preserves_throw hr _) fun _ => Preserves.ite _
      (Preserves.bind ht (preserves_throw hr _) fun _ => preserves_modify fun s => hp s _ _)
      (Preserves.bind ht (preserves_pure hr _) fun _ => preserves_modify fun s => hp s _ _)

include ht hb hp in
/-- The bot path registers the bot and, in proxy mode, makes its upstream client. -/
theorem preserves_authBot (proxyMode : Bool) (ext : AuthExt) (sess : Session)
    (didsplit : List String) (realmPart : String) :
    Preserves R (authBot proxyMode ext sess didsplit realmPart) :=
  Preserves.bind ht (preserves_getItem hr _ _) fun _ => Preserves.bind ht (preserves_getItem hr _ _)
    fun _ => Preserves.bind ht (preserves_getItem hr _ _) fun _ =>
      Preserves.bind ht (preserves_botAdd hr hb _ _ _ _ _ _) fun _ => Preserves.ite _
        (Preserves.bind ht (preserves_startProxy hr ht hp _ _) fun _ => preserves_pure hr _)
        (Preserves.bind ht (preserves_pure hr _) fun _ => preserves_pure hr _)

include ht hb hc hp in
/-- **What a call can do.** `authenticate` registers a bot or an operator client and makes an
upstream client, and does nothing else: it preserves every preorder that these three writes
preserve. -/
theorem preserves_authenticate (cfg : Config) (ext : AuthExt) (sess : Session) :
    Preserves R (authenticate cfg ext sess) :=
  have hbody : Preserves R (authBody cfg ext sess) :=
    Preserves.ite _ (Preserves.bind ht (preserves_getItem hr _ _) fun _ => Preserves.ite _
        (Preserves.bind ht (preserves_authBot hr ht hb hp _ _ _ _ _) fun _ => preserves_pure hr _)
        (Preserves.bind ht (preserves_authClient hr ht hc _ _ _ _) fun _ => preserves_pure hr _))
      (Preserves.bind ht (preserves_pure hr _) fun _ => preserves_pure hr _)
  Preserves.bind ht (Preserves.tryCatch ht hbody fun _ =>
      Preserves.ite _ (preserves_pure hr _) (preserves_throw hr _)) fun _ =>
    Preserves.ite _ (preserves_pure hr _) (preserves_pure hr _)

end Preserve

section Frame

variable {β : Type} (f : State → β) (hr : ∀ s r, f { s with registry := r } = f s)

theorem keeps_checkAuthcode (ext : AuthExt) : Keeps f (checkAuthcode ext) :=
  preserves_checkAuthcode (reflexive_keeps f) ext

/-- After the `await`, only the upstream clients change. -/
theorem keeps_connectDone (hq : ∀ s l, f { s with proxies := l } = f s) (clientId : String)
    (h : Nat) (ok : Bool) : Keeps f (connectDone clientId h ok) := by
  unfold connectDone
  refine Keeps.bind (keeps_modify f fun s => hq s _) fun _ => Keeps.bind (keeps_get f) fun s => ?_
  split
  · exact keeps_modify f fun s => hq s _
  · exact keeps_throw f _

include hr

theorem keeps_botAdd (ext : AuthExt) (sn : Option String) (did devClass resource company : String) :
    Keeps f (botAdd ext sn did devClass resource company) :=
  preserves_botAdd (reflexive_keeps f) (fun s _ _ _ _ _ => hr s _) ext sn did devClass resource
    company

theorem keeps_clientAdd (ext : AuthExt) (userid realm resource : String) :
    Keeps f (clientAdd ext userid realm resource) :=
  preserves_clientAdd (reflexive_keeps f) (fun s _ _ _ => hr s _) ext userid realm resource

/-- The operator path changes the registry only. -/
theorem keeps_authClient (useAuth : Bool) (ext : AuthExt) (didsplit : List String)
    (realmPart : String) : Keeps f (authClient useAuth ext didsplit realmPart) :=
  preserves_authClient (reflexive_keeps f) (transitive_keeps f) (fun s _ _ _ => hr s _) useAuth
    ext didsplit realmPart

variable (hp : ∀ s pcs ps, f { s with proxyclients := pcs, proxies := ps } = f s)

include hp

omit hr in
theorem keeps_startProxy (ext : AuthExt) (sess : Session) : Keeps f (startProxy ext sess) :=
  preserves_startProxy (reflexive_keeps f) (transitive_keeps f) hp ext sess

theorem keeps_authBot (proxyMode : Bool) (ext : AuthExt) (sess : Session) (didsplit : List String)
    (realmPart : String) : Keeps f (authBot proxyMode ext sess didsplit realmPart) :=
  preserves_authBot (reflexive_keeps f) (transitive_keeps f) (fun s _ _ _ _ _ => hr s _) hp
    proxyMode ext sess didsplit realmPart

/-- A call changes the registry and the proxy table, and nothing else. -/
theorem keeps_authenticate (cfg : Config) (ext : AuthExt) (sess : Session) :
    Keeps f (authenticate cfg ext sess) :=
  preserves_authenticate (reflexive_keeps f) (transitive_keeps f) (fun s _ _ _ _ _ => hr s _)
    (fun s _ _ _ => hr s _) hp cfg ext sess

end Frame

/-! ### What one call does to the proxy table -/

/-- The client ids that reach `bot_add` on the bot path: an `@`, and a realm part (the text between
the first `@` and the next) that has a `/` and contains neither `ecouser` nor `bumper`. -/
def botPathId (clientId : String) : Bool :=
  contains clientId "@" &&
    match (split clientId '@')[1]? with
    | some realmPart =>
      !(contains realmPart "ecouser" || contains realmPart "bumper") &&
        decide (1 < (split realmPart '/').length)
    | none => false

/-- The proxy table: `proxyclients` and the upstream clients. -/
def proxyTable (s : State) : AList (fun _ : String => Nat) × List ProxyClient :=
  (s.proxyclients, s.proxies)

/-- `s'` is `s` with one more upstream client, made for `clientId` and stored under it. -/
def AddsProxy (clientId : String) (s s' : State) : Prop :=
  ∃ pc : ProxyClient, pc.clientId = clientId ∧
    s'.proxyclients = s.proxyclients.insert clientId s.proxies.length ∧
      s'.proxies = s.proxies ++ [pc]

theorem AddsProxy.of_proxyTable_eq {c : String} {s s₁ s' : State}
    (h : proxyTable s₁ = proxyTable s) (ha : AddsProxy c s₁ s') : AddsProxy c s s' := by
  simp only [proxyTable, Prod.mk.injEq] at h
  obtain ⟨pc, hpc, h1, h2⟩ := ha
  exact ⟨pc, hpc, by rw [h1, h.1, h.2], by rw [h2, h.2]⟩

theorem startProxy_cases {ext : AuthExt} {sess : Session} {s : State}
    {r : EStateM.Result PyExc State Unit} (hr : (startProxy ext sess).run s = r) :
    proxyTable (finalState r) = proxyTable s ∨
      r = .ok () (finalState r) ∧ AddsProxy sess.clientId s (finalState r) := by
  subst hr
  unfold startProxy
  cases hip : ext.serverIp <;> simp [hip, run_bind, finalState]
  rename_i ip
  by_cases h : ip = ""
  · simp [h, run_bind, finalState]
  · simp only [h, if_false, run_modify, finalState]
    exact .inr ⟨trivial, _, rfl, rfl, rfl⟩

theorem authBot_cases {proxyMode : Bool} {ext : AuthExt} {sess : Session}
    {didsplit : List String} {realmPart : String} {s : State} {r : EStateM.Result PyExc State Bool}
    (hr : (authBot proxyMode ext sess didsplit realmPart).run s = r) :
    proxyTable (finalState r) = proxyTable s ∨
      proxyMode = true ∧ 1 < (split realmPart '/').length ∧ r = .ok true (finalState r) ∧
        AddsProxy sess.clientId s (finalState r) := by
  subst hr
  unfold authBot
  simp only [run_bind, run_getItem]
  rcases didsplit[0]? with _ | did
  · exact .inl rfl
  rcases (split realmPart '/')[0]? with _ | cls
  · exact .inl rfl
  rcases h1 : (split realmPart '/')[1]? with _ | res
  · exact .inl rfl
  obtain ⟨hlen, -⟩ := List.getElem?_eq_some.1 h1
  unfold botAdd
  cases ext.botAddOk
  · exact .inl rfl
  cases proxyMode
  · exact .inl rfl
  simp only [if_true, run_modify, run_bind]
  split <;> rename_i heq <;> rcases startProxy_cases heq with h | ⟨he, h⟩
  · exact .inl h
  · exact .inr ⟨trivial, hlen, rfl, h.of_proxyTable_eq rfl⟩
  · exact .inl h
  · cases he

theorem fileAuth_true (cfg : Config) (sess : Session) : fileAuth cfg sess true = true := by
  simp [fileAuth]

theorem authBody_cases {cfg : Config} {ext : AuthExt} {sess : Session} {s : State}
    {r : EStateM.Result PyExc State Bool} (hr : (authBody cfg ext sess).run s = r) :
    proxyTable (finalState r) = proxyTable s ∨
      botPathId sess.clientId = true ∧ cfg.proxyMode = true ∧ r = .ok true (finalState r) ∧
        AddsProxy sess.clientId s (finalState r) := by
  subst hr
  rw [authBody]
  by_cases hat : contains sess.clientId "@" = true
  swap
  · simp [hat, finalState]
  rw [if_pos hat]
  dsimp only
  rw [run_bind, run_getItem]
  rcases h1 : (split sess.clientId '@')[1]? with _ | realmPart
  · exact .inl rfl
  dsimp only
  split
  · rename_i hbot
    rw [run_bind]
    split <;> rename_i heq <;> rcases authBot_cases heq with h | ⟨hpm, hlen, he, h⟩
    · exact .inl h
    · injection he with ha; subst ha
      refine .inr ⟨?_, hpm, by rw [fileAuth_true]; rfl, h⟩
      simp only [botPathId, hat, h1, hbot, hlen, decide_True, Bool.and_self]
    · exact .inl h
    · cases he
  · exact .inl (Keeps.bind (keeps_authClient proxyTable (fun _ _ => rfl) _ _ _ _)
      (fun _ => keeps_pure _ _) s)

/-- **What one `authenticate` does to the proxy table.** It leaves it alone, or, in proxy mode and
for a bot id, adds one upstream client made for the session's client id and stored under it. -/
theorem proxyTable_authenticate {cfg : Config} {ext : AuthExt} {sess : Session} {s : State}
    {r : EStateM.Result PyExc State Bool} (hr : (authenticate cfg ext sess).run s = r) :
    proxyTable (finalState r) = proxyTable s ∨
      botPathId sess.clientId = true ∧ cfg.proxyMode = true ∧ r = .ok true (finalState r) ∧
        AddsProxy sess.clientId s (finalState r) := by
  subst hr
  rw [authenticate, run_bind, run_tryCatch]
  rcases hb : (authBody cfg ext sess).run s with ⟨a, s'⟩ | ⟨e, s'⟩ <;>
    rcases authBody_cases hb with h | ⟨hbp, hpm, he, h⟩
  · left; dsimp only; split <;> exact h
  · injection he with ha; subst ha
    dsimp only; split <;> exact .inr ⟨hbp, hpm, rfl, h⟩
  · left
    by_cases hex : e.isException = true <;>
      simp only [hex, if_true, if_false, Bool.false_eq_true, run_pure, run_throw] <;>
      first | exact h | split <;> exact h
  · cases he

/-! ### After the connect -/

/-- When upstream client `h` is still the one stored under the client id, the end of
`authenticate` leaves it connected as the `connect` ended, and its `get_msg` loop running just
when it is connected. -/
theorem proxies_connectDone_of_lookup {clientId : String} {h : Nat} {s : State} (ok : Bool)
    (hl : s.proxyclients.lookup clientId = some h) :
    (finalState ((connectDone clientId h ok).run s)).proxies =
      s.proxies.modify (fun pc => { pc with connected := ok, relaying := ok }) h := by
  simp [connectDone, run_bind, hl, finalState, List.modify_modify_eq, Function.comp_def]

end Bumper.Plugin.Auth
