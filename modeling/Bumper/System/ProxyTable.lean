import Bumper.System.World

/-! # Upstream clients in proxy mode

`authenticate` stores a new upstream client under a bot's client id each time the bot
authenticates; nothing else adds to `proxyclients` or removes from it, and only the end of
`authenticate`, the disconnect hook and the end of a `get_msg` loop change an upstream client. So
in every reachable world each entry `c ↦ i` names a bot id and the last upstream client made for
`c` (`Sessions`).

The disconnect hook disconnects the current upstream client of `c` but keeps its entry and every
helper name, and a second disconnect leaves the broker's state as it is; an earlier upstream
client of `c` is never disconnected, and one whose `connect` is still pending is connected after
the disconnect.

* `proxy_sessions`: the table in every reachable world; no event removes an entry; `authenticate`
  appends its upstream client and changes no entry but that of its own client id; the disconnect
  hook disconnects `c`'s current upstream client and leaves every other one as it was;
* `pending_connect_outlives_disconnect`: a bot that disconnects while its upstream client connects
  leaves that client connected and relaying;
* `proxy_keys_take_bot_path`: every key took the bot path, so the helper bot's own messages are
  never forwarded upstream;
* `only_local_publishes_without_proxy_mode`: with proxy mode off there is no upstream client and
  everything sent goes to the local broker;
* `proxied_reply_not_forwarded`: the helper names are one dict for all bots, and a bot's reply to
  a relayed command is never published upstream;
* `nothing_published_upstream`: in any mode, no reachable world holds an upstream publish; the
  process only publishes on the local broker and mirrors subscriptions. -/

namespace Bumper.System.ProxyTable

open Bumper.Python Bumper.Helperbot Bumper.Server Bumper.Plugin.Auth Bumper.Plugin.Lifecycle
  Bumper.Plugin.Message Bumper.ProxyClient
open scoped List

/-- What the invariant reads of the state: `proxyclients`, and the client id each upstream client
was made for. -/
def proxyIds (s : State) : AList (fun _ : String => Nat) × List String :=
  (s.proxyclients, s.proxies.map (·.clientId))

/-- Every entry `c ↦ i` of `proxyclients` names a client id of the bot path and the last upstream
client made for `c`. -/
structure Sessions (s : State) : Prop where
  bot_path : ∀ c i, s.proxyclients.lookup c = some i → botPathId c = true
  made_for : ∀ c i, s.proxyclients.lookup c = some i → (s.proxies.map (·.clientId))[i]? = some c
  latest : ∀ c i, s.proxyclients.lookup c = some i →
    ∀ j, (s.proxies.map (·.clientId))[j]? = some c → j ≤ i

theorem Sessions.of_proxyIds {s s' : State} (hs : Sessions s) (h : proxyIds s' = proxyIds s) :
    Sessions s' := by
  simp only [proxyIds, Prod.mk.injEq] at h
  obtain ⟨h1, h2⟩ := h
  exact ⟨by rw [h1]; exact hs.1, by rw [h1, h2]; exact hs.2, by rw [h1, h2]; exact hs.3⟩

/-- A new upstream client for a bot id keeps the invariant. -/
theorem Sessions.addsProxy {c : String} {s s' : State} (hs : Sessions s) (hb : botPathId c = true)
    (ha : AddsProxy c s s') : Sessions s' := by
  obtain ⟨pc, hpc, h1, h2⟩ := ha
  have hids : s'.proxies.map (·.clientId) = s.proxies.map (·.clientId) ++ [c] := by
    rw [h2, List.map_append, List.map_singleton, hpc]
  have hlen : (s.proxies.map (·.clientId)).length = s.proxies.length := List.length_map _ _
  refine ⟨fun c' i hl => ?_, fun c' i hl => ?_, fun c' i hl j hj => ?_⟩ <;> rw [h1] at hl <;>
    by_cases hc : c' = c
  · subst hc; exact hb
  · rw [AList.lookup_insert_ne hc] at hl; exact hs.bot_path c' i hl
  · subst hc
    rw [AList.lookup_insert] at hl; cases hl
    rw [hids, ← hlen, List.getElem?_concat_length]
  · rw [AList.lookup_insert_ne hc] at hl
    have hi := hs.made_for c' i hl
    rw [hids, List.getElem?_append_left (List.getElem?_eq_some.1 hi).1, hi]
  · subst hc
    rw [AList.lookup_insert] at hl; cases hl
    rw [hids] at hj
    have := (List.getElem?_eq_some.1 hj).1
    simp only [List.length_append, List.length_singleton, hlen] at this
    omega
  · rw [AList.lookup_insert_ne hc] at hl
    rw [hids] at hj
    rcases Nat.lt_or_ge j (s.proxies.map (·.clientId)).length with hj' | hj'
    · rw [List.getElem?_append_left hj'] at hj; exact hs.latest c' i hl j hj
    · obtain ⟨hlt, he⟩ := List.getElem?_eq_some.1 hj
      simp only [List.length_append, List.length_singleton] at hlt
      simp only [List.getElem_append_right hj', show j - (s.proxies.map (·.clientId)).length = 0 by
        omega, List.getElem_singleton] at he
      exact absurd he.symm hc

/-! ### What one event does to the proxy table -/

/-- An insertion changes the entry of its key only. -/
theorem lookup_insert_cases {β : Type} (l : AList fun _ : String => β) (k : String) (v : β)
    (c : String) :
    (l.insert k v).lookup c = l.lookup c ∨ c = k ∧ (l.insert k v).lookup c = some v := by
  by_cases hc : c = k
  · exact .inr ⟨hc, by rw [hc, AList.lookup_insert]⟩
  · exact .inl (AList.lookup_insert_ne hc)

theorem map_modify_of_comp {α β : Type} {f : α → α} {g : α → β} (hfg : ∀ a, g (f a) = g a)
    (l : List α) (n : Nat) : (l.modify f n).map g = l.map g := by
  apply List.ext_getElem?
  intro m
  simp only [List.getElem?_map, List.getElem?_modify]
  cases l[m]? <;> simp [apply_ite, hfg]

theorem proxyIds_disconnected {V : Type} (cfg : Config) (w : World V) (c : String) :
    proxyIds (w.disconnected cfg c).server = proxyIds w.server := by
  rcases disconnected_cases cfg w c with ⟨i, -, -, he⟩ | ⟨-, he⟩ <;> rw [he]
  · simp [proxyIds, disconnect, finalState, map_modify_of_comp]
  · exact keeps_markOffline proxyIds (fun _ _ => rfl) c w.server

/-- Once its `connect` is over, `authenticate` changes the state of upstream clients only. -/
theorem proxyIds_connectDone (clientId : String) (h : Nat) (ok : Bool) (s : State) :
    proxyIds (finalState ((connectDone clientId h ok).run s)) = proxyIds s := by
  simp only [connectDone, run_bind, run_modify, run_get]
  split <;> simp [proxyIds, finalState, map_modify_of_comp]

theorem proxyIds_resume {V : Type} (w : World V) (k : Nat) (sp : Suspended) :
    proxyIds (w.resume k sp).server = proxyIds w.server := by
  cases sp with
  | connect c h ok => exact proxyIds_connectDone c h ok w.server
  | disconnect c => exact keeps_markOffline proxyIds (fun _ _ => rfl) c w.server

theorem proxyIds_delivered {V : Type} (w : World V) (h : Nat) (message : Message) :
    proxyIds (w.delivered h message).server = proxyIds w.server := by
  have hk := keeps_getMsgTurn proxyIds (fun _ _ => rfl) (fun _ _ => rfl) message w.server
  unfold World.delivered
  split <;> rename_i heq <;> rw [heq] at hk
  · exact hk
  · rw [← hk]
    simp [proxyIds, finalState, map_modify_of_comp]

section Steps

variable {V : Type} {cfg : Config} {codec : Codec V}

/-- **What one event can do to the proxy table.** Only `authenticate` changes `proxyclients` or
the client ids of the upstream clients, by adding one upstream client for a bot id, in proxy
mode. -/
theorem step_proxyIds {w w' : World V} {e : Event V} (h : step cfg codec w e = some w') :
    proxyIds w'.server = proxyIds w.server ∨
      ∃ sess ext, e = .authenticate sess ext ∧ botPathId sess.clientId = true ∧
        cfg.proxyMode = true ∧ AddsProxy sess.clientId w.server w'.server := by
  have hpt : ∀ s s' : State, proxyTable s' = proxyTable s → proxyIds s' = proxyIds s :=
    fun s s' h => by simp only [proxyTable, Prod.mk.injEq] at h; simp [proxyIds, h.1, h.2]
  cases e with
  | authenticate sess ext =>
    obtain ⟨b, s, hr, rfl⟩ := step_authenticate h
    rcases proxyTable_authenticate hr with ht | ⟨hb, hpm, -, ha⟩
    · exact .inl (hpt _ _ ht)
    · exact .inr ⟨sess, ext, rfl, hb, hpm, ha⟩
  | connected c =>
    cases h; exact .inl (keeps_onRegistry proxyIds (fun _ _ => rfl) _ w.server)
  | subscribed c topic qos =>
    cases h; exact .inl (keeps_onBrokerClientSubscribed proxyIds (fun _ _ => rfl) _ _ _ _ w.server)
  | received c m now =>
    cases h
    exact .inl (keeps_onBrokerMessageReceived proxyIds (fun _ _ => rfl) (fun _ _ => rfl) _ _ _ _ _
      w.server)
  | disconnected c => cases h; exact .inl (proxyIds_disconnected cfg w c)
  | delivered hc m =>
    obtain ⟨-, -, -, -, rfl⟩ := step_delivered h
    exact .inl (proxyIds_delivered w hc m)
  | sendCommand cmd r now => cases h; exact .inl rfl
  | poll i now => obtain ⟨-, -, -, -, rfl⟩ := step_poll h; exact .inl rfl
  | timeout i now => obtain ⟨-, -, -, -, rfl⟩ := step_timeout h; exact .inl rfl
  | cancel i => obtain ⟨-, -, -, rfl⟩ := step_cancel h; exact .inl rfl
  | resume k => obtain ⟨sp, -, rfl⟩ := step_resume h; exact .inl (proxyIds_resume w k sp)

theorem sessions_of_reachable {w : World V} (h : Reachable cfg codec w) : Sessions w.server := by
  induction h with
  | init registry zone =>
    exact ⟨by simp [World.start, State.init], by simp [World.start, State.init],
      by simp [World.start, State.init]⟩
  | step e _ hs ih =>
    rcases step_proxyIds hs with hp | ⟨sess, ext, -, hb, -, ha⟩
    · exact ih.of_proxyIds hp
    · exact ih.addsProxy hb ha

/-! ### Disconnecting -/

/-- The disconnect hook keeps `proxyclients` and the helper names and disconnects the client's
current upstream client in proxy mode, and no other; the same hook again leaves the broker's state
as it is. -/
theorem disconnected_step (w : World V) (c : String) :
    ∃ w', step cfg codec w (.disconnected c) = some w' ∧
      w'.server.proxyclients = w.server.proxyclients ∧
      w'.server.ecoHelperNames = w.server.ecoHelperNames ∧
      (cfg.proxyMode = true → ∀ i, w.server.proxyclients.lookup c = some i →
        ∀ pc, w'.server.proxies[i]? = some pc → pc.connected = false ∧ pc.relaying = false) ∧
      (∀ j, w.server.proxyclients.lookup c ≠ some j →
        w'.server.proxies[j]? = w.server.proxies[j]?) ∧
      (step cfg codec w' (.disconnected c)).map World.server = some w'.server := by
  refine ⟨_, rfl, disconnected_keeps State.proxyclients (fun _ _ => rfl) (fun _ _ => rfl) cfg w c,
    disconnected_keeps State.ecoHelperNames (fun _ _ => rfl) (fun _ _ => rfl) cfg w c,
    fun hpm i hl pc hpc => ?_, fun j hj => ?_,
    by simp only [step, Option.map_some', disconnected_twice]⟩
  · rw [disconnected_of_lookup hpm hl] at hpc
    simp only [disconnect, finalState, run_modify, List.getElem?_modify, if_pos] at hpc
    obtain ⟨pc₀, -, rfl⟩ := Option.map_eq_some'.1 hpc
    exact ⟨rfl, rfl⟩
  · rcases disconnected_cases cfg w c with ⟨i, -, hl, he⟩ | ⟨-, he⟩ <;> rw [he]
    · have hij : i ≠ j := fun hij => hj (hij ▸ hl)
      simp [disconnect, finalState, List.getElem?_modify, hij]
    · exact congrArg (·[j]?) (keeps_markOffline State.proxies (fun _ _ => rfl) c w.server)

end Steps

/-! ### Runs in proxy mode -/

/-- Proxy mode on, no authentication, anonymous access allowed, no password file. -/
def proxyConfig : Config := ⟨true, false, some true, ∅, fun _ _ => false⟩

/-- Every collaborator of `authenticate` answers, and the upstream server is `10.0.0.1`. -/
def upstreamOk : AuthExt := ⟨true, true, some true, some "10.0.0.1", true⟩

/-- A bot's session. -/
def botSession (clientId : String) : Session := ⟨some "bot", some "secret", clientId⟩

/-- The world after bot `bot@cls/res` authenticated in proxy mode. -/
def botWorld : World String :=
  (run proxyConfig textCodec (World.init ⟨[], []⟩)
    [.authenticate (botSession "bot@cls/res") upstreamOk]).getD (World.init ⟨[], []⟩)

theorem reachable_botWorld : Reachable proxyConfig textCodec botWorld :=
  reachable_run proxyConfig textCodec (.init _ _)
    (show run proxyConfig textCodec (World.init ⟨[], []⟩)
      [.authenticate (botSession "bot@cls/res") upstreamOk] = some botWorld from rfl)

/-! ### Every run -/

section Runs

variable {V : Type} {cfg : Config} {codec : Codec V}

/-- **Upstream clients in every reachable world.** Each entry `c ↦ i` of `proxyclients` names a
client id of the bot path and the last upstream client made for `c`; `authenticate` leaves the
upstream clients there are as they were; the disconnect hook keeps `proxyclients` and every helper
name, disconnects the current upstream client of `c` in proxy mode, and a second disconnect
leaves the broker's state as it is. -/
theorem proxy_sessions {w : World V} (h : Reachable cfg codec w) :
    (∀ c i, w.server.proxyclients.lookup c = some i →
      botPathId c = true ∧ (w.server.proxies.map (·.clientId))[i]? = some c ∧
        ∀ j, (w.server.proxies.map (·.clientId))[j]? = some c → j ≤ i) ∧
    (∀ e w', step cfg codec w e = some w' → ∀ c, (w.server.proxyclients.lookup c).isSome →
      (w'.server.proxyclients.lookup c).isSome) ∧
    (∀ sess ext w', step cfg codec w (.authenticate sess ext) = some w' →
      w.server.proxies <+: w'.server.proxies ∧
      ∀ c, w'.server.proxyclients.lookup c = w.server.proxyclients.lookup c ∨
        c = sess.clientId ∧ w'.server.proxyclients.lookup c = some w.server.proxies.length) ∧
    ∀ c, ∃ w', step cfg codec w (.disconnected c) = some w' ∧
      w'.server.proxyclients = w.server.proxyclients ∧
      w'.server.ecoHelperNames = w.server.ecoHelperNames ∧
      (cfg.proxyMode = true → ∀ i, w.server.proxyclients.lookup c = some i →
        ∀ pc, w'.server.proxies[i]? = some pc → pc.connected = false ∧ pc.relaying = false) ∧
      (∀ j, w.server.proxyclients.lookup c ≠ some j →
        w'.server.proxies[j]? = w.server.proxies[j]?) ∧
      (step cfg codec w' (.disconnected c)).map World.server = some w'.server := by
  have hs := sessions_of_reachable h
  refine ⟨fun c i hl => ⟨hs.bot_path c i hl, hs.made_for c i hl, hs.latest c i hl⟩,
    fun e w' hst c hc => ?_, fun sess ext w' hst => ?_, disconnected_step w⟩
  · rcases step_proxyIds hst with hp | ⟨sess, -, -, -, -, pc, -, h1, -⟩
    · simp only [proxyIds, Prod.mk.injEq] at hp
      rw [hp.1]; exact hc
    · rw [h1]
      rcases lookup_insert_cases w.server.proxyclients sess.clientId w.server.proxies.length c with
        h | ⟨-, h⟩ <;> rw [h]
      · exact hc
      · rfl
  obtain ⟨b, s, hr, rfl⟩ := step_authenticate hst
  rw [show (w.authenticated sess ext s).server = s from rfl]
  rcases proxyTable_authenticate hr with ht | ⟨-, -, -, pc, -, h1, h2⟩
  · simp only [proxyTable, Prod.mk.injEq, finalState] at ht
    exact ⟨ht.2 ▸ List.prefix_refl _, fun c => .inl (by rw [ht.1])⟩
  · simp only [finalState] at h1 h2
    exact ⟨h2 ▸ List.prefix_append _ _, fun c => h1 ▸ lookup_insert_cases _ _ _ c⟩

theorem proxy_sessions_botWorld :
    (∀ c i, botWorld.server.proxyclients.lookup c = some i →
      botPathId c = true ∧ (botWorld.server.proxies.map (·.clientId))[i]? = some c ∧
        ∀ j, (botWorld.server.proxies.map (·.clientId))[j]? = some c → j ≤ i) ∧
    (∀ e w', step proxyConfig textCodec botWorld e = some w' → ∀ c,
      (botWorld.server.proxyclients.lookup c).isSome → (w'.server.proxyclients.lookup c).isSome) ∧
    (∀ sess ext w', step proxyConfig textCodec botWorld (.authenticate sess ext) = some w' →
      botWorld.server.proxies <+: w'.server.proxies ∧
      ∀ c, w'.server.proxyclients.lookup c = botWorld.server.proxyclients.lookup c ∨
        c = sess.clientId ∧ w'.server.proxyclients.lookup c = some botWorld.server.proxies.length) ∧
    ∀ c, ∃ w', step proxyConfig textCodec botWorld (.disconnected c) = some w' ∧
      w'.server.proxyclients = botWorld.server.proxyclients ∧
      w'.server.ecoHelperNames = botWorld.server.ecoHelperNames ∧
      (proxyConfig.proxyMode = true → ∀ i, botWorld.server.proxyclients.lookup c = some i →
        ∀ pc, w'.server.proxies[i]? = some pc → pc.connected = false ∧ pc.relaying = false) ∧
      (∀ j, botWorld.server.proxyclients.lookup c ≠ some j →
        w'.server.proxies[j]? = botWorld.server.proxies[j]?) ∧
      (step proxyConfig textCodec w' (.disconnected c)).map World.server = some w'.server :=
  proxy_sessions reachable_botWorld

/-- The bot authenticates twice, both its upstream clients deliver a command, then it disconnects:
its entry stays, pointing to the second client; the first client is still connected and relaying;
the helper name the second client recorded stays. -/
theorem reauth_keeps_entry_client_and_names :
    (run proxyConfig textCodec (World.init ⟨[], []⟩)
        [.authenticate (botSession "bot@cls/res") upstreamOk, .resume 0,
          .authenticate (botSession "bot@cls/res") upstreamOk, .resume 0,
          .delivered 0 ⟨"iot/p2p/getX/h1/t/r/bot/cls/res/q/7/j", .utf8 "{}", 0⟩,
          .delivered 1 ⟨"iot/p2p/getX/h2/t/r/bot/cls/res/q/8/j", .utf8 "{}", 0⟩,
          .disconnected "bot@cls/res"]).map
        (fun w => (w.server.proxyclients.lookup "bot@cls/res",
          w.server.proxies.map fun pc => (pc.connected, pc.relaying),
          w.server.ecoHelperNames.lookup "8")) =
      some (some 1, [(true, true), (false, false)], some "h2") := by
  decide

/-- **Every key of `proxyclients` took the bot path.** In every reachable world each key has a
realm part (the text between its first `@` and the next) with a `/` and neither `ecouser` nor
`bumper`. So the helper bot's client id, through which `get_msg` republishes what it receives, is
never a key, and the upstream forward of the message hook does nothing for its messages. -/
theorem proxy_keys_take_bot_path {w : World V} (h : Reachable cfg codec w) :
    (∀ c, c ∈ w.server.proxyclients → botPathId c = true) ∧
    helperbotClientId ∉ w.server.proxyclients ∧
    ∀ message, (proxyForward cfg.proxyMode helperbotClientId message).run w.server =
      .ok () w.server := by
  have hs := sessions_of_reachable h
  have hkeys : ∀ c, c ∈ w.server.proxyclients → botPathId c = true := fun c hc => by
    obtain ⟨i, hi⟩ := Option.isSome_iff_exists.1 (AList.lookup_isSome.2 hc)
    exact hs.bot_path c i hi
  have hhb : helperbotClientId ∉ w.server.proxyclients := fun hm =>
    absurd (hkeys _ hm) (by decide)
  exact ⟨hkeys, hhb, fun message => run_proxyForward_of_lookup (AList.lookup_eq_none.2 hhb) _ _⟩

theorem proxy_keys_take_bot_path_botWorld :
    (∀ c, c ∈ botWorld.server.proxyclients → botPathId c = true) ∧
    helperbotClientId ∉ botWorld.server.proxyclients ∧
    ∀ message, (proxyForward proxyConfig.proxyMode helperbotClientId message).run botWorld.server =
      .ok () botWorld.server :=
  proxy_keys_take_bot_path reachable_botWorld

/-- A client id with a second `@` takes the bot path on the text between the two: `a@x/y@bumper`
becomes a key, though the text after its first `@` contains `bumper`. -/
theorem second_at_takes_bot_path :
    (run proxyConfig textCodec (World.init ⟨[], []⟩)
        [.authenticate (botSession "a@x/y@bumper") upstreamOk]).map
        (fun w => w.server.proxyclients.keys) = some ["a@x/y@bumper"] ∧
      contains "x/y@bumper" "bumper" = true := by
  decide

/-! ### A disconnect while the connect is pending -/

/-- **A disconnect during the upstream `connect` does not stop the upstream client.**
`authenticate` stores the upstream client under the bot's client id before it awaits the client's
`connect`. If the bot disconnects then, the disconnect hook disconnects a client that is not
connected yet. When the `connect` then succeeds, `authenticate` starts the `get_msg` task: the
client is connected and relays upstream commands for a bot that has gone. -/
theorem pending_connect_outlives_disconnect {w : World V} (hw : Reachable cfg codec w)
    (hpm : cfg.proxyMode = true) {c : String} {h k : Nat}
    (hl : w.server.proxyclients.lookup c = some h)
    (hk : w.suspended[k]? = some (.connect c h true)) :
    ∃ w₁ w₂ pc, step cfg codec w (.disconnected c) = some w₁ ∧
      step cfg codec w₁ (.resume k) = some w₂ ∧
      w₂.server.proxies[h]? = some pc ∧ pc.connected = true ∧ pc.relaying = true := by
  obtain ⟨pc, hpc, -⟩ := Option.map_eq_some'.1
    (List.getElem?_map .. ▸ (sessions_of_reachable hw).made_for c h hl)
  have he := disconnected_of_lookup hpm hl
  have hk₁ : (w.disconnected cfg c).suspended[k]? = some (.connect c h true) := by
    rw [he]; exact (List.getElem?_append_left (List.getElem?_eq_some_iff.1 hk).1).trans hk
  have hl₁ : (w.disconnected cfg c).server.proxyclients.lookup c = some h :=
    (disconnected_keeps State.proxyclients (fun _ _ => rfl) (fun _ _ => rfl) cfg w c) ▸ hl
  refine ⟨_, _, { pc with connected := true, relaying := true }, rfl,
    by simp only [step, hk₁]; rfl, ?_, rfl, rfl⟩
  show (finalState ((connectDone c h true).run (w.disconnected cfg c).server)).proxies[h]? = _
  rw [proxies_connectDone_of_lookup true hl₁, he]
  simp [disconnect, finalState, List.getElem?_modify, hpc]

theorem pending_connect_outlives_disconnect_botWorld :
    ∃ w₁ w₂ pc, step proxyConfig textCodec botWorld (.disconnected "bot@cls/res") = some w₁ ∧
      step proxyConfig textCodec w₁ (.resume 0) = some w₂ ∧
      w₂.server.proxies[0]? = some pc ∧ pc.connected = true ∧ pc.relaying = true :=
  pending_connect_outlives_disconnect reachable_botWorld rfl (by decide) (by decide)

end Runs

/-! ### Without proxy mode -/

section Direct

variable {V : Type} {cfg : Config} {codec : Codec V}

/-- With proxy mode off and no upstream client, an event leaves the outbox alone, or is a
`send_command`. -/
theorem outbox_step_direct {w w' : World V} {e : Event V} (hpm : cfg.proxyMode = false)
    (hp : w.server.proxies = []) (h : step cfg codec w e = some w') :
    w'.server.outbox = w.server.outbox ∨ ∃ cmd r now, w' = w.sendCommand codec cmd r now := by
  cases e with
  | authenticate sess ext =>
    obtain ⟨b, s, hr, rfl⟩ := step_authenticate h
    have hk := keeps_authenticate State.outbox (fun _ _ => rfl) (fun _ _ _ => rfl) cfg ext sess
      w.server
    rw [hr] at hk
    exact .inl hk
  | connected c => cases h; exact .inl (keeps_onRegistry State.outbox (fun _ _ => rfl) _ w.server)
  | subscribed c topic qos => cases h; exact .inl (by rw [hpm]; rfl)
  | received c m now =>
    cases h
    exact .inl (keeps_onBrokerMessageReceived State.outbox (fun _ _ => rfl) (fun _ _ => rfl) _ _ _ _
      _ w.server)
  | disconnected c =>
    cases h; exact .inl (disconnected_keeps State.outbox (fun _ _ => rfl) (fun _ _ => rfl) cfg w c)
  | resume k =>
    obtain ⟨sp, -, rfl⟩ := step_resume h
    exact .inl (resume_keeps State.outbox (fun _ _ => rfl) (fun _ _ => rfl) w k sp)
  | delivered hc m =>
    obtain ⟨pc, hpc, -⟩ := step_delivered h
    simp [hp] at hpc
  | sendCommand cmd r now => cases h; exact .inr ⟨cmd, r, now, rfl⟩
  | poll i now => obtain ⟨-, -, -, -, rfl⟩ := step_poll h; exact .inl rfl
  | timeout i now => obtain ⟨-, -, -, -, rfl⟩ := step_timeout h; exact .inl rfl
  | cancel i => obtain ⟨-, -, -, rfl⟩ := step_cancel h; exact .inl rfl

/-- **Without proxy mode everything goes to the local broker.** With `bumper_proxy_mode` off, no
run creates an upstream client, so no `get_msg` loop ever runs, and everything the process sends
is a publish on the local broker. -/
theorem only_local_publishes_without_proxy_mode {w : World V} (hpm : cfg.proxyMode = false)
    (h : Reachable cfg codec w) :
    w.server.proxyclients = ∅ ∧ w.server.proxies = [] ∧
      ∀ o ∈ w.server.outbox, ∃ topic data qos, o = .broker topic data qos := by
  induction h with
  | init registry zone => exact ⟨rfl, rfl, fun o ho => absurd ho (List.not_mem_nil o)⟩
  | step e _ hs ih =>
    obtain ⟨h1, h2, h3⟩ := ih
    have hids := (step_proxyIds hs).resolve_right fun ⟨_, _, _, _, hpm', _⟩ => by
      simp [hpm] at hpm'
    simp only [proxyIds, h1, h2, List.map_nil, Prod.mk.injEq, List.map_eq_nil_iff] at hids
    refine ⟨hids.1, hids.2, ?_⟩
    rcases outbox_step_direct hpm h2 hs with ho | ⟨cmd, r, now, rfl⟩
    · rw [ho]; exact h3
    · intro o ho
      simp only [World.sendCommand, List.mem_append, Option.mem_toList, Option.mem_def,
        Option.map_eq_some'] at ho
      rcases ho with ho | ⟨p, -, rfl⟩
      · exact h3 o ho
      · exact ⟨_, _, _, rfl⟩

end Direct

/-- Proxy mode off, otherwise as `proxyConfig`. -/
def directConfig : Config := { proxyConfig with proxyMode := false }

/-- With proxy mode off, bot `bot@cls/res` authenticates and subscribes, and the helper bot sends
it a command. -/
def directWorld : World String :=
  (run directConfig textCodec (World.init ⟨[], []⟩)
    [.authenticate (botSession "bot@cls/res") upstreamOk, .subscribed "bot@cls/res" "iot/#" 0,
      .sendCommand ⟨"getX", "bot", "cls", "res", "x", "q"⟩ "1" 0]).getD (World.init ⟨[], []⟩)

theorem reachable_directWorld : Reachable directConfig textCodec directWorld :=
  reachable_run directConfig textCodec (.init _ _)
    (show run directConfig textCodec (World.init ⟨[], []⟩)
      [.authenticate (botSession "bot@cls/res") upstreamOk, .subscribed "bot@cls/res" "iot/#" 0,
        .sendCommand ⟨"getX", "bot", "cls", "res", "x", "q"⟩ "1" 0] = some directWorld from rfl)

theorem only_local_publishes_directWorld :
    directWorld.server.proxyclients = ∅ ∧ directWorld.server.proxies = [] ∧
      ∀ o ∈ directWorld.server.outbox, ∃ topic data qos, o = .broker topic data qos :=
  only_local_publishes_without_proxy_mode rfl reachable_directWorld

/-! ### The reverse path -/

/-- Bots `botA` and `botB` authenticate; their upstream clients deliver commands with request id
`7` from senders `hA` and `hB`; then `botB` publishes its reply to `7`, addressed to
`proxyhelper`. -/
def twoBotsRun : List (Event String) :=
  [.authenticate (botSession "botA@clsA/resA") upstreamOk, .resume 0,
    .authenticate (botSession "botB@clsB/resB") upstreamOk, .resume 0,
    .delivered 0 ⟨"iot/p2p/getX/hA/t/r/botA/clsA/resA/q/7/j", .utf8 "{}", 0⟩,
    .delivered 1 ⟨"iot/p2p/getX/hB/t/r/botB/clsB/resB/q/7/j", .utf8 "{}", 0⟩,
    .received "botB@clsB/resB"
      ⟨"iot/p2p/getX/botB/clsB/resB/proxyhelper/t/r/p/7/j", .utf8 "{}", 0⟩ 10]

/-- The helper names are one dict for all upstream clients: `botB`'s command overwrites the sender
`botA`'s client recorded for `7`. `botB`'s reply then pops that name and raises `NameError` at
`msgdata`: nothing is published upstream, only the two commands on the local broker. -/
theorem proxied_reply_not_forwarded :
    (run proxyConfig textCodec (World.init ⟨[], []⟩) (twoBotsRun.take 6)).map
        (fun w => w.server.ecoHelperNames.lookup "7") = some (some "hB") ∧
    (run proxyConfig textCodec (World.init ⟨[], []⟩) twoBotsRun).map
        (fun w => (w.server.ecoHelperNames.lookup "7", w.server.outbox)) =
      some (none,
        [.broker "iot/p2p/getX/proxyhelper/t/r/botA/clsA/resA/q/7/j" (.utf8 "{}") 0,
          .broker "iot/p2p/getX/proxyhelper/t/r/botB/clsB/resB/q/7/j" (.utf8 "{}") 0]) := by
  decide

/-! ### Nothing upstream -/

section Upstream

variable {V : Type} {cfg : Config} {codec : Codec V}

/-- The upstream publishes among what the process has sent. -/
def upstreamSent (s : State) : List Outgoing := s.outbox.filter Outgoing.isUpstream

/-- No event publishes upstream: a `get_msg` turn and `send_command` publish on the local broker,
the subscribe hook subscribes, and the message hook raises before its upstream publish. -/
theorem upstreamSent_step {w w' : World V} {e : Event V} (h : step cfg codec w e = some w') :
    upstreamSent w'.server = upstreamSent w.server := by
  have hb : ∀ (s : State) topic data qos,
      upstreamSent { s with outbox := s.outbox ++ [.broker topic data qos] } = upstreamSent s := by
    simp [upstreamSent, Outgoing.isUpstream]
  cases e with
  | authenticate sess ext =>
    obtain ⟨b, s, hr, rfl⟩ := step_authenticate h
    have hk := keeps_authenticate upstreamSent (fun _ _ => rfl) (fun _ _ _ => rfl) cfg ext sess
      w.server
    rw [hr] at hk
    exact hk
  | connected c => cases h; exact keeps_onRegistry upstreamSent (fun _ _ => rfl) _ w.server
  | subscribed c topic qos =>
    cases h
    show upstreamSent (finalState ((onBrokerClientSubscribed cfg.proxyMode c topic qos).run
      w.server)) = _
    unfold onBrokerClientSubscribed
    cases cfg.proxyMode
    · rfl
    · simp only [if_true, run_bind, run_get]
      split <;> simp [upstreamSent, Outgoing.isUpstream, finalState]
  | received c m now =>
    cases h
    exact keeps_onBrokerMessageReceived upstreamSent (fun _ _ => rfl) (fun _ _ => rfl) _ _ _ _ _
      w.server
  | disconnected c =>
    cases h; exact disconnected_keeps upstreamSent (fun _ _ => rfl) (fun _ _ => rfl) cfg w c
  | resume k =>
    obtain ⟨sp, -, rfl⟩ := step_resume h
    exact resume_keeps upstreamSent (fun _ _ => rfl) (fun _ _ => rfl) w k sp
  | delivered hc m =>
    obtain ⟨-, -, -, -, rfl⟩ := step_delivered h
    exact delivered_keeps upstreamSent (fun _ _ => rfl) (preserves_getMsgTurn
      (reflexive_keeps upstreamSent) (transitive_keeps upstreamSent) (fun _ _ => rfl)
      (fun s _ _ _ => hb s _ _ _) m) w hc
  | sendCommand cmd r now =>
    cases h
    simp only [World.sendCommand]
    cases commandPublish codec cmd r <;> simp [upstreamSent, Outgoing.isUpstream]
  | poll i now => obtain ⟨-, -, -, -, rfl⟩ := step_poll h; rfl
  | timeout i now => obtain ⟨-, -, -, -, rfl⟩ := step_timeout h; rfl
  | cancel i => obtain ⟨-, -, -, rfl⟩ := step_cancel h; rfl

/-- **Nothing goes upstream.** In every reachable world, in or out of proxy mode, the process has
published nothing on the vendor's server: what it sent is publishes on the local broker and, in
proxy mode, subscriptions mirrored on upstream clients. The forward of the message hook, the only
code that publishes upstream, raises `NameError` before its publish. -/
theorem nothing_published_upstream {w : World V} (h : Reachable cfg codec w) :
    w.server.outbox.filter Outgoing.isUpstream = [] := by
  induction h with
  | init registry zone => rfl
  | step e _ hs ih => exact (upstreamSent_step hs).trans ih

end Upstream

/-- The world at the end of `twoBotsRun`. -/
def twoBotsWorld : World String :=
  (run proxyConfig textCodec (World.init ⟨[], []⟩) twoBotsRun).getD (World.init ⟨[], []⟩)

theorem nothing_published_upstream_twoBotsWorld :
    twoBotsWorld.server.outbox.filter Outgoing.isUpstream = [] :=
  nothing_published_upstream (reachable_run proxyConfig textCodec (.init _ _)
    (show run proxyConfig textCodec (World.init ⟨[], []⟩) twoBotsRun = some twoBotsWorld from rfl))

end Bumper.System.ProxyTable
