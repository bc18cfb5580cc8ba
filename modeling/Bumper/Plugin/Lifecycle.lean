import Bumper.Plugin.Message

/-! # The connection hooks

`on_broker_client_connected` and `on_broker_client_disconnected` mark the client's registry entry
live or not (`setClientConnected`): the bot whose DID is the text before the first `@`, or else the
operator client named by the text after the first `/` of the realm part. In proxy mode the
disconnect hook first disconnects the client's upstream client and awaits that
(`disconnectUpstream`), and only then marks the client offline (`markOffline`);
`on_broker_client_subscribed` repeats a subscription upstream.

* The first half of the disconnect hook changes only the upstream clients, disconnecting the
  client's current one (`run_disconnectUpstream_of_lookup`); the second changes only the
  registry, and run twice it is run once (`markOffline_twice`).
* The client id is split without a check: with no `@`, or no `/` in the realm part, and no bot of
  that DID, the hooks raise `IndexError`, as the message hook does on a topic of fewer than seven
  segments (`hooks_raise_on_short_input`). -/

namespace Bumper.Plugin.Lifecycle

open Bumper.Python Bumper.Helperbot Bumper.Server Bumper.Plugin.Message

/-- `_set_client_connected(client_id, connected)`, lines 471-482. -/
def setClientConnected (clientId : String) (connected : Bool) : PyM Registry Unit := do
  let didsplit := split clientId '@'
  match (← get).botGet (← getItem didsplit 0) with
  | some bot => modify fun r => r.botSetMqtt bot.did connected
  | none =>
    let clientresource ← getItem (split (← getItem didsplit 1) '/') 1
    match (← get).clientGet clientresource with
    | some client => modify fun r => r.clientSetMqtt client.resource connected
    | none => pure ()

/-- `on_broker_client_connected(client_id)`. -/
def onBrokerClientConnected (clientId : String) : PyM State Unit :=
  onRegistry (setClientConnected clientId true)

/-- `MQTTClient.disconnect()` on upstream client `h`: its session is closed, which also ends its
`get_msg` loop; on a client that is not connected it only logs a warning. -/
def disconnect (h : Nat) : PyM State Unit :=
  modify fun s => { s with
    proxies := s.proxies.modify (fun pc => { pc with connected := false, relaying := false }) h }

/-- Lines 545-547, `on_broker_client_disconnected(client_id)` up to its `await`: in proxy mode the
client's upstream client is disconnected, and the hook waits for that; `true` when it waits. -/
def disconnectUpstream (proxyMode : Bool) (clientId : String) : PyM State Bool :=
  if proxyMode then do
    match (← get).proxyclients.lookup clientId with
    | some h => do disconnect h; pure true
    | none => pure false
  else pure false

/-- Line 548, the rest of the hook: the client's registry entry is marked offline. -/
def markOffline (clientId : String) : PyM State Unit :=
  onRegistry (setClientConnected clientId false)

/-- `on_broker_client_disconnected(client_id)`, lines 544-548, when nothing else runs at its
`await`. -/
def onBrokerClientDisconnected (proxyMode : Bool) (clientId : String) : PyM State Unit := do
  let _ ← disconnectUpstream proxyMode clientId
  markOffline clientId

/-- `on_broker_client_subscribed(client_id, topic, qos)`, lines 454-463. -/
def onBrokerClientSubscribed (proxyMode : Bool) (clientId topic : String) (qos : Nat) :
    PyM State Unit := do
  if proxyMode then
    match (← get).proxyclients.lookup clientId with
    | some h => modify fun s => { s with outbox := s.outbox ++ [.subscribe h topic qos] }
    | none => pure ()

/-! ### What the hooks change -/

section Frame

variable {β : Type} (f : State → β)

theorem keeps_disconnectUpstream (hp : ∀ s l, f { s with proxies := l } = f s)
    (proxyMode : Bool) (clientId : String) : Keeps f (disconnectUpstream proxyMode clientId) := by
  unfold disconnectUpstream disconnect
  refine Keeps.ite _ (Keeps.bind (keeps_get f) fun s => ?_) (keeps_pure f _)
  split
  · exact Keeps.bind (keeps_modify f fun s => hp s _) fun _ => keeps_pure f _
  · exact keeps_pure f _

theorem keeps_markOffline (hr : ∀ s r, f { s with registry := r } = f s) (clientId : String) :
    Keeps f (markOffline clientId) :=
  keeps_onRegistry f hr _

theorem keeps_onBrokerClientSubscribed (ho : ∀ s o, f { s with outbox := o } = f s)
    (proxyMode : Bool) (clientId topic : String) (qos : Nat) :
    Keeps f (onBrokerClientSubscribed proxyMode clientId topic qos) := by
  unfold onBrokerClientSubscribed
  refine Keeps.ite _ (Keeps.bind (keeps_get f) fun s => ?_) (keeps_pure f _)
  split
  · exact keeps_modify f fun s => ho s _
  · exact keeps_pure f _

end Frame

/-- In proxy mode the client's current upstream client is disconnected, and the hook waits. -/
theorem run_disconnectUpstream_of_lookup {clientId : String} {s : State} {h : Nat}
    (hl : s.proxyclients.lookup clientId = some h) :
    (disconnectUpstream true clientId).run s = .ok true { s with
      proxies :=
        s.proxies.modify (fun pc => { pc with connected := false, relaying := false }) h } :=
  by simp only [disconnectUpstream, if_true, run_bind, run_get, hl]; rfl

/-- Otherwise the hook goes straight on. -/
theorem run_disconnectUpstream_of_not {proxyMode : Bool} {clientId : String} {s : State}
    (h : proxyMode = false ∨ s.proxyclients.lookup clientId = none) :
    (disconnectUpstream proxyMode clientId).run s = .ok false s := by
  rcases h with rfl | hl
  · rfl
  · cases proxyMode
    · rfl
    · simp [disconnectUpstream, run_bind, hl]

/-! ### Live flags -/

/-- `_set_client_connected` sets the live flag of the bot whose DID is the text before the first
`@` of the client id, when there is one, and of no other bot. -/
theorem liveFlag_setClientConnected (clientId : String) (connected : Bool) (r : Registry)
    (d : String) :
    (finalState ((setClientConnected clientId connected).run r)).liveFlag d =
      if (split clientId '@')[0]? = some d then (r.liveFlag d).map fun _ => connected
      else r.liveFlag d := by
  rcases h0 : (split clientId '@')[0]? with _ | did
  · simp [setClientConnected, run_bind, run_getItem, h0, finalState]
  rcases hb : r.botGet did with _ | bot
  · have hn : r.liveFlag d =
        if did = d then (r.liveFlag d).map (fun _ => connected) else r.liveFlag d := by
      split
      · subst_vars; simp [Registry.liveFlag, hb]
      · rfl
    rcases h1 : (split clientId '@')[1]? with _ | rp
    · simpa [setClientConnected, run_bind, run_getItem, h0, hb, h1, finalState] using hn
    rcases h2 : (split rp '/')[1]? with _ | res
    · simpa [setClientConnected, run_bind, run_getItem, h0, hb, h1, h2, finalState] using hn
    rcases hc : r.clientGet res with _ | client <;>
      simpa [setClientConnected, run_bind, run_getItem, h0, hb, h1, h2, hc, finalState] using hn
  · have hd := Registry.did_of_botGet hb
    by_cases h : did = d
    · subst h
      simp [setClientConnected, run_bind, run_getItem, h0, hb, hd, finalState,
        Registry.liveFlag_botSetMqtt]
    · simp [setClientConnected, run_bind, run_getItem, h0, hb, hd, h, Ne.symm h, finalState,
        Registry.liveFlag_botSetMqtt]

/-! ### A second disconnect -/

theorem setClientConnected_twice (clientId : String) (connected : Bool) (r : Registry) :
    finalState ((setClientConnected clientId connected).run
        (finalState ((setClientConnected clientId connected).run r))) =
      finalState ((setClientConnected clientId connected).run r) := by
  rcases h0 : (split clientId '@')[0]? with _ | did
  · simp [setClientConnected, run_bind, run_getItem, h0, finalState]
  rcases hb : r.botGet did with _ | bot
  swap
  · simp [setClientConnected, run_bind, run_getItem, h0, hb, finalState, Registry.botGet_botSetMqtt,
      Registry.botSetMqtt_botSetMqtt]
  rcases h1 : (split clientId '@')[1]? with _ | rp
  · simp [setClientConnected, run_bind, run_getItem, h0, hb, h1, finalState]
  rcases h2 : (split rp '/')[1]? with _ | res
  · simp [setClientConnected, run_bind, run_getItem, h0, hb, h1, h2, finalState]
  rcases hc : r.clientGet res with _ | cl
  · simp [setClientConnected, run_bind, run_getItem, h0, hb, h1, h2, hc, finalState]
  · simp [setClientConnected, run_bind, run_getItem, h0, hb, h1, h2, hc, finalState,
      Registry.botGet_clientSetMqtt, Registry.clientGet_clientSetMqtt,
      Registry.clientSetMqtt_clientSetMqtt]

theorem markOffline_twice (clientId : String) (s : State) :
    finalState ((markOffline clientId).run (finalState ((markOffline clientId).run s))) =
      finalState ((markOffline clientId).run s) := by
  simp only [markOffline, finalState_onRegistry, setClientConnected_twice]

/-! ### Malformed topics and client ids -/

/-- The hooks index topics and client ids without checking them. On the topic `iot` the message
hook raises `IndexError` at segment 6, before the expiry loop, so an expired record stays; on the
client id `abc`, of no bot, the connection hooks raise `IndexError` at the realm part, and on
`abc@realm`, at the resource. -/
theorem hooks_raise_on_short_input :
    raised ((onBrokerMessageReceived false "abc" ⟨"iot", .utf8 "", 0⟩ .utc 100).run
        { State.init ⟨[], []⟩ with commandResponses := [⟨0, "iot/old", ""⟩] }) = some .indexError ∧
    (finalState ((onBrokerMessageReceived false "abc" ⟨"iot", .utf8 "", 0⟩ .utc 100).run
        { State.init ⟨[], []⟩ with commandResponses := [⟨0, "iot/old", ""⟩] })).commandResponses =
      [⟨0, "iot/old", ""⟩] ∧
    raised ((onBrokerClientConnected "abc").run (State.init ⟨[], []⟩)) = some .indexError ∧
    raised ((onBrokerClientDisconnected true "abc").run (State.init ⟨[], []⟩)) =
      some .indexError ∧
    raised ((onBrokerClientConnected "abc@realm").run (State.init ⟨[], []⟩)) =
      some .indexError := by
  decide

end Bumper.Plugin.Lifecycle
