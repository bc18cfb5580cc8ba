import Bumper.Server

/-! # `on_broker_message_received`

The hook runs for every message a client publishes on the local broker. In proxy mode it first
forwards a proxied bot's message upstream (`proxyForward`, lines 489-511); then it classifies the
message by its topic segments and appends a reply to the helper bot to `command_responses`
(`classify`, lines 513-533); last it runs the expiry loop (line 536). Nothing in it is awaited
before the upstream `publish`, so it runs without interruption up to there.

The forwarding formats `msgdata`, a name bound only in `get_msg`: evaluating it raises
`NameError`, before the publish and before the classification. So:

* the hook never sends anything upstream (`outbox_onBrokerMessageReceived`);
* a proxied bot's message whose segment 3 is not `proxyhelper` makes the hook raise, after the
  helper name of its request id was popped, and is neither appended nor followed by the expiry
  loop (`proxy_mode_drops_reply_of_proxied_bot`); so does every such message, whatever its topic
  and payload, with `NameError` unless a segment it reads is missing or the payload is no UTF-8
  (`proxied_message_raises`).

A message that is not forwarded makes the hook raise only when it is malformed: a payload that is
not UTF-8, or a topic of fewer than seven segments (`hook_raises_exactly_on_malformed`).

`commandResponses_onBrokerMessageReceived` says what the hook does to `command_responses` in
every case: nothing when it raises, the expiry loop over the buffer with the reply appended when
it returns `response`, and the expiry loop alone otherwise. A record expires once the clock
passes its time moved sixty seconds on through the wall clock of the host's zone. The loop removes
records while it iterates over them and so passes over the record after each one it removes, but
on every return it still removes at least half of the expired records and no other record, as long
as the reply is not expired at its own time stamp (`expired_backlog_halves`); around a fall-back of
the zone's offset it is. -/

namespace Bumper.Plugin.Message

open Bumper.Python Bumper.Helperbot Bumper.Server

/-- `msgdata` in the log lines and the publish of lines 497-508: the name is bound only in
`BumperProxyModeMQTTClient.get_msg`, so evaluating it here raises `NameError`. -/
def msgdata : PyM State String := throw (.nameError "msgdata")

/-- `eco_helper_names.pop(key, "")` on the class-level dict. -/
def popHelperName (key : String) : PyM State String := do
  let s ← get
  set { s with ecoHelperNames := s.ecoHelperNames.erase key }
  pure ((s.ecoHelperNames.lookup key).getD "")

/-- `self.proxyclients[client_id].publish(topic, data, qos)`, on upstream client `h`. -/
def publishUpstream (h : Nat) (topic : String) (data : Bytes) (qos : Nat) : PyM State Unit :=
  modify fun s => { s with outbox := s.outbox ++ [.upstream h topic data qos] }

/-- Lines 489-511: in proxy mode, a message of a client with an upstream client whose segment 3 is
not `proxyhelper` goes upstream; when its segment 6 is `proxyhelper`, segment 6 is first replaced
by the helper name recorded for its request id (segment 10). -/
def proxyForward (proxyMode : Bool) (clientId : String) (message : Message) : PyM State Unit := do
  if proxyMode then
    match (← get).proxyclients.lookup clientId with
    | none => pure ()
    | some h =>
      if (← getItem (split message.topic '/') 3) = proxyhelper then pure () else
      let ttopicJoin ← if (← getItem (split message.topic '/') 6) = proxyhelper then do
          let ttopic := split message.topic '/'
          let sender ← popHelperName (← getItem ttopic 10)
          let ttopicJoin := join "/" (ttopic.set 6 sender)
          let _ ← msgdata
          pure ttopicJoin
        else do
          let _ ← msgdata
          pure message.topic
      tryCatch (do publishUpstream h ttopicJoin (encode (← msgdata)) message.qos)
        fun e => if e.isException then pure () else throw e

/-- How lines 513-533 classify a message; a reply to the helper bot carries the record appended. -/
inductive MsgKind
  | response (rec : Record)
  | command
  | error
  | broadcast
  | other
deriving DecidableEq, Repr

/-- The records a message of this kind appended to `command_responses`. -/
def MsgKind.appended : MsgKind → List Record
  | .response r => [r]
  | _ => []

@[simp] theorem MsgKind.appended_response (r : Record) : (MsgKind.response r).appended = [r] := rfl

/-- Lines 513-533: a topic with segment 6 `helperbot` is a reply, appended with the clock `now`;
otherwise segment 3 `helperbot` is a command of the helper bot, segment 1 `atr` a broadcast (an
error when segment 2 is `errors`). -/
def classify (topic : String) (topicSplit : List String) (dataDecoded : String) (now : Nat) :
    PyM State MsgKind := do
  if (← getItem topicSplit 6) = "helperbot" then
    let reply : Record := ⟨now, topic, dataDecoded⟩
    modify fun s => { s with commandResponses := s.commandResponses ++ [reply] }
    pure (.response reply)
  else if (← getItem topicSplit 3) = "helperbot" then pure .command
  else if (← getItem topicSplit 1) = "atr" then
    if (← getItem topicSplit 2) = "errors" then pure .error else pure .broadcast
  else pure .other

/-- `BumperMQTTServer_Plugin.on_broker_message_received(client_id, message)`, with the clock read as
`now` on a host in time zone `zone`; `proxyMode` is `bumper.bumper_proxy_mode`. -/
def onBrokerMessageReceived (proxyMode : Bool) (clientId : String) (message : Message)
    (zone : Zone) (now : Nat) : PyM State MsgKind := do
  let topic := message.topic
  let topicSplit := split topic '/'
  let dataDecoded ← decode message.data
  proxyForward proxyMode clientId message
  let kind ← classify topic topicSplit dataDecoded now
  modify fun s => { s with commandResponses := pruneExpired zone now s.commandResponses }
  pure kind

/-! ### The upstream forward -/

section Forward

variable {β : Type} (f : State → β)

/-- Nothing after `msgdata` runs. -/
theorem keeps_msgdata_bind {α : Type} (k : String → PyM State α) : Keeps f (msgdata >>= k) :=
  fun _ => rfl

theorem keeps_popHelperName (hf : ∀ s n, f { s with ecoHelperNames := n } = f s) (key : String) :
    Keeps f (popHelperName key) := fun s => hf s _

/-- The forward changes the helper names and nothing else: every path to the upstream `publish`
evaluates `msgdata` first. -/
theorem keeps_proxyForward (hf : ∀ s n, f { s with ecoHelperNames := n } = f s)
    (proxyMode : Bool) (clientId : String) (message : Message) :
    Keeps f (proxyForward proxyMode clientId message) := by
  unfold proxyForward
  dsimp only
  refine Keeps.ite _ (Keeps.bind (keeps_get f) fun s => ?_) (keeps_pure f _)
  split
  · exact keeps_pure f _
  · exact Keeps.bind (keeps_getItem f _ _) fun _ => Keeps.ite _ (keeps_pure f _) <|
      Keeps.bind (keeps_getItem f _ _) fun _ => Keeps.ite _
        (Keeps.bind (keeps_getItem f _ _) fun _ => Keeps.bind (keeps_popHelperName f hf _)
          fun _ => keeps_msgdata_bind f _)
        (keeps_msgdata_bind f _)

/-- A client without an upstream client: the forward does nothing. -/
theorem run_proxyForward_of_lookup {clientId : String} {s : State}
    (h : s.proxyclients.lookup clientId = none) (proxyMode : Bool) (message : Message) :
    (proxyForward proxyMode clientId message).run s = .ok () s := by
  cases proxyMode <;> simp [proxyForward, run_bind, h]

/-- Out of proxy mode, or for a client without an upstream client, the forward does nothing. -/
theorem run_proxyForward_of_not {proxyMode : Bool} {clientId : String} {s : State}
    (h : proxyMode = false ∨ s.proxyclients.lookup clientId = none) (message : Message) :
    (proxyForward proxyMode clientId message).run s = .ok () s := by
  rcases h with rfl | h
  · rfl
  · exact run_proxyForward_of_lookup h _ _

end Forward

/-! ### What the hook does -/

section Hook

variable {β : Type} (f : State → β)

theorem classify_cases (topic : String) (topicSplit : List String) (d : String) (now : Nat)
    (s : State) :
    (topicSplit[6]? = some "helperbot" ∧ (classify topic topicSplit d now).run s =
        .ok (.response ⟨now, topic, d⟩)
          { s with commandResponses := s.commandResponses ++ [⟨now, topic, d⟩] }) ∨
      (∃ k, (classify topic topicSplit d now).run s = .ok k s ∧ k.appended = []) ∨
      ∃ e, (classify topic topicSplit d now).run s = .error e s := by
  simp only [classify, run_bind, run_getItem]
  rcases h6 : topicSplit[6]? with _ | t6
  · exact .inr (.inr ⟨_, rfl⟩)
  by_cases hh : t6 = "helperbot"
  · subst hh; exact .inl ⟨rfl, rfl⟩
  refine .inr ?_
  simp only [hh, if_false, run_bind, run_getItem]
  rcases topicSplit[3]? with _ | t3
  · exact .inr ⟨_, rfl⟩
  by_cases h3 : t3 = "helperbot"
  · simp only [h3, if_true, run_pure]; exact .inl ⟨_, rfl, rfl⟩
  simp only [h3, if_false, run_bind, run_getItem]
  rcases topicSplit[1]? with _ | t1
  · exact .inr ⟨_, rfl⟩
  by_cases h1 : t1 = "atr"
  · simp only [h1, if_true, run_bind, run_getItem]
    rcases topicSplit[2]? with _ | t2
    · exact .inr ⟨_, rfl⟩
    by_cases h2 : t2 = "errors" <;> simp only [h2, if_true, if_false, run_pure] <;>
      exact .inl ⟨_, rfl, rfl⟩
  · simp only [h1, if_false, run_pure]; exact .inl ⟨_, rfl, rfl⟩

theorem keeps_classify (hc : ∀ s c, f { s with commandResponses := c } = f s) (topic : String)
    (topicSplit : List String) (d : String) (now : Nat) :
    Keeps f (classify topic topicSplit d now) := by
  unfold classify
  exact Keeps.bind (keeps_getItem f _ _) fun _ => Keeps.ite _
    (Keeps.bind (keeps_modify f fun s => hc s _) fun _ => keeps_pure f _)
    (Keeps.bind (keeps_getItem f _ _) fun _ => Keeps.ite _ (keeps_pure f _)
      (Keeps.bind (keeps_getItem f _ _) fun _ => Keeps.ite _
        (Keeps.bind (keeps_getItem f _ _) fun _ => Keeps.ite _ (keeps_pure f _) (keeps_pure f _))
        (keeps_pure f _)))

/-- The hook changes the response buffer and the helper names, and nothing else. -/
theorem keeps_onBrokerMessageReceived (hf : ∀ s n, f { s with ecoHelperNames := n } = f s)
    (hc : ∀ s c, f { s with commandResponses := c } = f s) (proxyMode : Bool) (clientId : String)
    (message : Message) (zone : Zone) (now : Nat) :
    Keeps f (onBrokerMessageReceived proxyMode clientId message zone now) :=
  Keeps.bind (keeps_decode f _) fun _ => Keeps.bind (keeps_proxyForward f hf _ _ _) fun _ =>
    Keeps.bind (keeps_classify f hc _ _ _ _) fun _ =>
      Keeps.bind (keeps_modify f fun s => hc s _) fun _ => keeps_pure f _

/-- **No message goes upstream**: whatever the mode, client and message, the hook sends nothing. -/
theorem outbox_onBrokerMessageReceived (proxyMode : Bool) (clientId : String) (message : Message)
    (zone : Zone) (now : Nat) :
    Keeps State.outbox (onBrokerMessageReceived proxyMode clientId message zone now) :=
  keeps_onBrokerMessageReceived State.outbox (fun _ _ => rfl) (fun _ _ => rfl) proxyMode clientId
    message zone now

/-- A client without an upstream client leaves the helper names alone. -/
theorem ecoHelperNames_onBrokerMessageReceived {clientId : String} {s : State}
    (h : s.proxyclients.lookup clientId = none) (proxyMode : Bool) (message : Message)
    (zone : Zone) (now : Nat) :
    (finalState ((onBrokerMessageReceived proxyMode clientId message zone now).run
      s)).ecoHelperNames =
      s.ecoHelperNames := by
  cases hd : message.data with
  | invalid raw => simp [onBrokerMessageReceived, hd, decode, run_bind, finalState]
  | utf8 d =>
    have hk : Keeps State.ecoHelperNames (do
        let kind ← classify message.topic (split message.topic '/') d now
        modify fun s => { s with commandResponses := pruneExpired zone now s.commandResponses }
        pure kind) :=
      Keeps.bind (keeps_classify State.ecoHelperNames (fun _ _ => rfl) _ _ _ _)
        fun _ => Keeps.bind (keeps_modify State.ecoHelperNames fun _ => rfl) fun _ => keeps_pure _ _
    rw [onBrokerMessageReceived, hd,
      run_bind_of_ok (show (decode (.utf8 d) : PyM State String).run s = .ok d s from rfl),
      run_bind_of_ok (run_proxyForward_of_lookup h _ _)]
    exact hk s

/-- **What the hook does to `command_responses`**: nothing when it raises; otherwise the expiry
loop, over the buffer with the reply appended when the message was a reply. -/
theorem commandResponses_onBrokerMessageReceived (proxyMode : Bool) (clientId : String)
    (message : Message) (zone : Zone) (now : Nat) (s : State) :
    (finalState ((onBrokerMessageReceived proxyMode clientId message zone now).run
      s)).commandResponses =
      match (onBrokerMessageReceived proxyMode clientId message zone now).run s with
      | .ok k _ => pruneExpired zone now (s.commandResponses ++ k.appended)
      | .error _ _ => s.commandResponses := by
  simp only [onBrokerMessageReceived, run_bind]
  cases message.data with
  | invalid raw => rfl
  | utf8 d =>
    simp only [decode, run_pure]
    have hs :=
      keeps_proxyForward State.commandResponses (fun _ _ => rfl) proxyMode clientId message s
    revert hs
    cases (proxyForward proxyMode clientId message).run s with
    | error e s₁ => intro hs; exact hs
    | ok u s₁ =>
      intro hs
      simp only [finalState] at hs
      rcases classify_cases message.topic (split message.topic '/') d now s₁ with
        ⟨-, h⟩ | ⟨k, h, hk⟩ | ⟨e, h⟩ <;> simp [h, run_bind, finalState, hs, *]

/-- A record the hook appended is the message's reply to the helper bot: its topic, which has
segment 6 `helperbot`, stamped with the clock. -/
theorem appended_onBrokerMessageReceived {proxyMode : Bool} {clientId : String}
    {message : Message} {zone : Zone} {now : Nat} {s s' : State} {k : MsgKind}
    (h : (onBrokerMessageReceived proxyMode clientId message zone now).run s = .ok k s') :
    ∀ rec ∈ k.appended,
      topicSegment rec.topic 6 = some "helperbot" ∧ rec.topic = message.topic ∧ rec.time = now := by
  simp only [onBrokerMessageReceived, run_bind] at h
  cases hd : message.data with
  | invalid raw => simp [hd, decode] at h
  | utf8 d =>
    simp only [hd, decode, run_pure] at h
    cases hf : (proxyForward proxyMode clientId message).run s with
    | error e s₁ => simp [hf] at h
    | ok u s₁ =>
      simp only [hf] at h
      rcases classify_cases message.topic (split message.topic '/') d now s₁ with
        ⟨h6, hc⟩ | ⟨k', hc, hk'⟩ | ⟨e, hc⟩ <;> simp only [hc, run_modify, run_pure] at h
      · injection h with hk; subst hk; simp [topicSegment, h6]
      · injection h with hk; subst hk; simp [hk']
      · cases h

/-- **The expiry loop halves the backlog.** Let the reply the hook may append not be expired at
the hook's own clock, as in every zone of fixed offset (`after_fixed`). When the hook returns, the
records of the buffer that are expired at its clock number at most half of those before; the
records that are not expired are all kept, in order; and the reply it appended is stamped with the
clock and not expired. The loop removes at least half of the expired records, and no other
record. -/
theorem expired_backlog_halves {proxyMode : Bool} {clientId : String} {message : Message}
    {zone : Zone} {now : Nat} (hz : (now : Int) ≤ zone.after waitRespTimeoutSeconds now)
    {s s' : State} {k : MsgKind}
    (h : (onBrokerMessageReceived proxyMode clientId message zone now).run s = .ok k s') :
    2 * s'.commandResponses.countP (expired zone now) ≤
        s.commandResponses.countP (expired zone now) ∧
      s'.commandResponses.filter (fun m => !expired zone now m) =
        (s.commandResponses ++ k.appended).filter (fun m => !expired zone now m) ∧
      ∀ rec ∈ k.appended, rec.time = now ∧ expired zone now rec = false := by
  have hcr := commandResponses_onBrokerMessageReceived proxyMode clientId message zone now s
  rw [h] at hcr
  have hfresh : ∀ rec ∈ k.appended, rec.time = now ∧ expired zone now rec = false :=
    fun rec hm => have ht := (appended_onBrokerMessageReceived h rec hm).2.2
      ⟨ht, by simpa [expired, ht] using hz⟩
  have happ : k.appended.countP (expired zone now) = 0 :=
    List.countP_eq_zero.2 fun rec hm => by simp [(hfresh rec hm).2]
  refine ⟨?_, by rw [show s'.commandResponses = _ from hcr]; exact filter_forRemove _ _, hfresh⟩
  calc 2 * s'.commandResponses.countP (expired zone now)
      ≤ (s.commandResponses ++ k.appended).countP (expired zone now) := by
        rw [show s'.commandResponses = _ from hcr]; exact countP_forRemove_le _ _
    _ = s.commandResponses.countP (expired zone now) := by
        rw [List.countP_append, happ, Nat.add_zero]

/-- Two records that expired side by side, in a state with no upstream clients. -/
def twoExpired : State :=
  { State.init ⟨[], []⟩ with commandResponses := [⟨0, "iot/a", ""⟩, ⟨0, "iot/b", ""⟩] }

/-- A reply of bot `bot@cls/res` to request `7` of the helper bot. -/
def replyTo7 : Message :=
  ⟨"iot/p2p/getX/bot/cls/res/helperbot/bumper/helperbot/p/7/x", .utf8 "ok", 0⟩

theorem expired_backlog_halves_twoExpired :
    (100 : Int) ≤ Zone.utc.after waitRespTimeoutSeconds 100 ∧
      ∃ k s', (onBrokerMessageReceived false "bot@cls/res" replyTo7 .utc 100).run twoExpired =
        .ok k s' ∧
      2 * s'.commandResponses.countP (expired .utc 100) ≤
          twoExpired.commandResponses.countP (expired .utc 100) ∧
        s'.commandResponses.filter (fun m => !expired .utc 100 m) =
          (twoExpired.commandResponses ++ k.appended).filter (fun m => !expired .utc 100 m) ∧
        ∀ rec ∈ k.appended, rec.time = 100 ∧ expired .utc 100 rec = false :=
  ⟨by decide, _, _, rfl,
    @expired_backlog_halves false "bot@cls/res" replyTo7 .utc 100 (by decide) twoExpired _ _ rfl⟩

/-- A reply to the helper bot from a bot that has an upstream client: out of proxy mode it is
appended; in proxy mode the hook raises `NameError` at `msgdata`, and neither appends it nor runs
the expiry loop. -/
theorem proxy_mode_drops_reply_of_proxied_bot :
    (finalState ((onBrokerMessageReceived false "bot@cls/res"
        ⟨"iot/p2p/getX/bot/cls/res/helperbot/bumper/helperbot/p/7/x", .utf8 "ok", 0⟩ .utc 10).run
        ⟨(∅ : AList _).insert "bot@cls/res" 0, [⟨"bot@cls/res", "", true, true⟩], ∅, [],
          ⟨[], []⟩, []⟩)).commandResponses =
      [⟨10, "iot/p2p/getX/bot/cls/res/helperbot/bumper/helperbot/p/7/x", "ok"⟩] ∧
    raised ((onBrokerMessageReceived true "bot@cls/res"
        ⟨"iot/p2p/getX/bot/cls/res/helperbot/bumper/helperbot/p/7/x", .utf8 "ok", 0⟩ .utc 10).run
        ⟨(∅ : AList _).insert "bot@cls/res" 0, [⟨"bot@cls/res", "", true, true⟩], ∅, [],
          ⟨[], []⟩, []⟩) = some (.nameError "msgdata") ∧
    (finalState ((onBrokerMessageReceived true "bot@cls/res"
        ⟨"iot/p2p/getX/bot/cls/res/helperbot/bumper/helperbot/p/7/x", .utf8 "ok", 0⟩ .utc 10).run
        ⟨(∅ : AList _).insert "bot@cls/res" 0, [⟨"bot@cls/res", "", true, true⟩], ∅, [],
          ⟨[], []⟩, []⟩)).commandResponses = [] := by decide

end Hook

/-! ### When the hook raises -/

/-- The classification raises exactly on a topic of fewer than seven segments: it reads segment 6
first, and segments 3, 1 and 2 only after it. -/
theorem raised_classify (topic : String) (topicSplit : List String) (d : String) (now : Nat)
    (s : State) :
    raised ((classify topic topicSplit d now).run s) =
      if topicSplit.length < 7 then some .indexError else none := by
  split
  · rename_i hlt
    simp [classify, run_bind, run_getItem, raised,
      List.getElem?_eq_none_iff.2 (show topicSplit.length ≤ 6 by omega)]
  · rename_i hge
    have h (i : Nat) (hi : i < 7) : topicSplit[i]? = some topicSplit[i] :=
      List.getElem?_eq_getElem (by omega)
    simp only [classify, run_bind, run_getItem, h 6 (by omega)]
    split_ifs
    · rfl
    simp only [run_bind, run_getItem, h 3 (by omega)]
    split_ifs
    · rfl
    simp only [run_bind, run_getItem, h 1 (by omega)]
    split_ifs
    · simp only [run_bind, run_getItem, h 2 (by omega)]; split_ifs <;> rfl
    · rfl

/-- **A message not forwarded upstream makes the hook raise only when it is malformed.** For a
client whose messages are not forwarded (out of proxy mode, or without an upstream client), the
hook raises `UnicodeDecodeError` on a payload that is not UTF-8, `IndexError` on a topic of fewer
than seven segments, and nothing otherwise: every other message gets to the expiry loop. -/
theorem hook_raises_exactly_on_malformed {proxyMode : Bool} {clientId : String} {s : State}
    (hfwd : proxyMode = false ∨ s.proxyclients.lookup clientId = none) (topic : String)
    (data : Bytes) (qos : Nat) (zone : Zone) (now : Nat) :
    raised ((onBrokerMessageReceived proxyMode clientId ⟨topic, data, qos⟩ zone now).run s) =
      match data with
      | .utf8 _ => if (split topic '/').length < 7 then some .indexError else none
      | .invalid _ => some .unicodeDecodeError := by
  cases data with
  | invalid raw => rfl
  | utf8 d =>
    have hc := raised_classify topic (split topic '/') d now s
    simp only [onBrokerMessageReceived, decode, run_bind, run_pure, run_proxyForward_of_not hfwd]
    revert hc
    cases (classify topic (split topic '/') d now).run s <;> intro hc <;> simpa [raised] using hc

theorem hook_raises_exactly_on_malformed_iot :
    raised ((onBrokerMessageReceived false "abc" ⟨"iot", .utf8 "", 0⟩ .utc 100).run
      (State.init ⟨[], []⟩)) = some .indexError :=
  hook_raises_exactly_on_malformed (.inl rfl) "iot" (.utf8 "") 0 .utc 100

/-- In proxy mode, the forward of a proxied client's message whose segment 3 is not `proxyhelper`
raises: `IndexError` at segment 3 or 6 when the topic lacks it, or at segment 10 when segment 6 is
`proxyhelper` and the topic lacks segment 10; `NameError` at `msgdata` otherwise. -/
theorem proxyForward_raises {clientId : String} {s : State} {h : Nat}
    (hl : s.proxyclients.lookup clientId = some h) {message : Message}
    (h3 : (split message.topic '/')[3]? ≠ some proxyhelper) :
    ∃ s', (proxyForward true clientId message).run s = .error
      (if (split message.topic '/').length < 7 ∨
          ((split message.topic '/')[6]? = some proxyhelper ∧ (split message.topic '/').length < 11)
        then .indexError else .nameError "msgdata") s' := by
  simp only [proxyForward, if_true, run_bind, run_get, hl, run_getItem]
  generalize split message.topic '/' = ts at h3 ⊢
  rcases h3' : ts[3]? with _ | t3
  · rw [if_pos (.inl (by have := List.getElem?_eq_none_iff.1 h3'; omega))]; exact ⟨_, rfl⟩
  rw [h3', Ne, Option.some.injEq] at h3
  simp only [h3, if_false, run_bind, run_getItem]
  rcases h6 : ts[6]? with _ | t6
  · rw [if_pos (.inl (by have := List.getElem?_eq_none_iff.1 h6; omega))]; exact ⟨_, rfl⟩
  have h7 : 7 ≤ ts.length := by
    have := (List.getElem?_eq_some_iff.1 h6).1; omega
  dsimp only
  split_ifs with hp hc hc
  · simp only [run_bind, run_getItem]
    rcases h10 : ts[10]? with _ | k
    · exact ⟨_, rfl⟩
    · exact absurd hc (by have := (List.getElem?_eq_some_iff.1 h10).1; subst hp; omega)
  · simp only [run_bind, run_getItem]
    rcases h10 : ts[10]? with _ | k
    · exact absurd (Or.inr ⟨by rw [hp], List.getElem?_eq_none_iff.1 h10 |> fun h => by omega⟩) hc
    · exact ⟨_, rfl⟩
  · exact absurd hc (by rintro (h | ⟨h, -⟩) <;> [omega; exact hp (Option.some.inj h)])
  · exact ⟨_, rfl⟩

/-- **A proxied bot's messages make the hook raise.** In proxy mode, every message of a client with
an upstream client whose segment 3 is not `proxyhelper` (every message a bot publishes under its
own id) makes the hook raise before the classification: `UnicodeDecodeError` on a payload that is
not UTF-8; `IndexError` on a topic of fewer than seven segments, or of fewer than eleven with
segment 6 `proxyhelper`; `NameError` at `msgdata` otherwise. It appends no reply and does not run
the expiry loop. -/
theorem proxied_message_raises {clientId : String} {s : State} {h : Nat}
    (hl : s.proxyclients.lookup clientId = some h) {topic : String}
    (h3 : (split topic '/')[3]? ≠ some proxyhelper) (data : Bytes) (qos : Nat) (zone : Zone)
    (now : Nat) :
    raised ((onBrokerMessageReceived true clientId ⟨topic, data, qos⟩ zone now).run s) =
        some (match data with
          | .invalid _ => .unicodeDecodeError
          | .utf8 _ =>
            if (split topic '/').length < 7 ∨
                ((split topic '/')[6]? = some proxyhelper ∧ (split topic '/').length < 11)
            then .indexError else .nameError "msgdata") ∧
      (finalState ((onBrokerMessageReceived true clientId ⟨topic, data, qos⟩ zone now).run
        s)).commandResponses = s.commandResponses := by
  have hcr := commandResponses_onBrokerMessageReceived true clientId ⟨topic, data, qos⟩ zone now s
  cases data with
  | invalid raw => exact ⟨rfl, hcr⟩
  | utf8 d =>
    obtain ⟨s', hf⟩ := @proxyForward_raises clientId s h hl ⟨topic, .utf8 d, qos⟩ h3
    simp only [onBrokerMessageReceived, decode, run_bind, run_pure, hf] at hcr ⊢
    exact ⟨rfl, hcr⟩

/-- Bot `bot@cls/res` with its upstream client `0`, connected and relaying. -/
def proxiedBot : State :=
  ⟨(∅ : AList _).insert "bot@cls/res" 0, [⟨"bot@cls/res", "", true, true⟩], ∅,
    [⟨0, "iot/old", ""⟩], ⟨[], []⟩, []⟩

theorem proxied_message_raises_bot :
    raised ((onBrokerMessageReceived true "bot@cls/res" replyTo7 .utc 100).run proxiedBot) =
        some (.nameError "msgdata") ∧
      (finalState ((onBrokerMessageReceived true "bot@cls/res" replyTo7 .utc 100).run
        proxiedBot)).commandResponses = proxiedBot.commandResponses :=
  proxied_message_raises (by decide : proxiedBot.proxyclients.lookup "bot@cls/res" = some 0)
    (by decide) (.utf8 "ok") 0 .utc 100

end Bumper.Plugin.Message
