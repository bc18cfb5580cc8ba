import Bumper.Python.Basic
import Bumper.Python.Time

/-! # `MQTTHelperBot`: commands, replies and the response buffer

The helper bot publishes a command on a topic of the grammar
`iot/p2p/<cmd>/<from: id/type/res>/<to: id/type/res>/q/<requestid>/<payloadType>` and waits for the
reply that the broker's message hook appends to `command_responses`. This module holds what the
helper bot computes on its own:

* `commandTopic`, `commandPublish`: the topic and payload `send_command` publishes;
* `findResponse`, `pollResponses`: one wake-up of `wait_for_resp`, which scans the buffer for the
  first record with segment 6 `helperbot` and segment 10 the request id, decodes its payload by
  segment 11 and removes it (`pollResponses_cases`);
* `pruneExpired`: the expiry loop at the end of `on_broker_message_received`, which removes only
  expired records (`expired_of_mem_diff`) but skips the record after each one it removes
  (`pruneExpired_keeps_second_of_two_expired`). A record expires once the clock passes its time
  moved sixty seconds on through the wall clock of the host's zone (`expired`, `Zone.after`): sixty
  seconds later in a zone of fixed offset, but not around a fall-back of the offset.

A scan indexes segments 6, 10 and 11 of every record it passes without checking that they exist,
so a record with a short topic ahead of the reply makes the whole wake-up raise. -/

namespace Bumper.Helperbot

open Bumper.Python
open scoped List

/-- `MQTTHelperBot.wait_resp_timeout_seconds`. -/
def waitRespTimeoutSeconds : Nat := 60

/-- `MQTTHelperBot.client_id`. -/
def helperbotClientId : String := "helperbot@bumper/helperbot"

/-- A record of `command_responses`, the dict `{"time", "topic", "payload"}` of lines 516-522.
Clock readings are whole seconds. -/
structure Record where
  time : Nat
  topic : String
  payload : String
deriving DecidableEq, Repr

/-- Segment `i` of a topic split at `/`, if there is one. -/
def topicSegment (topic : String) (i : Nat) : Option String := (split topic '/')[i]?

/-- The `resp` of a reply: `json.loads(payload)` for payload type `j`, the text otherwise. -/
inductive Resp (V : Type)
  | json (value : V)
  | text (s : String)
deriving DecidableEq, Repr

/-- The dict `wait_for_resp` and `send_command` return: `{"id", "ret": "ok", "resp"}` or
`{"id", "errno", "ret": "fail", "debug"}`. -/
inductive CmdResult (V : Type)
  | ok (id : String) (resp : Resp V)
  | fail (id : String) (errno : Nat) (debug : String)
deriving DecidableEq, Repr

/-- What `wait_for_resp` returns after a timeout, a cancellation or an exception (lines 93-98). -/
def timedOut {V : Type} (requestid : String) : CmdResult V :=
  .fail requestid 500 "wait for response timed out"

/-- The `json` module and `str`, as the helper bot applies them to payloads. -/
structure Codec (V : Type) where
  loads : String → Option V
  dumps : V → String
  str : V → String

/-! ### Sending a command -/

/-- A command as `send_command` reads it from `cmdjson`. -/
structure Command (V : Type) where
  cmdName : String
  toId : String
  toType : String
  toRes : String
  payloadType : String
  payload : V

/-- The topic of lines 103-110. -/
def commandTopic {V : Type} (cmd : Command V) (requestid : String) : String :=
  "iot/p2p/" ++ cmd.cmdName ++ "/helperbot/bumper/helperbot/" ++ cmd.toId ++ "/" ++ cmd.toType ++
    "/" ++ cmd.toRes ++ "/q/" ++ requestid ++ "/" ++ cmd.payloadType

/-- What lines 111-118 publish: the payload as `str` for type `x`, as JSON for type `j`, nothing
for any other type (`send_command` then waits all the same). -/
def commandPublish {V : Type} (codec : Codec V) (cmd : Command V) (requestid : String) :
    Option (String × Bytes) :=
  if cmd.payloadType = "x" then some (commandTopic cmd requestid, encode (codec.str cmd.payload))
  else if cmd.payloadType = "j" then
    some (commandTopic cmd requestid, encode (codec.dumps cmd.payload))
  else none

/-! ### Waiting for the reply -/

section Wait

variable {V σ : Type} (loads : String → Option V)

/-- Lines 81-84: the payload decoded by segment 11 of the split topic. -/
def decodeResp (topic : List String) (payload : String) : PyM σ (Resp V) := do
  if (← getItem topic 11) = "j" then
    match loads payload with
    | some v => pure (.json v)
    | none => throw .jsonDecodeError
  else pure (.text payload)

/-- The `for` loop of lines 78-87 up to its `return`: the first record whose topic has segment 6
`helperbot` and segment 10 `requestid` (the `and` tests segment 10 only after segment 6 matched),
with its decoded payload. Nothing is awaited in the loop, so it runs without interruption. -/
def findResponse (requestid : String) : List Record → PyM σ (Option (Record × Resp V))
  | [] => pure none
  | msg :: rest => do
    let topic := split msg.topic '/'
    if (← getItem topic 6) = "helperbot" then
      if (← getItem topic 10) = requestid then
        let resp ← decodeResp loads topic msg.payload
        pure (some (msg, resp))
      else findResponse requestid rest
    else findResponse requestid rest

/-- One wake-up of `wait_for_resp(requestid)` after its sleep (lines 77-87), over
`command_responses`: the found record is removed (`list.remove` removes the first equal element)
and the result returned. -/
def pollResponses (requestid : String) : PyM (List Record) (Option (CmdResult V)) := do
  let responses ← get
  if responses.length > 0 then
    match ← findResponse loads requestid responses with
    | some (msg, resp) =>
      set (responses.erase msg)
      pure (some (.ok requestid resp))
    | none => pure none
  else pure none

/-- The test of line 80: segment 6 is `helperbot` and segment 10 the request id. -/
def IsReplyTo (requestid : String) (msg : Record) : Prop :=
  topicSegment msg.topic 6 = some "helperbot" ∧ topicSegment msg.topic 10 = some requestid

/-- `resp` is the payload of `msg` decoded as lines 81-84 decode it. -/
def DecodedAs (msg : Record) : Resp V → Prop
  | .json v => topicSegment msg.topic 11 = some "j" ∧ loads msg.payload = some v
  | .text t => t = msg.payload ∧ ∃ s, topicSegment msg.topic 11 = some s ∧ s ≠ "j"

theorem decodeResp_spec (msg : Record) (s : σ) :
    match (decodeResp loads (split msg.topic '/') msg.payload : PyM σ (Resp V)).run s with
    | .ok resp s' => s' = s ∧ DecodedAs loads msg resp
    | .error _ s' => s' = s := by
  simp only [decodeResp, run_bind, run_getItem]
  cases h : (split msg.topic '/')[11]? with
  | none => rfl
  | some t =>
    by_cases hj : t = "j"
    · subst hj; cases hl : loads msg.payload <;> simp [hl, DecodedAs, topicSegment, h]
    · simp [hj, DecodedAs, topicSegment, h]

theorem decodeResp_keeps {β : Type} (f : σ → β) (topic : List String) (payload : String) :
    Keeps f (decodeResp loads topic payload : PyM σ (Resp V)) :=
  Keeps.bind (keeps_getItem f _ _) fun _ =>
    Keeps.ite _ (by split <;> first | exact keeps_pure f _ | exact keeps_throw f _) (keeps_pure f _)

theorem findResponse_keeps {β : Type} (f : σ → β) (requestid : String) :
    ∀ l, Keeps f (findResponse loads requestid l : PyM σ _)
  | [] => keeps_pure f _
  | _ :: rest => Keeps.bind (keeps_getItem f _ _) fun _ =>
      Keeps.ite _ (Keeps.bind (keeps_getItem f _ _) fun _ =>
        Keeps.ite _ (Keeps.bind (decodeResp_keeps loads f _ _) fun _ => keeps_pure f _)
          (findResponse_keeps f requestid rest))
        (findResponse_keeps f requestid rest)

/-- What a scan returns is a record of the buffer that answers the request, with its payload
decoded. -/
theorem findResponse_found {requestid : String} {s s' : σ} {msg : Record} {resp : Resp V} :
    ∀ {l : List Record}, (findResponse loads requestid l).run s = .ok (some (msg, resp)) s' →
      msg ∈ l ∧ IsReplyTo requestid msg ∧ DecodedAs loads msg resp
  | [], h => by cases h
  | m :: rest, h => by
    have later : (findResponse loads requestid rest).run s = .ok (some (msg, resp)) s' →
        msg ∈ m :: rest ∧ IsReplyTo requestid msg ∧ DecodedAs loads msg resp := fun h' =>
      let ⟨h1, h2⟩ := findResponse_found h'; ⟨List.mem_cons_of_mem _ h1, h2⟩
    simp only [findResponse, run_bind, run_getItem] at h
    rcases h6 : (split m.topic '/')[6]? with _ | t6
    · simp [h6] at h
    simp only [h6] at h
    by_cases hh : t6 = "helperbot"
    swap
    · simp only [hh, if_false] at h; exact later h
    simp only [hh, if_true, run_bind, run_getItem] at h
    rcases h10 : (split m.topic '/')[10]? with _ | t10
    · simp [h10] at h
    simp only [h10] at h
    by_cases hr : t10 = requestid
    swap
    · simp only [hr, if_false] at h; exact later h
    simp only [hr, if_true, run_bind] at h
    have hd := decodeResp_spec loads m s
    revert hd h
    cases (decodeResp loads (split m.topic '/') m.payload).run s with
    | ok r s₁ =>
      intro h hd
      simp only [run_pure, EStateM.Result.ok.injEq, Option.some.injEq, Prod.mk.injEq] at h
      obtain ⟨⟨rfl, rfl⟩, -⟩ := h
      exact ⟨List.mem_cons_self _ _,
        ⟨by simp [topicSegment, h6, hh], by simp [topicSegment, h10, hr]⟩, hd.2⟩
    | error e s₁ => intro h; cases h

/-- **One wake-up of `wait_for_resp`**: it removes the record it returns, or it removes nothing
(it found no reply, or it raised). -/
theorem pollResponses_cases (requestid : String) (l : List Record) :
    (∃ msg resp, msg ∈ l ∧ IsReplyTo requestid msg ∧ DecodedAs loads msg resp ∧
      (pollResponses loads requestid).run l = .ok (some (.ok requestid resp)) (l.erase msg)) ∨
    (pollResponses loads requestid).run l = .ok none l ∨
    ∃ e, (pollResponses loads requestid).run l = .error e l := by
  simp only [pollResponses, run_bind, run_get]
  split
  · rw [run_bind]
    have hk := findResponse_keeps loads id requestid l l
    cases hf : (findResponse loads requestid l).run l with
    | ok o s₁ =>
      simp only [hf, finalState, id] at hk; subst hk
      rcases o with _ | ⟨msg, resp⟩
      · exact .inr (.inl rfl)
      · obtain ⟨h1, h2, h3⟩ := findResponse_found loads hf
        exact .inl ⟨msg, resp, h1, h2, h3, rfl⟩
    | error e s₁ =>
      simp only [hf, finalState, id] at hk; subst hk
      exact .inr (.inr ⟨e, rfl⟩)
  · exact .inr (.inl rfl)

/-- A wake-up only removes records. -/
theorem pollResponses_sublist (requestid : String) (l : List Record) :
    finalState ((pollResponses loads requestid).run l) <+ l := by
  rcases pollResponses_cases loads requestid l with ⟨msg, _, -, -, -, h⟩ | h | ⟨e, h⟩ <;>
    rw [h]
  · exact List.erase_sublist _ _
  all_goals exact List.Sublist.refl _

end Wait

/-! ### The expiry loop -/

/-- `time.time() > expire_time` at line 540, where `expire_time` (lines 537-539) is the record's
time moved `wait_resp_timeout_seconds` on through the wall clock of the host's zone. -/
def expired (zone : Zone) (now : Nat) (msg : Record) : Bool :=
  decide (zone.after waitRespTimeoutSeconds msg.time < now)

/-- Lines 536-542, with the clock read as `now` throughout the loop. -/
def pruneExpired (zone : Zone) (now : Nat) (responses : List Record) : List Record :=
  forRemove (expired zone now) responses

theorem pruneExpired_sublist (zone : Zone) (now : Nat) (responses : List Record) :
    pruneExpired zone now responses <+ responses := forRemove_sublist _ _

/-- The loop removes only expired records. -/
theorem expired_of_mem_diff {zone : Zone} {now : Nat} {responses : List Record} {msg : Record}
    (h : msg ∈ responses.diff (pruneExpired zone now responses)) : expired zone now msg = true :=
  mem_diff_forRemove _ h

/-- Two records that expired side by side: the loop removes the first and never reads the second,
so one expired record stays, where removing every expired record leaves nothing. -/
theorem pruneExpired_keeps_second_of_two_expired :
    pruneExpired .utc 100 [⟨0, "iot/a", ""⟩, ⟨0, "iot/b", ""⟩] = [⟨0, "iot/b", ""⟩] ∧
      [(⟨0, "iot/a", ""⟩ : Record), ⟨0, "iot/b", ""⟩].filter
        (fun m => 100 ≤ m.time + waitRespTimeoutSeconds) = [] := by decide

end Bumper.Helperbot
