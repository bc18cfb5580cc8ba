import Bumper.Plugin.Message
import Bumper.Python.Strings

/-! # Commands and replies on one topic grammar

`send_command` writes its topic with a format string, and two pieces of code read topics back by
segment index: the classification of the message hook (segment 6 `helperbot`: a reply; segment 3
`helperbot`: a command of the helper bot) and the scan of `wait_for_resp` (segments 6, 10 and 11).
A reply has the command's shape with the sender (segments 3-5) and the recipient (segments 6-8)
exchanged (`replyTopic`).

* `request_and_reply_topics_agree`: for fields without `/` and a recipient other than
  `helperbot`, the hook takes the command for a command and appends nothing, appends the reply,
  and the reply is one `wait_for_resp` takes for the request id, decoded by the payload type;
* `request_to_helperbot_taken_as_reply`: a command addressed to the id `helperbot` has segment 6
  `helperbot`, so the hook appends the command itself, and `wait_for_resp` takes it for its own
  reply. -/

namespace Bumper.Plugin.Topics

open Bumper.Python Bumper.Helperbot Bumper.Server Bumper.Plugin.Message

variable {V : Type}

/-- Segments 3-5 and 6-8 of a split topic exchanged. -/
def swapFromTo (segs : List String) : List String :=
  segs.take 3 ++ (segs.drop 6).take 3 ++ (segs.drop 3).take 3 ++ segs.drop 9

/-- The reply to a command, as the spec describes it: the command's topic with its sender and its
recipient exchanged. -/
def replyTopic (cmd : Command V) (requestid : String) : String :=
  join "/" (swapFromTo (split (commandTopic cmd requestid) '/'))

section Segments

variable (cmd : Command V) (requestid : String)
  (hslash : ∀ x ∈ [cmd.cmdName, cmd.toId, cmd.toType, cmd.toRes, cmd.payloadType, requestid],
    '/' ∉ x.data)
include hslash

/-- The segments of the topic `send_command` publishes on. -/
theorem split_commandTopic :
    split (commandTopic cmd requestid) '/' = ["iot", "p2p", cmd.cmdName, "helperbot", "bumper",
      "helperbot", cmd.toId, cmd.toType, cmd.toRes, "q", requestid, cmd.payloadType] := by
  simp only [List.mem_cons, List.mem_singleton, forall_eq_or_imp, forall_eq] at hslash
  exact split_of_data_eq (by simp [commandTopic]) (by simp [hslash]) (by simp)

/-- The segments of the reply. -/
theorem split_replyTopic :
    split (replyTopic cmd requestid) '/' = ["iot", "p2p", cmd.cmdName, cmd.toId, cmd.toType,
      cmd.toRes, "helperbot", "bumper", "helperbot", "q", requestid, cmd.payloadType] := by
  have hs := split_commandTopic cmd requestid hslash
  simp only [List.mem_cons, List.mem_singleton, forall_eq_or_imp, forall_eq] at hslash
  rw [replyTopic, hs]
  exact split_join rfl (by simp [swapFromTo, hslash]) (by simp [swapFromTo])

end Segments

/-- **The encoder and the two classifiers agree.** Take a command and a request id whose fields
have no `/`, addressed to a recipient other than `helperbot`, published by a client that has no
upstream client (or out of proxy mode) with a UTF-8 payload. The message hook classifies the
command as a command and appends nothing; it appends the reply; and the reply is one
`wait_for_resp(requestid)` takes, decoding its payload by the command's payload type. -/
theorem request_and_reply_topics_agree (cmd : Command V) (requestid : String)
    (hslash : ∀ x ∈ [cmd.cmdName, cmd.toId, cmd.toType, cmd.toRes, cmd.payloadType, requestid],
      '/' ∉ x.data)
    (hto : cmd.toId ≠ "helperbot") {proxyMode : Bool} {clientId : String} {s : State}
    (hfwd : proxyMode = false ∨ s.proxyclients.lookup clientId = none) (d : String)
    (qos : Nat) (zone : Zone) (now : Nat) :
    (onBrokerMessageReceived proxyMode clientId ⟨commandTopic cmd requestid, .utf8 d, qos⟩ zone
        now).run s =
      .ok .command { s with commandResponses := pruneExpired zone now s.commandResponses } ∧
    (onBrokerMessageReceived proxyMode clientId ⟨replyTopic cmd requestid, .utf8 d, qos⟩ zone
        now).run s = .ok (.response ⟨now, replyTopic cmd requestid, d⟩) { s with
        commandResponses :=
          pruneExpired zone now (s.commandResponses ++ [⟨now, replyTopic cmd requestid, d⟩]) } ∧
    IsReplyTo requestid ⟨now, replyTopic cmd requestid, d⟩ ∧
    topicSegment (replyTopic cmd requestid) 11 = some cmd.payloadType := by
  have hc := split_commandTopic cmd requestid hslash
  have hr := split_replyTopic cmd requestid hslash
  generalize commandTopic cmd requestid = tc at hc ⊢
  generalize replyTopic cmd requestid = tr at hr ⊢
  refine ⟨?_, ?_, ⟨?_, ?_⟩, ?_⟩
  · simp only [onBrokerMessageReceived, classify, decode, run_bind, run_pure,
      run_proxyForward_of_not hfwd, run_getItem, hc, List.getElem?_cons_succ,
      List.getElem?_cons_zero, hto, eq_self_iff_true, if_false, if_true, run_modify]
  · simp only [onBrokerMessageReceived, classify, decode, run_bind, run_pure,
      run_proxyForward_of_not hfwd, run_getItem, hr, List.getElem?_cons_succ,
      List.getElem?_cons_zero, eq_self_iff_true, if_true, run_modify]
  all_goals simp only [topicSegment, hr, List.getElem?_cons_succ, List.getElem?_cons_zero]

/-- A command `getX` to bot `bot` of class `cls` and resource `res`, with payload type `x`. -/
def getXToBot : Command String := ⟨"getX", "bot", "cls", "res", "x", "{}"⟩

theorem request_and_reply_topics_agree_getXToBot :
    (onBrokerMessageReceived false "bot@cls/res" ⟨commandTopic getXToBot "7", .utf8 "ok", 0⟩ .utc
        10).run (State.init ⟨[], []⟩) =
      .ok .command { State.init ⟨[], []⟩ with
        commandResponses := pruneExpired .utc 10 (State.init ⟨[], []⟩).commandResponses } ∧
    (onBrokerMessageReceived false "bot@cls/res" ⟨replyTopic getXToBot "7", .utf8 "ok", 0⟩ .utc
        10).run
        (State.init ⟨[], []⟩) =
      .ok (.response ⟨10, replyTopic getXToBot "7", "ok"⟩) { State.init ⟨[], []⟩ with
        commandResponses := pruneExpired .utc 10
          ((State.init ⟨[], []⟩).commandResponses ++ [⟨10, replyTopic getXToBot "7", "ok"⟩]) } ∧
    IsReplyTo "7" ⟨10, replyTopic getXToBot "7", "ok"⟩ ∧
    topicSegment (replyTopic getXToBot "7") 11 = some getXToBot.payloadType :=
  request_and_reply_topics_agree getXToBot "7" (by decide) (by decide) (.inl rfl) "ok" 0 .utc 10

/-- A command addressed to the id `helperbot` has segment 6 `helperbot`: the message hook appends
the command itself to `command_responses`, and it is a reply to its own request id, which
`wait_for_resp` takes. -/
theorem request_to_helperbot_taken_as_reply :
    (finalState ((onBrokerMessageReceived false helperbotClientId
        ⟨commandTopic (⟨"getX", "helperbot", "cls", "res", "x", "{}"⟩ : Command String) "7",
          .utf8 "{}", 0⟩ .utc 10).run (State.init ⟨[], []⟩))).commandResponses =
      [⟨10, commandTopic (⟨"getX", "helperbot", "cls", "res", "x", "{}"⟩ : Command String) "7",
        "{}"⟩] ∧
    IsReplyTo "7"
      ⟨10, commandTopic (⟨"getX", "helperbot", "cls", "res", "x", "{}"⟩ : Command String) "7",
        "{}"⟩ :=
  ⟨by decide, by unfold IsReplyTo; decide⟩

end Bumper.Plugin.Topics
