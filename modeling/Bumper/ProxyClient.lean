import Bumper.Server

/-! # `BumperProxyModeMQTTClient.get_msg`

In proxy mode each bot has an upstream client. Its `get_msg` task republishes on the local broker,
through the helper bot's client, every message the vendor's server delivers to it. A command sent
to the bot (segment 1 `p2p`) has its sender (segment 3) recorded under its request id (segment 10)
in `eco_helper_names`, a class attribute and so one dict for all upstream clients, and replaced by
`proxyhelper`. An exception ends the loop.

`getMsgTurn` is one turn of the loop; it records a helper name and publishes on the local broker,
and does nothing else (`preserves_getMsgTurn`). The loop sits in one `try` (`getMsg`), so:

* `getMsg_relays_until_malformed`: the task relays the messages delivered to it in order, each as
  `relay` says, up to the first message it cannot handle (`WellFormed`: a non-UTF-8 payload, a
  topic with no second segment, or a `p2p` topic of fewer than eleven segments); that message ends
  the task, and nothing delivered after it is relayed. -/

namespace Bumper.ProxyClient

open Bumper.Python Bumper.Server

/-- One turn of the `while` loop of `get_msg` (lines 300-316), for a delivered message. -/
def getMsgTurn (message : Message) : PyM State Unit := do
  let msgdata ← decode message.data
  let ttopic := split message.topic '/'
  let topic ← if (← getItem ttopic 1) = "p2p" then do
      let sender ← getItem ttopic 3
      let requestid ← getItem ttopic 10
      modify fun s => { s with ecoHelperNames := s.ecoHelperNames.insert requestid sender }
      pure (join "/" (ttopic.set 3 proxyhelper))
    else pure message.topic
  modify fun s => { s with outbox := s.outbox ++ [.broker topic (encode msgdata) 0] }

/-- **What a turn can do**: record a helper name, and publish one message on the local broker. -/
theorem preserves_getMsgTurn {R : State → State → Prop} (hr : Reflexive R) (ht : Transitive R)
    (hn : ∀ s n, R s { s with ecoHelperNames := n })
    (ho : ∀ s topic data qos, R s { s with outbox := s.outbox ++ [.broker topic data qos] })
    (message : Message) : Preserves R (getMsgTurn message) := by
  unfold getMsgTurn
  dsimp only
  exact Preserves.bind ht (preserves_decode hr _) fun _ =>
    Preserves.bind ht (preserves_getItem hr _ _) fun _ => Preserves.ite _
      (Preserves.bind ht (preserves_getItem hr _ _) fun _ =>
        Preserves.bind ht (preserves_getItem hr _ _) fun _ =>
          Preserves.bind ht (preserves_modify fun s => hn s _) fun _ =>
            Preserves.bind ht (preserves_pure hr _) fun _ => preserves_modify fun s => ho s _ _ _)
      (Preserves.bind ht (preserves_pure hr _) fun _ => preserves_modify fun s => ho s _ _ _)

theorem keeps_getMsgTurn {β : Type} (f : State → β)
    (hn : ∀ s n, f { s with ecoHelperNames := n } = f s)
    (ho : ∀ s o, f { s with outbox := o } = f s) (message : Message) :
    Keeps f (getMsgTurn message) :=
  preserves_getMsgTurn (reflexive_keeps f) (transitive_keeps f) hn (fun s _ _ _ => ho s _) message

/-! ### The whole loop -/

/-- The `while` loop of `get_msg` over the messages `deliver_message` returns while the client is
connected, in order; an exception leaves the loop. -/
def getMsgLoop : List Message → PyM State Unit
  | [] => pure ()
  | m :: ms => do getMsgTurn m; getMsgLoop ms

/-- `get_msg()`, lines 298-320: the loop inside one `try`, whose handler logs the exception and
returns, which ends the task. -/
def getMsg (messages : List Message) : PyM State Unit :=
  tryCatch (getMsgLoop messages) fun e => if e.isException then pure () else throw e

/-- A message the relay is meant to handle: a UTF-8 payload and a topic with a second segment,
with at least eleven segments when that one is `p2p`. -/
def WellFormed (m : Message) : Bool :=
  (match m.data with
    | .utf8 _ => true
    | .invalid _ => false) &&
  match (split m.topic '/')[1]? with
  | some t => t != "p2p" || decide (11 ≤ (split m.topic '/').length)
  | none => false

/-- The relay of one message, as it is meant to be: a `p2p` command has its sender (segment 3)
recorded under its request id (segment 10) and replaced by `proxyhelper`; any message is then
republished on the local broker with its payload. -/
def relay (s : State) (m : Message) : State :=
  let ttopic := split m.topic '/'
  if ttopic[1]? = some "p2p" then
    { s with
      ecoHelperNames := s.ecoHelperNames.insert (ttopic.getD 10 "") (ttopic.getD 3 "")
      outbox := s.outbox ++ [.broker (join "/" (ttopic.set 3 proxyhelper)) m.data 0] }
  else { s with outbox := s.outbox ++ [.broker m.topic m.data 0] }

theorem getMsgTurn_of_wellFormed {m : Message} (h : WellFormed m = true) (s : State) :
    (getMsgTurn m).run s = .ok () (relay s m) := by
  obtain ⟨topic, data, qos⟩ := m
  cases data with
  | invalid raw => simp [WellFormed] at h
  | utf8 text =>
    simp only [WellFormed, Bool.true_and] at h
    simp only [getMsgTurn, relay, decode, run_bind, run_pure, run_getItem]
    split at h
    · rename_i t h1
      simp only [h1]
      by_cases hp : t = "p2p"
      · subst hp
        have hl : 11 ≤ (split topic '/').length := by simpa using h
        simp [run_getItem, List.getElem?_eq_getElem (show 3 < (split topic '/').length by omega),
          List.getElem?_eq_getElem (show 10 < (split topic '/').length by omega), run_bind,
          List.getD_eq_getElem?_getD, encode]
      · simp [hp, run_bind, encode]
    · cases h

theorem getMsgTurn_of_malformed {m : Message} (h : WellFormed m = false) (s : State) :
    ∃ e, e.isException = true ∧ (getMsgTurn m).run s = .error e s := by
  obtain ⟨topic, data, qos⟩ := m
  cases data with
  | invalid raw => exact ⟨.unicodeDecodeError, rfl, rfl⟩
  | utf8 text =>
    simp only [WellFormed, Bool.true_and] at h
    simp only [getMsgTurn, decode, run_bind, run_pure, run_getItem]
    split at h
    · rename_i t h1
      simp only [h1]
      simp only [Bool.or_eq_false_iff, bne_eq_false_iff_eq, decide_eq_false_iff_not] at h
      obtain ⟨rfl, hl⟩ := h
      simp only [if_true, run_bind, run_getItem]
      rcases (split topic '/')[3]? with _ | sender
      · exact ⟨.indexError, rfl, rfl⟩
      rw [List.getElem?_eq_none (by omega)]
      exact ⟨.indexError, rfl, rfl⟩
    · rename_i h1; simp only [h1]; exact ⟨.indexError, rfl, rfl⟩

/-- **`get_msg` relays up to the first malformed message, and no further.** The loop runs in one
`try`: the first message it cannot handle raises, the handler returns, and the task is over. So
the messages delivered after it are never relayed; the ones before it are relayed in order, each
as `relay` says. -/
theorem getMsg_relays_until_malformed (messages : List Message) (s : State) :
    (getMsg messages).run s = .ok () ((messages.takeWhile WellFormed).foldl relay s) := by
  induction messages generalizing s with
  | nil => rfl
  | cons m ms ih =>
    cases hm : WellFormed m
    · obtain ⟨e, he, hturn⟩ := getMsgTurn_of_malformed hm s
      simp only [getMsg, getMsgLoop, run_tryCatch, run_bind, hturn, he, if_true, run_pure,
        List.takeWhile_cons, hm, Bool.false_eq_true, if_false, List.foldl_nil]
    · have ht := getMsgTurn_of_wellFormed hm s
      simp only [getMsg, run_tryCatch] at ih
      simp only [getMsg, getMsgLoop, run_tryCatch, run_bind, ht, ih, List.takeWhile_cons, hm,
        if_true, List.foldl_cons]

example : (finalState ((getMsg [⟨"iot", .utf8 "{}", 0⟩,
    ⟨"iot/atr/onBattery/bot/cls/res/j", .utf8 "{}", 0⟩]).run (State.init ⟨[], []⟩))).outbox =
      [] := by
  decide

end Bumper.ProxyClient
