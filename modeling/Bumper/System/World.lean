import Bumper.Plugin.Auth
import Bumper.Plugin.Lifecycle
import Bumper.Plugin.Message
import Bumper.ProxyClient

/-! # The broker as a system

The hooks of the broker plugin, the `get_msg` tasks of the upstream clients and the `send_command`
coroutines of the helper bot all run on one `asyncio` loop, over one shared state. Between two
`await`s a coroutine runs alone, so a run of the broker is a sequence of events, each one of those
pieces of code run from one `await` to the next (`step`):

* a hook of the plugin, for any client id and message (`authenticate`, `connected`, `subscribed`,
  `received`, `disconnected`), up to its end or its first `await`; an exception a hook raises is
  logged by the broker, which goes on, except the `exit(1)` of `authenticate`, after which nothing
  runs;
* the rest of a hook waiting at an `await` (`resume`): `authenticate` after the `connect` of the
  upstream client it made, `on_broker_client_disconnected` after the disconnect of one;
* one turn of the `get_msg` loop of upstream client `h`, while it is connected and its loop runs
  (`delivered`);
* a `send_command(cmdjson, requestid)`, from its publish to the start of its `wait_for_resp`
  (`sendCommand`), then its wake-ups: a scan of the response buffer (`poll`), the end of the wait
  at `t_end` (`timeout`), or a cancellation (`cancel`).

The clock is read by the events that read it, in whole seconds; nothing requires two readings to
be ordered, so the runs include every schedule of the real loop. The host's time zone, through
which the helper bot computes its deadlines and the hook its expiry times, is fixed at start-up
(`World.start`, `step_zone`).

`World` adds to the server state the waiting coroutines, the hooks waiting at an `await`, and a
log of what happened to the records of the response buffer, from which the properties of runs are
stated. `step_authenticate`, `step_delivered`, `step_poll`, `step_timeout`, `step_cancel` and
`step_resume` say what an event that can be refused needs and does, and `disconnected_cases` the
two ways the disconnect hook runs; the invariants of the modules below are proved from them. -/

namespace Bumper.System

open Bumper.Python Bumper.Helperbot Bumper.Server Bumper.Plugin.Auth Bumper.Plugin.Lifecycle
  Bumper.Plugin.Message Bumper.ProxyClient

/-- A `send_command` coroutine in `wait_for_resp`: its request id, the `t_end` of lines 71-73, and
the dict it returned, once it has returned. -/
structure Waiter (V : Type) where
  requestid : String
  tEnd : Int
  result : Option (CmdResult V)
deriving DecidableEq, Repr

/-- An entry of the log: a record appended by the message hook, taken by waiter `w`, or removed by
the expiry loop at clock `now`; the publish of waiter `w`'s command, with the response buffer as it
was then. -/
inductive Obs
  | appended (rec : Record)
  | claimed (w : Nat) (rec : Record)
  | pruned (now : Nat) (rec : Record)
  | commanded (w : Nat) (buffer : List Record)
deriving DecidableEq, Repr

/-- A hook waiting at an `await`: `authenticate` of `clientId`, waiting for the `connect` of
upstream client `h`, whose outcome is `ok`; or `on_broker_client_disconnected(clientId)`, waiting
for the disconnect of its upstream client. -/
inductive Suspended
  | connect (clientId : String) (h : Nat) (ok : Bool)
  | disconnect (clientId : String)
deriving DecidableEq, Repr

/-- What a hook waiting at an `await` runs once the `await` is over. -/
def Suspended.resume : Suspended → PyM State Unit
  | .connect clientId h ok => connectDone clientId h ok
  | .disconnect clientId => markOffline clientId

/-- The broker's state, the helper bot's waiting coroutines (numbered in order of creation), the
log, the hooks waiting at an `await`, and the host's time zone, which no event changes. -/
structure World (V : Type) where
  server : State
  waiters : List (Waiter V)
  log : List Obs
  suspended : List Suspended
  zone : Zone

/-- The world at start-up on a host in time zone `zone`, over a registry kept from earlier runs. -/
def World.start {V : Type} (registry : Registry) (zone : Zone) : World V :=
  ⟨State.init registry, [], [], [], zone⟩

/-- Start-up on a host that keeps UTC. -/
def World.init {V : Type} (registry : Registry) : World V := World.start registry .utc

/-- What can happen next. -/
inductive Event (V : Type)
  | authenticate (sess : Session) (ext : AuthExt)
  | connected (clientId : String)
  | subscribed (clientId topic : String) (qos : Nat)
  | received (clientId : String) (message : Message) (now : Nat)
  | disconnected (clientId : String)
  | delivered (h : Nat) (message : Message)
  | sendCommand (cmd : Command V) (requestid : String) (now : Nat)
  | poll (w now : Nat)
  | timeout (w now : Nat)
  | cancel (w : Nat)
  | resume (k : Nat)

section Step

variable {V : Type} (cfg : Config) (codec : Codec V)

/-- The records a run of the message hook appended: the reply it classified, if it returned. -/
def appendedBy : EStateM.Result PyExc State MsgKind → List Record
  | .ok k _ => k.appended
  | .error _ _ => []

/-- The message hook as an event; the records it appended and those the expiry loop removed are
logged. -/
def World.received (w : World V) (clientId : String) (message : Message) (now : Nat) : World V :=
  let r := (onBrokerMessageReceived cfg.proxyMode clientId message w.zone now).run w.server
  { w with
    server := finalState r
    log := w.log ++ (appendedBy r).map .appended ++
      ((w.server.commandResponses ++ appendedBy r).diff (finalState r).commandResponses).map
        (.pruned now) }

/-- The dict a scan leaves for the waiter: the reply, none yet, or, when the scan raised, the
failure dict of lines 93-98. -/
def pollOutcome (requestid : String) :
    EStateM.Result PyExc (List Record) (Option (CmdResult V)) → Option (CmdResult V)
  | .ok res _ => res
  | .error _ _ => some (timedOut requestid)

/-- A wake-up of waiter `i` that scans the buffer; the record it takes is logged. -/
def World.poll (w : World V) (i : Nat) (wt : Waiter V) : World V :=
  let r := (pollResponses codec.loads wt.requestid).run w.server.commandResponses
  { w with
    server := { w.server with commandResponses := finalState r }
    waiters := w.waiters.set i { wt with result := pollOutcome wt.requestid r }
    log := w.log ++ (w.server.commandResponses.diff (finalState r)).map (.claimed i) }

/-- Waiter `i` returns the failure dict: its time is up, or it was cancelled. -/
def World.finish (w : World V) (i : Nat) (wt : Waiter V) : World V :=
  { w with waiters := w.waiters.set i { wt with result := some (timedOut wt.requestid) } }

/-- `send_command(cmdjson, requestid)` publishes its command and starts waiting, until `t_end`:
sixty seconds on from `now` through the wall clock of the host's zone (lines 71-73). -/
def World.sendCommand (w : World V) (cmd : Command V) (requestid : String) (now : Nat) : World V :=
  { w with
    server := { w.server with
      outbox := w.server.outbox ++
        ((commandPublish codec cmd requestid).map fun p => Outgoing.broker p.1 p.2 0).toList }
    waiters := w.waiters ++ [⟨requestid, w.zone.after waitRespTimeoutSeconds now, none⟩]
    log := w.log ++ [.commanded w.waiters.length w.server.commandResponses] }

/-- One turn of the `get_msg` loop of upstream client `h`; an exception ends the loop. -/
def World.delivered (w : World V) (h : Nat) (message : Message) : World V :=
  match (getMsgTurn message).run w.server with
  | .ok _ s => { w with server := s }
  | .error _ s => { w with
      server := { s with proxies := s.proxies.modify (fun pc => { pc with relaying := false }) h } }

/-- `authenticate` ran up to its end with state `s`, or up to the `await` on the `connect` of the
upstream client it made, if it made one (it makes at most one, `proxyTable_authenticate`); nothing
after that `await` changes its result. -/
def World.authenticated (w : World V) (sess : Session) (ext : AuthExt) (s : State) : World V :=
  { w with
    server := s
    suspended := w.suspended ++
      if w.server.proxies.length < s.proxies.length then
        [.connect sess.clientId w.server.proxies.length ext.connectOk]
      else [] }

/-- The disconnect hook up to its `await`, if it has one, and otherwise to its end. -/
def World.disconnected (w : World V) (clientId : String) : World V :=
  match (disconnectUpstream cfg.proxyMode clientId).run w.server with
  | .ok true s => { w with server := s, suspended := w.suspended ++ [.disconnect clientId] }
  | r => { w with server := finalState ((markOffline clientId).run (finalState r)) }

/-- The `k`-th hook waiting at an `await` goes on to its end. -/
def World.resume (w : World V) (k : Nat) (sp : Suspended) : World V :=
  { w with server := finalState (sp.resume.run w.server), suspended := w.suspended.eraseIdx k }

/-- The world after an event, or `none` when the event cannot happen. -/
def step (w : World V) : Event V → Option (World V)
  | .authenticate sess ext =>
    match (authenticate cfg ext sess).run w.server with
    | .ok _ s => some (w.authenticated sess ext s)
    | .error _ _ => none
  | .connected c => some { w with server := finalState ((onBrokerClientConnected c).run w.server) }
  | .subscribed c topic qos =>
    some { w with
      server := finalState ((onBrokerClientSubscribed cfg.proxyMode c topic qos).run w.server) }
  | .received c message now => some (w.received cfg c message now)
  | .disconnected c => some (w.disconnected cfg c)
  | .delivered h message =>
    match w.server.proxies[h]? with
    | some pc => if pc.connected && pc.relaying then some (w.delivered h message) else none
    | none => none
  | .sendCommand cmd requestid now => some (w.sendCommand codec cmd requestid now)
  | .poll i now =>
    match w.waiters[i]? with
    | some wt =>
      if wt.result.isNone && decide ((now : Int) < wt.tEnd) then some (w.poll codec i wt) else none
    | none => none
  | .timeout i now =>
    match w.waiters[i]? with
    | some wt =>
      if wt.result.isNone && decide (wt.tEnd ≤ (now : Int)) then some (w.finish i wt) else none
    | none => none
  | .cancel i =>
    match w.waiters[i]? with
    | some wt => if wt.result.isNone then some (w.finish i wt) else none
    | none => none
  | .resume k => (w.suspended[k]?).map (w.resume k)

/-- The worlds a run of the broker reaches, on a host in any time zone. -/
inductive Reachable : World V → Prop
  | init (registry : Registry) (zone : Zone) : Reachable (World.start registry zone)
  | step {w w' : World V} (e : Event V) : Reachable w → step cfg codec w e = some w' → Reachable w'

/-- The world after a sequence of events. -/
def run (w : World V) : List (Event V) → Option (World V)
  | [] => some w
  | e :: es => (step cfg codec w e).bind fun w' => run w' es

theorem reachable_run {w w' : World V} (hw : Reachable cfg codec w) :
    ∀ {es : List (Event V)}, run cfg codec w es = some w' → Reachable cfg codec w'
  | [], h => by cases h; exact hw
  | e :: es, h => by
    simp only [run, Option.bind_eq_some] at h
    obtain ⟨w₁, h₁, h₂⟩ := h
    exact reachable_run (hw.step e h₁) h₂

end Step

/-! ### What an event needs -/

section Inversion

variable {V : Type} {cfg : Config} {codec : Codec V} {w w' : World V}

theorem step_authenticate {sess : Session} {ext : AuthExt}
    (h : step cfg codec w (.authenticate sess ext) = some w') :
    ∃ b s, (authenticate cfg ext sess).run w.server = .ok b s ∧
      w' = w.authenticated sess ext s := by
  simp only [step] at h
  split at h
  · cases h; exact ⟨_, _, ‹_›, rfl⟩
  · cases h

theorem step_delivered {hd : Nat} {m : Message} (h : step cfg codec w (.delivered hd m) = some w') :
    ∃ pc, w.server.proxies[hd]? = some pc ∧ pc.connected = true ∧ pc.relaying = true ∧
      w' = w.delivered hd m := by
  simp only [step] at h
  split at h
  · rename_i pc hpc
    split at h
    · rename_i hc
      simp only [Bool.and_eq_true] at hc
      cases h; exact ⟨pc, hpc, hc.1, hc.2, rfl⟩
    · cases h
  · cases h

theorem step_poll {i now : Nat} (h : step cfg codec w (.poll i now) = some w') :
    ∃ wt, w.waiters[i]? = some wt ∧ wt.result = none ∧ (now : Int) < wt.tEnd ∧
      w' = w.poll codec i wt := by
  simp only [step] at h
  split at h
  · rename_i wt hwt
    split at h
    · rename_i hc
      simp only [Bool.and_eq_true, Option.isNone_iff_eq_none, decide_eq_true_eq] at hc
      cases h; exact ⟨wt, hwt, hc.1, hc.2, rfl⟩
    · cases h
  · cases h

theorem step_timeout {i now : Nat} (h : step cfg codec w (.timeout i now) = some w') :
    ∃ wt, w.waiters[i]? = some wt ∧ wt.result = none ∧ wt.tEnd ≤ (now : Int) ∧
      w' = w.finish i wt := by
  simp only [step] at h
  split at h
  · rename_i wt hwt
    split at h
    · rename_i hc
      simp only [Bool.and_eq_true, Option.isNone_iff_eq_none, decide_eq_true_eq] at hc
      cases h; exact ⟨wt, hwt, hc.1, hc.2, rfl⟩
    · cases h
  · cases h

theorem step_cancel {i : Nat} (h : step cfg codec w (.cancel i) = some w') :
    ∃ wt, w.waiters[i]? = some wt ∧ wt.result = none ∧ w' = w.finish i wt := by
  simp only [step] at h
  split at h
  · rename_i wt hwt
    split at h
    · rename_i hc
      simp only [Option.isNone_iff_eq_none] at hc
      cases h; exact ⟨wt, hwt, hc, rfl⟩
    · cases h
  · cases h

@[simp] theorem World.delivered_waiters (w : World V) (hd : Nat) (m : Message) :
    (w.delivered hd m).waiters = w.waiters := by
  unfold World.delivered; split <;> rfl

@[simp] theorem World.delivered_log (w : World V) (hd : Nat) (m : Message) :
    (w.delivered hd m).log = w.log := by
  unfold World.delivered; split <;> rfl

theorem step_resume {k : Nat} (h : step cfg codec w (.resume k) = some w') :
    ∃ sp, w.suspended[k]? = some sp ∧ w' = w.resume k sp := by
  obtain ⟨sp, hsp, rfl⟩ := Option.map_eq_some'.1 h
  exact ⟨sp, hsp, rfl⟩

@[simp] theorem World.disconnected_waiters (w : World V) (c : String) :
    (w.disconnected cfg c).waiters = w.waiters := by
  unfold World.disconnected; split <;> rfl

@[simp] theorem World.disconnected_log (w : World V) (c : String) :
    (w.disconnected cfg c).log = w.log := by
  unfold World.disconnected; split <;> rfl

/-- No event changes the host's time zone. -/
theorem step_zone {e : Event V} (h : step cfg codec w e = some w') : w'.zone = w.zone := by
  cases e with
  | authenticate sess ext => obtain ⟨_, _, _, rfl⟩ := step_authenticate h; rfl
  | delivered hd m =>
    obtain ⟨_, _, _, _, rfl⟩ := step_delivered h
    unfold World.delivered; split <;> rfl
  | disconnected c => cases h; unfold World.disconnected; split <;> rfl
  | poll i now => obtain ⟨_, _, _, _, rfl⟩ := step_poll h; rfl
  | timeout i now => obtain ⟨_, _, _, _, rfl⟩ := step_timeout h; rfl
  | cancel i => obtain ⟨_, _, _, rfl⟩ := step_cancel h; rfl
  | resume k => obtain ⟨_, _, rfl⟩ := step_resume h; rfl
  | _ => cases h; rfl

/-- In proxy mode, for a client with an upstream client, the disconnect hook disconnects that
client and waits. -/
theorem disconnected_of_lookup {c : String} {i : Nat} (hpm : cfg.proxyMode = true)
    (hl : w.server.proxyclients.lookup c = some i) :
    w.disconnected cfg c = { w with
      server := finalState ((disconnect i).run w.server)
      suspended := w.suspended ++ [.disconnect c] } := by
  unfold World.disconnected; rw [hpm, run_disconnectUpstream_of_lookup hl]; rfl

/-- Otherwise it marks the client offline at once. -/
theorem disconnected_of_not {c : String}
    (h : cfg.proxyMode = false ∨ w.server.proxyclients.lookup c = none) :
    w.disconnected cfg c = { w with server := finalState ((markOffline c).run w.server) } := by
  unfold World.disconnected; rw [run_disconnectUpstream_of_not h]; rfl

/-- The two ways the disconnect hook runs. -/
theorem disconnected_cases (cfg : Config) (w : World V) (c : String) :
    (∃ i, cfg.proxyMode = true ∧ w.server.proxyclients.lookup c = some i ∧
      w.disconnected cfg c = { w with
        server := finalState ((disconnect i).run w.server)
        suspended := w.suspended ++ [.disconnect c] }) ∨
    ((cfg.proxyMode = false ∨ w.server.proxyclients.lookup c = none) ∧
      w.disconnected cfg c = { w with server := finalState ((markOffline c).run w.server) }) := by
  cases hpm : cfg.proxyMode
  · exact .inr ⟨.inl rfl, disconnected_of_not (.inl hpm)⟩
  cases hl : w.server.proxyclients.lookup c with
  | none => exact .inr ⟨.inr rfl, disconnected_of_not (.inr hl)⟩
  | some i => exact .inl ⟨i, rfl, rfl, disconnected_of_lookup hpm hl⟩

/-- The disconnect hook keeps what both its halves keep. -/
theorem disconnected_keeps {β : Type} (f : State → β) (hp : ∀ s l, f { s with proxies := l } = f s)
    (hr : ∀ s r, f { s with registry := r } = f s) (cfg : Config) (w : World V) (c : String) :
    f (w.disconnected cfg c).server = f w.server := by
  have hd := keeps_disconnectUpstream f hp cfg.proxyMode c w.server
  unfold World.disconnected
  split
  · rename_i heq; rw [heq] at hd; exact hd
  · exact (keeps_markOffline f hr c _).trans hd

/-- The disconnect hook run again leaves the broker's state as the first run left it. -/
theorem disconnected_twice (cfg : Config) (w : World V) (c : String) :
    ((w.disconnected cfg c).disconnected cfg c).server = (w.disconnected cfg c).server := by
  have hk := disconnected_keeps State.proxyclients (fun _ _ => rfl) (fun _ _ => rfl) cfg w c
  rcases disconnected_cases cfg w c with ⟨i, hpm, hl, he⟩ | ⟨hn, he⟩
  · have hl' : (w.disconnected cfg c).server.proxyclients.lookup c = some i := hk ▸ hl
    rw [disconnected_of_lookup hpm hl', he]
    simp [disconnect, finalState, List.modify_modify_eq, Function.comp_def]
  · have hn' : cfg.proxyMode = false ∨ (w.disconnected cfg c).server.proxyclients.lookup c = none :=
      hk ▸ hn
    rw [disconnected_of_not hn', he]
    exact markOffline_twice c w.server

/-- The rest of a hook keeps what both continuations keep. -/
theorem resume_keeps {β : Type} (f : State → β) (hp : ∀ s l, f { s with proxies := l } = f s)
    (hr : ∀ s r, f { s with registry := r } = f s) (w : World V) (k : Nat) (sp : Suspended) :
    f (w.resume k sp).server = f w.server := by
  cases sp with
  | connect c h ok => exact keeps_connectDone f hp c h ok w.server
  | disconnect c => exact keeps_markOffline f hr c w.server

/-- A turn of `get_msg` keeps what its code keeps and the end of the loop does not touch. -/
theorem delivered_keeps {β : Type} (f : State → β) (hp : ∀ s l, f { s with proxies := l } = f s)
    {m : Message} (hk : Keeps f (getMsgTurn m)) (w : World V) (hd : Nat) :
    f (w.delivered hd m).server = f w.server := by
  have hs := hk w.server
  unfold World.delivered
  split <;> rename_i heq <;> rw [heq] at hs
  · exact hs
  · exact (hp _ _).trans hs

end Inversion

/-- A codec whose JSON values are their text, for the runs of the modules below. -/
def textCodec : Codec String := ⟨some, id, id⟩

end Bumper.System
