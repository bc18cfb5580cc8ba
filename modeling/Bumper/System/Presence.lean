import Bumper.System.ProxyTable

/-! # Live flags over a run

The registry keeps, for each bot, a live flag that the connection hooks write:
`on_broker_client_connected(c)` writes `True` and `on_broker_client_disconnected(c)` writes `False`
for the bot whose DID is the text of `c` before its first `@` (`flagWrite`). Nothing else writes
a live flag: `bot_add` keeps the flag of a bot it finds again (`flagsKept_authenticate`), and the
other hooks, the `get_msg` turns and the helper bot's coroutines do not touch the registry.

* `live_flag_last_hook_wins`: with proxy mode off no hook waits, so in every run from a reachable
  world the flag of a registered bot is the value the last connection hook for it wrote, or the
  flag it had if none did;
* `reconnect_during_disconnect_marks_offline`: in proxy mode the disconnect hook marks the bot
  offline only after it awaited the disconnect of the bot's upstream client. When the hook of a
  reconnect runs in between, the bot ends marked offline although the last hook for it marked it
  live; when the reconnect comes after, it ends live. -/

namespace Bumper.System.Presence

open Bumper.Python Bumper.Helperbot Bumper.Server Bumper.Plugin.Auth Bumper.Plugin.Lifecycle
  Bumper.Plugin.Message Bumper.ProxyClient Bumper.System.ProxyTable

variable {V : Type}

/-- The live flag an event writes for bot `did` when it runs to its end: a connection hook for a
client id whose text before the first `@` is `did` writes `True`, a disconnection hook `False`. -/
def flagWrite (did : String) : Event V → Option Bool
  | .connected c => if (split c '@')[0]? = some did then some true else none
  | .disconnected c => if (split c '@')[0]? = some did then some false else none
  | _ => none

/-- Every registered bot keeps its live flag from `s` to `s'`. -/
def FlagsKept (s s' : State) : Prop :=
  ∀ d v, s.registry.liveFlag d = some v → s'.registry.liveFlag d = some v

theorem FlagsKept.refl : Reflexive FlagsKept := fun _ _ _ h => h

theorem FlagsKept.trans : Transitive FlagsKept := fun _ _ _ h₁ h₂ d v h => h₂ d v (h₁ d v h)

/-- `authenticate` registers bots and operator clients but changes no live flag. -/
theorem flagsKept_authenticate (cfg : Config) (ext : AuthExt) (sess : Session) (s : State) :
    FlagsKept s (finalState ((authenticate cfg ext sess).run s)) :=
  preserves_authenticate FlagsKept.refl FlagsKept.trans
    (fun _ _ _ _ _ _ _ _ h => Registry.liveFlag_botAdd h _ _ _ _ _)
    (fun _ _ _ _ _ _ h => by simpa using h) (fun _ _ _ _ _ h => h) cfg ext sess s

/-- A connection hook writes the flag of the bot its client id names, if that bot is
registered. -/
theorem liveFlag_connectionHook (c : String) (connected : Bool) (s : State) (d : String) :
    (finalState ((onRegistry (setClientConnected c connected)).run s)).registry.liveFlag d =
      if (split c '@')[0]? = some d then (s.registry.liveFlag d).map fun _ => connected
      else s.registry.liveFlag d := by
  rw [finalState_onRegistry]
  exact liveFlag_setClientConnected c connected s.registry d

/-- The write of a connection hook to a registered bot, as `flagWrite` says it. -/
theorem liveFlag_connectionHook_of_some {c : String} {connected : Bool} {s : State} {d : String}
    {v : Bool} (hv : s.registry.liveFlag d = some v) :
    (finalState ((onRegistry (setClientConnected c connected)).run s)).registry.liveFlag d =
      some ((if (split c '@')[0]? = some d then some connected else none).getD v) := by
  rw [liveFlag_connectionHook, hv]
  split <;> rfl

/-! ### Without proxy mode -/

section Direct

variable {cfg : Config} {codec : Codec V}

/-- **One event without proxy mode.** No hook waits, so nothing is left suspended, and the event
writes the flag of a registered bot as `flagWrite` says. -/
theorem step_direct {w w' : World V} {e : Event V} (hpm : cfg.proxyMode = false)
    (hs : w.suspended = []) (h : step cfg codec w e = some w') :
    w'.suspended = [] ∧ ∀ d v, w.server.registry.liveFlag d = some v →
      w'.server.registry.liveFlag d = some ((flagWrite d e).getD v) := by
  cases e with
  | authenticate sess ext =>
    obtain ⟨b, s, hr, rfl⟩ := step_authenticate h
    have hkept := flagsKept_authenticate cfg ext sess w.server
    rw [hr] at hkept
    refine ⟨?_, fun d v hv => hkept d v hv⟩
    rcases proxyTable_authenticate hr with ht | ⟨-, hpm', -⟩
    · simp only [proxyTable, Prod.mk.injEq, finalState] at ht
      simp [World.authenticated, hs, ht.2]
    · simp [hpm] at hpm'
  | connected c => cases h; exact ⟨hs, fun d v hv => liveFlag_connectionHook_of_some hv⟩
  | subscribed c topic qos =>
    cases h
    refine ⟨hs, fun d v hv => ?_⟩
    rw [keeps_onBrokerClientSubscribed State.registry (fun _ _ => rfl) _ _ _ _ w.server]
    exact hv
  | received c m now =>
    cases h
    refine ⟨hs, fun d v hv => ?_⟩
    dsimp only [World.received]
    rw [keeps_onBrokerMessageReceived State.registry (fun _ _ => rfl) (fun _ _ => rfl) _ _ _ _ _
      w.server]
    exact hv
  | disconnected c =>
    cases h
    rw [disconnected_of_not (.inl hpm)]
    exact ⟨hs, fun d v hv => liveFlag_connectionHook_of_some hv⟩
  | delivered hc m =>
    obtain ⟨-, -, -, -, rfl⟩ := step_delivered h
    refine ⟨by unfold World.delivered; split <;> exact hs, fun d v hv => ?_⟩
    rw [delivered_keeps State.registry (fun _ _ => rfl)
      (keeps_getMsgTurn State.registry (fun _ _ => rfl) (fun _ _ => rfl) m) w hc]
    exact hv
  | sendCommand cmd r now => cases h; exact ⟨hs, fun d v hv => hv⟩
  | poll i now => obtain ⟨-, -, -, -, rfl⟩ := step_poll h; exact ⟨hs, fun d v hv => hv⟩
  | timeout i now => obtain ⟨-, -, -, -, rfl⟩ := step_timeout h; exact ⟨hs, fun d v hv => hv⟩
  | cancel i => obtain ⟨-, -, -, rfl⟩ := step_cancel h; exact ⟨hs, fun d v hv => hv⟩
  | resume k =>
    obtain ⟨sp, hsp, -⟩ := step_resume h
    simp [hs] at hsp

theorem suspended_of_reachable_direct {w : World V} (hpm : cfg.proxyMode = false)
    (h : Reachable cfg codec w) : w.suspended = [] := by
  induction h with
  | init registry zone => rfl
  | step e _ hs ih => exact (step_direct hpm ih hs).1

/-- The last write of a list of events, after those of its first event. -/
theorem getLast?_filterMap_cons {α β : Type} (f : α → Option β) (a : α) (as : List α) (b : β) :
    ((a :: as).filterMap f).getLast?.getD b = (as.filterMap f).getLast?.getD ((f a).getD b) := by
  cases h : f a <;> simp [List.filterMap_cons, h, List.getLast?_cons]

theorem liveFlag_run_direct (hpm : cfg.proxyMode = false) {d : String} :
    ∀ {w w' : World V} {es : List (Event V)} {v : Bool}, w.suspended = [] →
      run cfg codec w es = some w' → w.server.registry.liveFlag d = some v →
      w'.server.registry.liveFlag d = some ((es.filterMap (flagWrite d)).getLast?.getD v)
  | _, _, [], _, _, hrun, hv => by cases hrun; exact hv
  | w, w', e :: es, v, hs, hrun, hv => by
    simp only [run, Option.bind_eq_some] at hrun
    obtain ⟨w₁, h₁, h₂⟩ := hrun
    obtain ⟨hs₁, hv₁⟩ := step_direct hpm hs h₁
    rw [getLast?_filterMap_cons]
    exact liveFlag_run_direct hpm hs₁ h₂ (hv₁ d v hv)

/-- **Without proxy mode, the last connection hook wins.** With `bumper_proxy_mode` off, in every
run from a reachable world, a bot that is registered at the start ends with the live flag that
the last `on_broker_client_connected` or `on_broker_client_disconnected` for a client id naming it
wrote, or with the flag it had if there was none: whatever else the run does, `authenticate`
re-registering the bot included. -/
theorem live_flag_last_hook_wins {w w' : World V} (hpm : cfg.proxyMode = false)
    (hw : Reachable cfg codec w) {es : List (Event V)} (hrun : run cfg codec w es = some w')
    {d : String} {v : Bool} (hv : w.server.registry.liveFlag d = some v) :
    w'.server.registry.liveFlag d = some ((es.filterMap (flagWrite d)).getLast?.getD v) :=
  liveFlag_run_direct hpm (suspended_of_reachable_direct hpm hw) hrun hv

end Direct

/-- Bot `d`, registered and offline. -/
def botDRegistry : Registry := ⟨[⟨"d", some "sn", "cls", "res", "eco-ng", false⟩], []⟩

/-- Bot `d` connects, authenticates again and disconnects; then an operator whose user id is `d`
connects. -/
def dRun : List (Event String) :=
  [.connected "d@cls/res", .authenticate (botSession "d@cls/res") upstreamOk,
    .disconnected "d@cls/res", .connected "d@ecouser/r"]

/-- The world after `dRun` without proxy mode. -/
def dWorld : World String :=
  (run directConfig textCodec (World.init botDRegistry) dRun).getD (World.init botDRegistry)

theorem live_flag_last_hook_wins_d :
    run directConfig textCodec (World.init botDRegistry) dRun = some dWorld ∧
      dWorld.server.registry.liveFlag "d" = some true :=
  ⟨rfl, live_flag_last_hook_wins rfl (.init _ _)
    (rfl : run directConfig textCodec (World.init botDRegistry) dRun = some dWorld) rfl⟩

/-! ### In proxy mode -/

/-- **A reconnect during the disconnect is undone.** In proxy mode, for any world and any client
id `c` with an upstream client, whose text before the first `@` is the DID of a registered bot:
when the disconnect hook of `c` waits for the upstream disconnect and the hook of a reconnect of
`c` runs meanwhile, the bot ends marked offline, although the last hook that ran for it marked it
live; when the reconnect's hook runs after the disconnect hook has ended, the bot ends live. -/
theorem reconnect_during_disconnect_marks_offline {cfg : Config} {codec : Codec V} (w : World V)
    (hpm : cfg.proxyMode = true) {c : String} {h : Nat}
    (hl : w.server.proxyclients.lookup c = some h) {d : String}
    (hd : (split c '@')[0]? = some d) {v : Bool} (hv : w.server.registry.liveFlag d = some v) :
    (run cfg codec w [.disconnected c, .connected c, .resume w.suspended.length]).map
        (fun w' => w'.server.registry.liveFlag d) = some (some false) ∧
    (run cfg codec w [.disconnected c, .resume w.suspended.length, .connected c]).map
        (fun w' => w'.server.registry.liveFlag d) = some (some true) := by
  have hdis : step cfg codec w (.disconnected c) = some { w with
      server := finalState ((disconnect h).run w.server)
      suspended := w.suspended ++ [.disconnect c] } := by
    simp only [step, disconnected_of_lookup hpm hl]
  have hcon : ∀ w₀ : World V, step cfg codec w₀ (.connected c) = some { w₀ with
      server := finalState ((onRegistry (setClientConnected c true)).run w₀.server) } :=
    fun _ => rfl
  have hres : ∀ w₀ : World V, w₀.suspended = w.suspended ++ [.disconnect c] →
      step cfg codec w₀ (.resume w.suspended.length) =
        some (w₀.resume w.suspended.length (.disconnect c)) := fun w₀ h₀ => by
    simp [step, h₀]
  -- each connection hook writes its flag over the one before
  have hwrite : ∀ (s : State) (b : Bool) {u : Bool}, s.registry.liveFlag d = some u →
      (finalState ((onRegistry (setClientConnected c b)).run s)).registry.liveFlag d = some b :=
    fun s b u hu => by rw [liveFlag_connectionHook_of_some hu, hd]; simp
  constructor <;> simp only [run, hdis, hcon, hres, Option.some_bind, Option.map_some']
  · exact congrArg some (hwrite _ false (hwrite _ true hv))
  · exact congrArg some (hwrite _ true (hwrite _ false hv))

theorem reconnect_during_disconnect_marks_offline_botWorld :
    (run proxyConfig textCodec botWorld
        [.disconnected "bot@cls/res", .connected "bot@cls/res", .resume botWorld.suspended.length]).map
        (fun w' => w'.server.registry.liveFlag "bot") = some (some false) ∧
    (run proxyConfig textCodec botWorld
        [.disconnected "bot@cls/res", .resume botWorld.suspended.length, .connected "bot@cls/res"]).map
        (fun w' => w'.server.registry.liveFlag "bot") = some (some true) :=
  reconnect_during_disconnect_marks_offline botWorld rfl
    (by decide : botWorld.server.proxyclients.lookup "bot@cls/res" = some 0) (by decide) rfl

end Bumper.System.Presence
